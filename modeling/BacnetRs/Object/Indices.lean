/-
  BacnetRs.Object.Indices — the indices of the database (`object/database.rs`).

  Beside the objects themselves the database keeps their names and, for each
  type, their identifiers.  `Indexed` says that both agree with what is stored;
  it holds of a new database and each operation keeps it, whether it succeeds
  or fails.

    * `Operation.attempt_cases` — one operation keeps the indices, and counts
                                  itself, when it is one that counts.
    * `perform_indexed`         — so do any operations.
    * `indices_agree`           — what the indices say is what is stored.
    * `revision_wraps`          — the count is of 32 bits.
    * `next_instance_iff`       — when the next instance of a type is available.

  The listing of every object, which the engines go through, is here too.
-/
import Mathlib.Data.List.Sort
import BacnetRs.Object.Effects
import BacnetRs.Object.Store

namespace BacnetRs.Object

open BacnetRs.Encoding BacnetRs.Property

namespace ObjectDatabase

/-! ## §1. The operations -/

/-- `get_object_by_name`. -/
def getObjectByName (self : ObjectDatabase) (name : String) : Except ObjectError ObjectIdentifier :=
  match self.nameIndex.lookup name with
  | some identifier => .ok identifier
  | none => .error .notFound

/-- `get_objects_by_type`. -/
def getObjectsByType (self : ObjectDatabase) (objectType : ObjectType) : List ObjectIdentifier :=
  (self.typeIndex.lookup objectType).getD []

/-- What changes the objects of a database. -/
inductive Operation where
  | addObject (object : HostedObject)
  | removeObject (identifier : ObjectIdentifier)
  | setProperty (identifier : ObjectIdentifier) (property : PropertyIdentifier)
      (value : PropertyValue)
  | setPropertyWithPriority (identifier : ObjectIdentifier) (property : PropertyIdentifier)
      (value : PropertyValue) (priority : Option UInt8)

namespace Operation

/-- Call the operation. -/
def attempt (self : ObjectDatabase) : Operation → Attempt ObjectError ObjectDatabase
  | .addObject object => self.addObject object
  | .removeObject identifier => self.removeObject identifier
  | .setProperty identifier property value => self.setProperty identifier property value
  | .setPropertyWithPriority identifier property value priority =>
      self.setPropertyWithPriority identifier property value priority

/-- Whether the database counts the operation as a revision: of the writes, that of
Object_Name. -/
def Revises : Operation → Prop
  | .addObject _ => True
  | .removeObject _ => True
  | .setProperty _ property _ => property = .objectName
  | .setPropertyWithPriority _ property _ _ => property = .objectName

instance : DecidablePred Revises
  | .addObject _ => .isTrue trivial
  | .removeObject _ => .isTrue trivial
  | .setProperty _ property _ => inferInstanceAs (Decidable (property = .objectName))
  | .setPropertyWithPriority _ property _ _ => inferInstanceAs (Decidable (property = .objectName))

end Operation

/-- The database after the operations, those that failed among them. -/
def perform (self : ObjectDatabase) (operations : List Operation) : ObjectDatabase :=
  operations.foldl (fun database operation => (operation.attempt database).1) self

/-- The indices agree with what is stored. -/
structure Indexed (database : ObjectDatabase) : Prop where
  /-- A name is an object's that has it. -/
  name_iff : ∀ name identifier, database.nameIndex.lookup name = some identifier
    ↔ ∃ object, database.objects.lookup identifier = some object ∧ nameOf object = .ok name
  /-- A type has its objects. -/
  mem_iff : ∀ objectType identifier, identifier ∈ database.getObjectsByType objectType
    ↔ identifier.objectType = objectType ∧ (database.objects.lookup identifier).isSome = true
  nodup : ∀ objectType, (database.getObjectsByType objectType).Nodup

variable {self : ObjectDatabase}

/-- An object's name is found under it. -/
theorem Indexed.lookup_name (h : self.Indexed) {identifier : ObjectIdentifier}
    {object : HostedObject} {name : String} (hobject : self.objects.lookup identifier = some object)
    (hname : nameOf object = .ok name) : self.nameIndex.lookup name = some identifier :=
  (h.name_iff name identifier).mpr ⟨object, hobject, hname⟩

/-! ## §2. Listing every object -/

/-- The order of the listing: by type, then by instance. -/
def Precedes (x y : ObjectIdentifier) : Prop :=
  x.objectType.value < y.objectType.value
    ∨ x.objectType.value = y.objectType.value ∧ x.instanceNumber ≤ y.instanceNumber

instance : DecidableRel Precedes := fun x y =>
  inferInstanceAs (Decidable (x.objectType.value < y.objectType.value
    ∨ x.objectType.value = y.objectType.value ∧ x.instanceNumber ≤ y.instanceNumber))

instance : Std.Total Precedes where
  total := by
    intro x y
    unfold Precedes
    simp only [UInt32.lt_iff_toNat_lt, UInt32.le_iff_toNat_le, ← UInt32.toNat_inj]
    omega

instance : IsTrans ObjectIdentifier Precedes where
  trans := by
    intro x y z
    unfold Precedes
    simp only [UInt32.lt_iff_toNat_lt, UInt32.le_iff_toNat_le, ← UInt32.toNat_inj]
    omega

instance : Std.Antisymm Precedes where
  antisymm := by
    rintro ⟨⟨s⟩, i⟩ ⟨⟨t⟩, j⟩
    unfold Precedes
    simp only [UInt32.lt_iff_toNat_lt, UInt32.le_iff_toNat_le, ObjectIdentifier.mk.injEq,
      ObjectType.mk.injEq, ← UInt32.toNat_inj]
    omega

theorem getAllObjects_perm (self : ObjectDatabase) :
    self.getAllObjects.Perm self.objects.keys := List.mergeSort_perm _ _

/-- **The listing has every object once.** -/
theorem getAllObjects_nodup (self : ObjectDatabase) : self.getAllObjects.Nodup :=
  (getAllObjects_perm self).nodup_iff.mpr self.objects.keys_nodup

theorem mem_getAllObjects {self : ObjectDatabase} {identifier : ObjectIdentifier} :
    identifier ∈ self.getAllObjects ↔ (self.objects.lookup identifier).isSome = true := by
  rw [(getAllObjects_perm self).mem_iff]
  exact AList.lookup_isSome.symm

/-- The listing, insertion by insertion. -/
theorem getAllObjects_eq (self : ObjectDatabase) :
    self.getAllObjects = self.objects.keys.insertionSort Precedes := by
  rw [← List.mergeSort_eq_insertionSort]
  rfl

/-! ## §3. A new database -/

/-- **A new database is indexed**, when its Device object is a Device by its identifier. -/
theorem new_indexed {device : Device} (hdevice : device.identifier.objectType = .device) :
    (new device).Indexed := by
  have hname : nameOf (⟨.device, device⟩ : HostedObject) = .ok device.objectName := rfl
  constructor
  -- The index holds the device's name, and the table its object: each is the only entry.
  · intro name identifier
    unfold new
    rw [KeyedTable.lookup_insert_eq_ite, KeyedTable.lookup_insert_eq_ite]
    constructor
    · intro h
      split at h
      · next heq =>
          cases h
          refine ⟨_, if_pos rfl, ?_⟩
          rw [hname, heq]
      · cases h
    · rintro ⟨object, hobject, hobjectName⟩
      split at hobject
      · next heq =>
          cases hobject
          rw [hname] at hobjectName
          cases hobjectName
          rw [if_pos rfl, heq]
      · cases hobject
  · intro objectType identifier
    unfold getObjectsByType new
    rw [KeyedTable.lookup_insert_eq_ite, KeyedTable.lookup_insert_eq_ite]
    by_cases hid : identifier = device.identifier
    · subst hid
      rw [hdevice, if_pos rfl]
      by_cases htype : objectType = .device
      · simp [htype]
      · simp [htype, Ne.symm htype]
    · rw [if_neg hid]
      by_cases htype : objectType = .device
      · simp [htype, hid]
      · simp [htype]
  · intro objectType
    unfold getObjectsByType new
    rw [KeyedTable.lookup_insert_eq_ite]
    split
    · exact List.nodup_singleton _
    · exact List.nodup_nil

/-! ## §4. Adding and removing -/

/-- Adding an object that is accepted. -/
structure Added (before : ObjectDatabase) (object : HostedObject) (name : String)
    (after : ObjectDatabase) : Prop where
  named : nameOf object = .ok name
  absent : before.objects.lookup (BacnetObject.identifier object) = none
  free : before.nameIndex.lookup name = none
  objects : after.objects = before.objects.insert (BacnetObject.identifier object) object
  names : after.nameIndex = before.nameIndex.insert name (BacnetObject.identifier object)
  types : after.typeIndex = before.typeIndex.insert (BacnetObject.identifier object).objectType
    (before.getObjectsByType (BacnetObject.identifier object).objectType
      ++ [BacnetObject.identifier object])
  revision : after.revision = before.revision + 1
  deviceId : after.deviceId = before.deviceId

/-- `add_object` adds the object or leaves the database alone. -/
theorem addObject_cases (self : ObjectDatabase) (object : HostedObject) :
    (∃ e, self.addObject object = .refused self e)
      ∨ ∃ name database, self.addObject object = .done database
          ∧ self.Added object name database := by
  unfold addObject
  cases hname : nameOf object with
  | error e => exact .inl ⟨e, rfl⟩
  | ok name =>
      simp only
      split
      · exact .inl ⟨_, rfl⟩
      · next hfree =>
          split
          · exact .inl ⟨_, rfl⟩
          · next hunused =>
              refine .inr ⟨name, _, rfl, hname, ?_, ?_, rfl, rfl, rfl, rfl, rfl⟩
              · simpa using hfree
              · simpa using hunused

theorem Added.indexed {object : HostedObject} {name : String} {database : ObjectDatabase}
    (h : self.Added object name database) (hself : self.Indexed) : database.Indexed := by
  constructor
  · intro other identifier
    rw [h.names, h.objects, KeyedTable.lookup_insert_eq_ite, KeyedTable.lookup_insert_eq_ite]
    by_cases hother : other = name
    · subst hother
      rw [if_pos rfl]
      constructor
      · intro heq
        cases heq
        exact ⟨object, if_pos rfl, h.named⟩
      · rintro ⟨x, hx, hxname⟩
        split at hx
        · next heq => rw [heq]
        · -- The name was free, so no object that was there has it.
          have htaken := hself.lookup_name hx hxname
          rw [h.free] at htaken
          cases htaken
    · rw [if_neg hother, hself.name_iff]
      constructor
      · rintro ⟨x, hx, hxname⟩
        refine ⟨x, ?_, hxname⟩
        rw [if_neg, hx]
        rintro rfl
        rw [h.absent] at hx
        cases hx
      · rintro ⟨x, hx, hxname⟩
        split at hx
        · cases hx
          rw [h.named] at hxname
          cases hxname
          exact absurd rfl hother
        · exact ⟨x, hx, hxname⟩
  · intro objectType identifier
    unfold getObjectsByType
    rw [h.types, h.objects, KeyedTable.lookup_insert_eq_ite, KeyedTable.lookup_insert_eq_ite]
    have hmem := hself.mem_iff objectType identifier
    by_cases htype : objectType = (BacnetObject.identifier object).objectType
    · subst htype
      rw [if_pos rfl, Option.getD_some, List.mem_append, List.mem_singleton, hmem]
      by_cases hid : identifier = BacnetObject.identifier object
      · simp [hid]
      · simp [hid]
    · rw [if_neg htype]
      refine hmem.trans ?_
      by_cases hid : identifier = BacnetObject.identifier object
      · simp [hid, Ne.symm htype]
      · rw [if_neg hid]
  · intro objectType
    unfold getObjectsByType
    rw [h.types, KeyedTable.lookup_insert_eq_ite]
    split
    · rw [Option.getD_some, List.nodup_append]
      refine ⟨hself.nodup _, List.nodup_singleton _, ?_⟩
      rintro listed hlisted added hadded rfl
      rw [List.mem_singleton] at hadded
      subst hadded
      have hpresent := ((hself.mem_iff _ _).mp hlisted).2
      rw [h.absent] at hpresent
      cases hpresent
    · exact hself.nodup objectType

/-- Removing an object that is there. -/
structure Removed (before : ObjectDatabase) (identifier : ObjectIdentifier)
    (object : HostedObject) (name : String) (after : ObjectDatabase) : Prop where
  present : before.objects.lookup identifier = some object
  named : nameOf object = .ok name
  objects : after.objects = before.objects.erase identifier
  names : after.nameIndex = before.nameIndex.erase name
  types : after.typeIndex = KeyedTable.adjust identifier.objectType
    (fun identifiers => identifiers.filter (fun id => id ≠ identifier)) before.typeIndex
  revision : after.revision = before.revision + 1
  deviceId : after.deviceId = before.deviceId

/-- `remove_object` removes the object or leaves the database alone. -/
theorem removeObject_cases (self : ObjectDatabase) (identifier : ObjectIdentifier) :
    (∃ e, self.removeObject identifier = .refused self e)
      ∨ ∃ object name database, self.removeObject identifier = .done database
          ∧ self.Removed identifier object name database := by
  unfold removeObject
  split
  · exact .inl ⟨_, rfl⟩
  · split
    · exact .inl ⟨_, rfl⟩
    · next object hobject =>
        split
        · exact .inl ⟨_, rfl⟩
        · next name hname => exact .inr ⟨object, name, _, rfl, hobject, hname, rfl, rfl, rfl, rfl, rfl⟩

theorem Removed.indexed {identifier : ObjectIdentifier} {object : HostedObject} {name : String}
    {database : ObjectDatabase} (h : self.Removed identifier object name database)
    (hself : self.Indexed) : database.Indexed := by
  -- Every type's list loses the identifier, if it was there at all.
  have hlisted : ∀ objectType, database.getObjectsByType objectType
      = (self.getObjectsByType objectType).filter
          (fun id => decide (objectType = identifier.objectType → id ≠ identifier)) := by
    intro objectType
    unfold getObjectsByType
    rw [h.types, KeyedTable.lookup_adjust]
    split
    · next heq => cases self.typeIndex.lookup objectType <;> simp [heq]
    · next hne => simp [hne]
  constructor
  · intro other i
    rw [h.names, h.objects, KeyedTable.lookup_erase_eq_ite, KeyedTable.lookup_erase_eq_ite]
    have hremoved := hself.lookup_name h.present h.named
    -- The erased name pointed at the removed object and at no other.
    by_cases hother : other = name
    · subst hother
      simp only [if_true, reduceCtorEq, false_iff]
      rintro ⟨x, hx, hxname⟩
      split at hx
      · cases hx
      · next hne =>
          have hfound := hself.lookup_name hx hxname
          rw [hremoved] at hfound
          exact hne (Option.some.inj hfound).symm
    · rw [if_neg hother, hself.name_iff]
      constructor
      · rintro ⟨x, hx, hxname⟩
        refine ⟨x, ?_, hxname⟩
        rw [if_neg, hx]
        rintro rfl
        rw [h.present] at hx
        cases hx
        rw [h.named] at hxname
        cases hxname
        exact hother rfl
      · rintro ⟨x, hx, hxname⟩
        split at hx
        · cases hx
        · exact ⟨x, hx, hxname⟩
  · intro objectType i
    rw [hlisted, List.mem_filter, hself.mem_iff, h.objects, KeyedTable.lookup_erase_eq_ite]
    by_cases hid : i = identifier
    · subst hid
      simp only [if_true, Option.isSome_none, Bool.false_eq_true, and_false, iff_false]
      rintro ⟨⟨htype, _⟩, hkept⟩
      exact of_decide_eq_true hkept htype.symm rfl
    · simp [hid]
  · intro objectType
    rw [hlisted]
    exact (hself.nodup objectType).filter _

/-! ## §5. Writing -/

/-- A write without a priority is one that gives none. -/
theorem setProperty_eq (self : ObjectDatabase) (identifier : ObjectIdentifier)
    (property : PropertyIdentifier) (value : PropertyValue) :
    self.setProperty identifier property value
      = self.setPropertyWithPriority identifier property value none := by
  unfold setProperty setPropertyWithPriority
  congr 1
  funext c state
  exact LawfulObject.setProperty_eq

/-- What a write that succeeds does to the indices. -/
structure Renamed (before : ObjectDatabase) (identifier : ObjectIdentifier)
    (old new : HostedObject) (property : PropertyIdentifier) (after : ObjectDatabase) : Prop where
  present : before.objects.lookup identifier = some old
  objects : ∀ other, after.objects.lookup other
    = if other = identifier then some new else before.objects.lookup other
  types : after.typeIndex = before.typeIndex
  deviceId : after.deviceId = before.deviceId
  kept : property ≠ .objectName → nameOf new = nameOf old
    ∧ after.nameIndex = before.nameIndex ∧ after.revision = before.revision
  renamed : property = .objectName → ∃ oldName newName, nameOf old = .ok oldName
    ∧ nameOf new = .ok newName
    ∧ (∀ other, before.nameIndex.lookup newName = some other → other = identifier)
    ∧ after.nameIndex = (before.nameIndex.erase oldName).insert newName identifier
    ∧ after.revision = before.revision + 1

theorem nameOf_of_read {object : HostedObject} {name : String}
    (h : BacnetObject.getProperty object .objectName = .ok (.characterString name)) :
    nameOf object = .ok name := by
  unfold nameOf
  rw [h]

theorem requestedObjectName_of_ne {property : PropertyIdentifier} (h : property ≠ .objectName)
    (value : PropertyValue) : requestedObjectName property value = none := by
  unfold requestedObjectName
  split
  · exact absurd rfl h
  · rfl

/-- **A write that succeeds renames its object, or leaves the indices alone.** -/
theorem setPropertyWithPriority_renamed {identifier : ObjectIdentifier}
    {property : PropertyIdentifier} {value : PropertyValue} {priority : Option UInt8}
    {database : ObjectDatabase}
    (h : self.setPropertyWithPriority identifier property value priority = (database, .ok ())) :
    ∃ old new, self.Renamed identifier old new property database := by
  obtain ⟨old, new, hold, hset, hobjects, hdeviceId, _⟩ := setPropertyWithPriority_eq_ok h
  have hrename := HostedObject.write_name hset
  unfold setPropertyWithPriority updateObject at h
  rw [hold] at h
  simp only at h
  obtain ⟨state, hstate, hnew⟩ := Attempt.within_eq_ok_iff.mp hset
  have hresult : (BacnetObject.setPropertyWithPriority old.state property value priority).2
      = .ok () := congrArg Prod.snd hstate
  have hmoved : (BacnetObject.setPropertyWithPriority old.state property value priority).1
      = state := congrArg Prod.fst hstate
  -- Only a write of the name moves the name index.
  by_cases hproperty : property = .objectName
  · subst hproperty
    rw [if_pos rfl] at hrename
    obtain ⟨newName, rfl, hread⟩ := hrename
    obtain ⟨oldName, holdName⟩ := nameOf_isOk old
    have hnewName := nameOf_of_read hread
    have hupdated : (self.withObjectMut identifier (fun c state =>
        (BacnetObject.setPropertyWithPriority state .objectName (.characterString newName)
          priority).1)).objects.lookup identifier = some new := by
      rw [lookup_withObjectMut, if_pos rfl, hold, hnew, ← hmoved]
      rfl
    have hrequested : requestedObjectName .objectName (.characterString newName)
        = some newName := rfl
    rw [hrequested] at h
    simp only [Option.bind_some] at h
    split at h
    · exact absurd h Attempt.refused_ne_ok
    -- The index had no such name, or had it for this very object.
    · next htaken =>
        have hmapM : (some newName).mapM (fun _ => nameOf old) = .ok (some oldName) := by
          show Option.some <$> nameOf old = _
          rw [holdName]
          rfl
        rw [hmapM, hresult] at h
        simp only [indexName, hupdated, hnewName, if_true] at h
        cases h
        refine ⟨old, new, hold, hobjects, rfl, hdeviceId, fun hne => absurd rfl hne, fun _ =>
          ⟨oldName, newName, holdName, hnewName, ?_, rfl, rfl⟩⟩
        intro other hother
        rw [hother] at htaken
        simpa using htaken
  -- Any other property leaves the name, and with it the index, alone.
  · rw [if_neg hproperty] at hrename
    rw [requestedObjectName_of_ne hproperty] at h
    have hmapM : (none : Option String).mapM (fun _ => nameOf old)
        = (.ok none : Except ObjectError (Option String)) := rfl
    rw [hmapM, hresult] at h
    simp only [Option.bind_none, Option.any_none, Bool.false_eq_true, if_false, indexName,
      if_neg hproperty] at h
    cases h
    refine ⟨old, new, hold, hobjects, rfl, hdeviceId, fun _ => ⟨?_, rfl, rfl⟩,
      fun heq => absurd heq hproperty⟩
    unfold nameOf
    rw [hrename]

/-- A new name finds the object that was given it, the old one none, and all others what they
found before. -/
theorem Renamed.name_iff_of_renamed {identifier : ObjectIdentifier} {old new : HostedObject}
    {database : ObjectDatabase} (h : self.Renamed identifier old new .objectName database)
    (hself : self.Indexed) (name : String) (i : ObjectIdentifier) :
    database.nameIndex.lookup name = some i
      ↔ ∃ x, database.objects.lookup i = some x ∧ nameOf x = .ok name := by
  obtain ⟨oldName, newName, hold, hnew, hfree, hindex, _⟩ := h.renamed rfl
  have hheld := hself.lookup_name h.present hold
  rw [h.objects, hindex, KeyedTable.lookup_insert_eq_ite, KeyedTable.lookup_erase_eq_ite]
  by_cases hname : name = newName
  · subst hname
    rw [if_pos rfl]
    constructor
    · intro heq
      cases heq
      exact ⟨new, if_pos rfl, hnew⟩
    · rintro ⟨x, hx, hxname⟩
      split at hx
      · next heq => rw [heq]
      · rw [hfree i (hself.lookup_name hx hxname)]
  · rw [if_neg hname]
    have hnotNew : ∀ x, (if i = identifier then some new else self.objects.lookup i) = some x →
        nameOf x = .ok name → i ≠ identifier ∧ self.objects.lookup i = some x := by
      intro x hx hxname
      split at hx
      · cases hx
        rw [hnew] at hxname
        cases hxname
        exact absurd rfl hname
      · next hne => exact ⟨hne, hx⟩
    by_cases holdName : name = oldName
    · -- Only the object that was renamed had the old name.
      subst holdName
      simp only [if_true, reduceCtorEq, false_iff]
      rintro ⟨x, hx, hxname⟩
      obtain ⟨hne, hlookup⟩ := hnotNew x hx hxname
      have hfound := hself.lookup_name hlookup hxname
      rw [hheld] at hfound
      exact hne (Option.some.inj hfound).symm
    · rw [if_neg holdName, hself.name_iff]
      constructor
      · rintro ⟨x, hx, hxname⟩
        refine ⟨x, ?_, hxname⟩
        rw [if_neg, hx]
        rintro rfl
        rw [h.present] at hx
        cases hx
        rw [hold] at hxname
        cases hxname
        exact holdName rfl
      · rintro ⟨x, hx, hxname⟩
        exact ⟨x, (hnotNew x hx hxname).2, hxname⟩

/-- An object that keeps its name is found by it as before. -/
theorem Renamed.name_iff_of_kept {identifier : ObjectIdentifier} {old new : HostedObject}
    {property : PropertyIdentifier} {database : ObjectDatabase}
    (h : self.Renamed identifier old new property database) (hself : self.Indexed)
    (hproperty : property ≠ .objectName) (name : String) (i : ObjectIdentifier) :
    database.nameIndex.lookup name = some i
      ↔ ∃ x, database.objects.lookup i = some x ∧ nameOf x = .ok name := by
  obtain ⟨hkept, hindex, _⟩ := h.kept hproperty
  rw [h.objects, hindex, hself.name_iff]
  by_cases hid : i = identifier
  · rw [if_pos hid, hid, h.present]
    constructor
    · rintro ⟨x, hx, hxname⟩
      cases hx
      exact ⟨new, rfl, hkept.trans hxname⟩
    · rintro ⟨x, hx, hxname⟩
      cases hx
      exact ⟨old, rfl, hkept.symm.trans hxname⟩
  · rw [if_neg hid]

theorem Renamed.indexed {identifier : ObjectIdentifier} {old new : HostedObject}
    {property : PropertyIdentifier} {database : ObjectDatabase}
    (h : self.Renamed identifier old new property database) (hself : self.Indexed) :
    database.Indexed := by
  have hstored : ∀ i, (database.objects.lookup i).isSome = (self.objects.lookup i).isSome := by
    intro i
    rw [h.objects]
    split
    · next heq =>
        rw [heq, h.present]
        rfl
    · rfl
  constructor
  · intro name i
    by_cases hproperty : property = .objectName
    · subst hproperty
      exact h.name_iff_of_renamed hself name i
    · exact h.name_iff_of_kept hself hproperty name i
  · intro objectType i
    unfold getObjectsByType
    rw [h.types, hstored]
    exact hself.mem_iff objectType i
  · unfold getObjectsByType
    rw [h.types]
    exact hself.nodup

/-- A change that keeps names keeps the indices. -/
theorem Indexed.withObjectMut (h : self.Indexed) {identifier : ObjectIdentifier}
    {change : ∀ c : ObjectClass, c.State → c.State}
    (hname : ∀ c state, nameOf ⟨c, change c state⟩ = nameOf ⟨c, state⟩) :
    (self.withObjectMut identifier change).Indexed := by
  constructor
  · intro name other
    show self.nameIndex.lookup name = some other ↔ _
    rw [h.name_iff, lookup_withObjectMut]
    split
    · cases hobject : self.objects.lookup other with
      | none => simp
      | some object =>
          simp only [Option.map_some, Option.some.injEq, exists_eq_left']
          show _ ↔ nameOf ⟨object.cls, change object.cls object.state⟩ = .ok name
          rw [hname]
    · exact Iff.rfl
  · intro objectType other
    show other ∈ self.getObjectsByType objectType ↔ _
    rw [h.mem_iff, lookup_withObjectMut]
    split
    · rw [Option.isSome_map]
    · exact Iff.rfl
  · exact h.nodup

/-! ## §6. Any operations -/

/-- **One operation** fails and changes nothing, or keeps the indices in agreement and
counts itself. -/
theorem Operation.attempt_cases (self : ObjectDatabase) (operation : Operation) :
    (∃ e, operation.attempt self = .refused self e)
      ∨ ∃ database, operation.attempt self = .done database
          ∧ (self.Indexed → database.Indexed)
          ∧ database.deviceId = self.deviceId
          ∧ database.revision = self.revision + if operation.Revises then 1 else 0 := by
  -- A write revises the database exactly where it is of the name.
  have hwrite : ∀ identifier property value priority,
      (∃ e, self.setPropertyWithPriority identifier property value priority = .refused self e)
        ∨ ∃ database, self.setPropertyWithPriority identifier property value priority
              = .done database
            ∧ (self.Indexed → database.Indexed)
            ∧ database.deviceId = self.deviceId
            ∧ database.revision = self.revision + if property = .objectName then 1 else 0 := by
    intro identifier property value priority
    cases hresult : self.setPropertyWithPriority identifier property value priority with
    | mk database result =>
        cases result with
        | error e =>
            rw [unchanged_of_refused hresult]
            exact .inl ⟨e, rfl⟩
        | ok u =>
            obtain ⟨old, new, hrenamed⟩ := setPropertyWithPriority_renamed hresult
            refine .inr ⟨database, rfl, hrenamed.indexed, hrenamed.deviceId, ?_⟩
            split
            · next hproperty =>
                obtain ⟨_, _, _, _, _, _, hrevision⟩ := hrenamed.renamed hproperty
                exact hrevision
            · next hproperty =>
                rw [(hrenamed.kept hproperty).2.2]
                exact (UInt32.add_zero _).symm
  cases operation with
  | addObject object =>
      rcases addObject_cases self object with hrefused | ⟨name, database, hdone, hadded⟩
      · exact .inl hrefused
      · exact .inr ⟨database, hdone, hadded.indexed, hadded.deviceId, hadded.revision⟩
  | removeObject identifier =>
      rcases removeObject_cases self identifier with
        hrefused | ⟨object, name, database, hdone, hremoved⟩
      · exact .inl hrefused
      · exact .inr ⟨database, hdone, hremoved.indexed, hremoved.deviceId, hremoved.revision⟩
  | setProperty identifier property value =>
      show (∃ e, self.setProperty identifier property value = _) ∨ ∃ database,
        self.setProperty identifier property value = _ ∧ _
      -- A plain write is a write at no priority.
      rw [setProperty_eq]
      exact hwrite identifier property value none
  | setPropertyWithPriority identifier property value priority =>
      exact hwrite identifier property value priority

/-- **So do any operations**, in any order. -/
theorem perform_indexed (operations : List Operation) (h : self.Indexed) :
    (self.perform operations).Indexed ∧ (self.perform operations).deviceId = self.deviceId := by
  induction operations generalizing self with
  | nil => exact ⟨h, rfl⟩
  | cons operation rest ih =>
      show (perform (operation.attempt self).1 rest).Indexed
        ∧ (perform (operation.attempt self).1 rest).deviceId = self.deviceId
      rcases operation.attempt_cases self with
        ⟨e, hrefused⟩ | ⟨database, hdone, hindexed, hdeviceId, _⟩
      · rw [hrefused]
        exact ih h
      · rw [hdone, ← hdeviceId]
        exact ih (hindexed h)

/-- What the database answers itself, of the Device object. -/
def answeredProperties : List PropertyIdentifier :=
  [.localDate, .localTime, .utcOffset, .daylightSavingsStatus, .databaseRevision,
    .protocolObjectTypesSupported]

/-- **Every other property of the standard's is read of the object.** -/
theorem getProperty_stored {property : PropertyIdentifier} (hproperty : property ∉ answeredProperties)
    (hstandard : property.value < firstProprietary) (self : ObjectDatabase)
    (identifier : ObjectIdentifier) :
    self.getProperty identifier property = self.getStoredProperty identifier property := by
  simp only [answeredProperties, List.mem_cons, List.not_mem_nil, or_false, not_or] at hproperty
  obtain ⟨hdate, htime, hoffset, hsavings, hrevision, htypes⟩ := hproperty
  have hproprietary : self.proprietaryProperty identifier property = none := if_pos hstandard
  have hclock : self.clock.bind (fun clock => clock.get property) = none := by
    cases self.clock with
    | none => rfl
    | some clock =>
        show clock.get property = none
        unfold DeviceClock.get
        split <;> first | contradiction | rfl
  have hdevice : self.deviceProperty property = none := by
    unfold deviceProperty
    split <;> first | contradiction | rfl
  unfold getProperty
  rw [hproprietary, hclock, hdevice]
  exact ite_self _

/-- The name an object that is stored reads is the one it answers with. -/
theorem reads_name_iff {identifier : ObjectIdentifier} {name : String} :
    self.getProperty identifier .objectName = .ok (.characterString name)
      ↔ ∃ object, self.objects.lookup identifier = some object ∧ nameOf object = .ok name := by
  rw [getProperty_stored (by decide) (by decide)]
  unfold getStoredProperty
  cases self.objects.lookup identifier with
  | none => simp
  | some object =>
      simp only [Option.some.injEq, exists_eq_left']
      obtain ⟨held, hheld⟩ := object.named
      rw [hheld, nameOf_of_read hheld]
      simp

/-- **The indices agree with the objects after any operations**: a name finds the object
that reads it, so names are unique; a type lists its objects once each; the Device object is
there; and the revision moves by one, modulo 2^32, for what adds, removes or renames. -/
theorem indices_agree (device : Device) (hdevice : device.identifier.objectType = .device)
    (operations : List Operation) :
    let database := (new device).perform operations
    (∀ name identifier, database.getObjectByName name = .ok identifier
        ↔ database.getProperty identifier .objectName = .ok (.characterString name))
      ∧ (∀ i j name, database.getProperty i .objectName = .ok (.characterString name) →
          database.getProperty j .objectName = .ok (.characterString name) → i = j)
      ∧ (∀ objectType, (database.getObjectsByType objectType).Nodup
          ∧ ∀ identifier, identifier ∈ database.getObjectsByType objectType
              ↔ identifier.objectType = objectType
                ∧ (database.objects.lookup identifier).isSome = true)
      ∧ (∃ present : Device, database.objects.lookup device.identifier = some ⟨.device, present⟩)
      ∧ ∀ operation : Operation,
          (operation.attempt database).1.revision.toNat
            = if (operation.attempt database).2 = .ok () ∧ operation.Revises then
                (database.revision.toNat + 1) % 2 ^ 32
              else database.revision.toNat := by
  intro database
  obtain ⟨hindexed, hdeviceId⟩ :=
    perform_indexed operations (new_indexed hdevice)
  have hname : ∀ name identifier, database.getObjectByName name = .ok identifier
      ↔ database.getProperty identifier .objectName = .ok (.characterString name) := by
    intro name identifier
    rw [reads_name_iff, ← hindexed.name_iff]
    unfold getObjectByName
    cases database.nameIndex.lookup name <;> simp
  -- The name index is what the objects' own names say, and it holds one object a name.
  refine ⟨hname, ?_, fun objectType => ⟨hindexed.nodup objectType, hindexed.mem_iff objectType⟩,
    ?_, ?_⟩
  · intro i j name hi hj
    rw [← hname] at hi hj
    rw [hi] at hj
    exact Except.ok.inj hj
  · obtain ⟨present, hpresent⟩ := database.device
    rw [hdeviceId] at hpresent
    exact ⟨present, hpresent⟩
  -- Refused operations revise nothing; of the others those that touch a name or the objects.
  · intro operation
    rcases operation.attempt_cases database with ⟨e, hrefused⟩ | ⟨after, hdone, _, _, hrevision⟩
    · rw [hrefused, if_neg (fun h => nomatch h.1)]
      rfl
    · rw [hdone]
      show after.revision.toNat = _
      rw [hrevision]
      by_cases hrevises : operation.Revises
      · rw [if_pos hrevises, if_pos ⟨rfl, hrevises⟩, UInt32.toNat_add]
        rfl
      · rw [if_neg hrevises, if_neg (fun h => hrevises h.2)]
        exact congrArg UInt32.toNat (UInt32.add_zero _)

/-- After three operations on a small device: an object added, one renamed to its name, and
one removed that is not there. -/
theorem indices_agree_small :
    let database := (new (.new 1 "Device")).perform
      [.addObject ⟨.analogValue, .new 1 "Setpoint"⟩,
        .setProperty ⟨.device, 1⟩ .objectName (.characterString "Setpoint"),
        .removeObject ⟨.analogValue, 2⟩]
    (∀ name identifier, database.getObjectByName name = .ok identifier
        ↔ database.getProperty identifier .objectName = .ok (.characterString name))
      ∧ database.revision = 2 :=
  ⟨(indices_agree (.new 1 "Device") rfl _).1, by decide +kernel⟩

/-- Giving a Device object the name it has, which counts each time. -/
theorem perform_rename (revision : UInt32) (n : Nat) :
    ({ new (.new 1 "Device") with revision := revision } : ObjectDatabase).perform
        (List.replicate n (.setProperty ⟨.device, 1⟩ .objectName (.characterString "Device")))
      = { new (.new 1 "Device") with revision := revision + .ofNat n } := by
  induction n generalizing revision with
  | zero =>
      show ({ new _ with revision := revision } : ObjectDatabase) = _
      rw [show UInt32.ofNat 0 = 0 from rfl, UInt32.add_zero]
  | succ n ih =>
      have hrename : Operation.attempt { new (.new 1 "Device") with revision := revision }
          (.setProperty ⟨.device, 1⟩ .objectName (.characterString "Device"))
          = .done { new (.new 1 "Device") with revision := revision + 1 } := rfl
      have hcount : revision + 1 + UInt32.ofNat n = revision + UInt32.ofNat (n + 1) := by
        rw [UInt32.ofNat_add, UInt32.add_assoc, UInt32.add_comm 1]
        rfl
      show perform (Operation.attempt _ _).1 _ = _
      rw [hrename, ← hcount]
      exact ih (revision + 1)

/-- **The revision does not always grow**: it is of 32 bits, so a device that is given its
own name as often as they count starts again from zero.  And a Device object with an
identifier of another type is indexed as a Device all the same. -/
theorem revision_wraps :
    (let rename : Operation := .setProperty ⟨.device, 1⟩ .objectName (.characterString "Device")
      let database := (new (.new 1 "Device")).perform (List.replicate (2 ^ 32 - 2) rename)
      (rename.attempt database).2 = .ok () ∧ rename.Revises
        ∧ database.revision.toNat = 2 ^ 32 - 1
        ∧ (rename.attempt database).1.revision.toNat = 0)
      ∧ (⟨.analogInput, 1⟩ : ObjectIdentifier)
          ∈ (new { Device.new 1 "Device" with identifier := ⟨.analogInput, 1⟩ }).getObjectsByType
              .device := by
  refine ⟨?_, by decide +kernel⟩
  intro rename database
  have hdatabase : database = { new (.new 1 "Device") with revision := 4294967295 } :=
    perform_rename 1 (2 ^ 32 - 2)
  rw [hdatabase]
  exact ⟨rfl, rfl, rfl, rfl⟩

/-! ## §7. The next instance -/

/-- `saturating_add(1)`. -/
def saturatingSucc (n : UInt32) : UInt32 := if n = 0xFFFFFFFF then n else n + 1

/-- The greatest instance of the identifiers, 0 where there are none. -/
def maxInstance (identifiers : List ObjectIdentifier) : UInt32 :=
  identifiers.foldl (fun most identifier => max most identifier.instanceNumber) 0

/-- `next_instance`. -/
def nextInstance (self : ObjectDatabase) (objectType : ObjectType) : UInt32 :=
  match self.typeIndex.lookup objectType with
  | some objects => saturatingSucc (maxInstance objects)
  | none => 0

/-- How many objects of a type are stored. -/
def stored (self : ObjectDatabase) (objectType : ObjectType) : Nat :=
  KeyedTable.count (fun identifier _ => identifier.objectType = objectType) self.objects

/-- No object of the type has the instance, and an identifier can carry it. -/
def Available (self : ObjectDatabase) (objectType : ObjectType) (instanceNumber : UInt32) : Prop :=
  self.objects.lookup ⟨objectType, instanceNumber⟩ = none ∧ instanceNumber.toNat ≤ 0x3FFFFF

theorem toNat_maxInstance_le_iff {identifiers : List ObjectIdentifier} {n : Nat} :
    (maxInstance identifiers).toNat ≤ n ↔
      ∀ identifier ∈ identifiers, identifier.instanceNumber.toNat ≤ n := by
  have hfold (most : UInt32) :
      (identifiers.foldl (fun most identifier => max most identifier.instanceNumber) most).toNat
        ≤ n ↔ most.toNat ≤ n ∧ ∀ identifier ∈ identifiers, identifier.instanceNumber.toNat ≤ n := by
    induction identifiers generalizing most with
    | nil => simp
    | cons identifier identifiers ih =>
        rw [List.foldl_cons, ih, List.forall_mem_cons]
        have hmax : (max most identifier.instanceNumber).toNat
            = max most.toNat identifier.instanceNumber.toNat := by
          show (if most ≤ identifier.instanceNumber then identifier.instanceNumber
            else most).toNat = _
          rw [Nat.max_def]
          simp only [UInt32.le_iff_toNat_le]
          split <;> rfl
        rw [hmax, Nat.max_le, and_assoc]
  refine (hfold 0).trans ?_
  exact and_iff_right (Nat.zero_le n)

theorem toNat_saturatingSucc (n : UInt32) :
    (saturatingSucc n).toNat = min (n.toNat + 1) 0xFFFFFFFF := by
  have hbound := n.toNat_lt
  unfold saturatingSucc
  split
  · next hmost =>
      rw [hmost]
      rfl
  · next hless =>
      have hne : n.toNat ≠ 0xFFFFFFFF := by
        intro hmost
        exact hless (UInt32.toNat_inj.mp hmost)
      rw [UInt32.toNat_add]
      show (n.toNat + 1) % 4294967296 = _
      omega

/-- **The next instance is available where the greatest of the type leaves room.** -/
theorem Indexed.nextInstance_iff (h : self.Indexed) (objectType : ObjectType) :
    self.Available objectType (self.nextInstance objectType) ↔
      ∀ identifier, identifier.objectType = objectType →
        (self.objects.lookup identifier).isSome = true →
        identifier.instanceNumber.toNat < 0x3FFFFF := by
  have hlisted : ∀ identifier, identifier ∈ self.getObjectsByType objectType ↔
      identifier.objectType = objectType ∧ (self.objects.lookup identifier).isSome = true :=
    h.mem_iff objectType
  unfold Available nextInstance
  unfold getObjectsByType at hlisted
  cases hindex : self.typeIndex.lookup objectType with
  | none =>
      rw [hindex] at hlisted
      -- Nothing of the type is stored.
      have hnone : ∀ identifier, identifier.objectType = objectType →
          (self.objects.lookup identifier).isSome ≠ true := by
        intro identifier htype hstored
        cases (hlisted identifier).mpr ⟨htype, hstored⟩
      refine iff_of_true ⟨?_, Nat.zero_le _⟩ ?_
      · cases hlookup : self.objects.lookup ⟨objectType, 0⟩ with
        | none => rfl
        | some object => exact absurd (by rw [hlookup]; rfl) (hnone ⟨objectType, 0⟩ rfl)
      · intro identifier htype hstored
        exact absurd hstored (hnone identifier htype)
  | some objects =>
      rw [hindex] at hlisted
      constructor
      · rintro ⟨_, hcarried⟩ identifier htype hstored
        have hmost : (maxInstance objects).toNat ≤ 0x3FFFFE := by
          have hsucc := toNat_saturatingSucc (maxInstance objects)
          simp only at hcarried
          omega
        have hinstance := toNat_maxInstance_le_iff.mp hmost identifier
          ((hlisted identifier).mpr ⟨htype, hstored⟩)
        omega
      · intro hroom
        have hmost : (maxInstance objects).toNat ≤ 0x3FFFFE := by
          rw [toNat_maxInstance_le_iff]
          intro identifier hmem
          obtain ⟨htype, hstored⟩ := (hlisted identifier).mp hmem
          have hinstance := hroom identifier htype hstored
          omega
        have hsucc := toNat_saturatingSucc (maxInstance objects)
        refine ⟨?_, by simp only; omega⟩
        cases hlookup : self.objects.lookup ⟨objectType, saturatingSucc (maxInstance objects)⟩ with
        | none => rfl
        | some object =>
            -- The instance would be greater than the greatest.
            have hmem := (hlisted ⟨objectType, saturatingSucc (maxInstance objects)⟩).mpr
              ⟨rfl, by rw [hlookup]; rfl⟩
            have hle : (saturatingSucc (maxInstance objects)).toNat ≤ (maxInstance objects).toNat :=
              toNat_maxInstance_le_iff.mp (Nat.le_refl _) _ hmem
            omega

/-- **After any operations, the next instance of a type that has room for one is available exactly
where no object of the type has the last instance or one behind it.** -/
theorem next_instance_iff (device : Device) (hdevice : device.identifier.objectType = .device)
    (operations : List Operation) (objectType : ObjectType) :
    let database := (new device).perform operations
    (database.stored objectType < 0x400000 →
        database.Available objectType (database.nextInstance objectType))
      ↔ (database.stored objectType < 0x400000 →
        ∀ identifier, identifier.objectType = objectType →
          (database.objects.lookup identifier).isSome = true →
          identifier.instanceNumber.toNat < 0x3FFFFF) := by
  intro database
  have hindexed := (perform_indexed operations (new_indexed hdevice)).1
  exact imp_congr_right fun _ => hindexed.nextInstance_iff objectType

/-- A small device has room for another Analog Value. -/
theorem next_instance_small :
    let database := (new (.new 1 "Device")).perform
      [.addObject ⟨.analogValue, .new 7 "Setpoint"⟩]
    (database.stored .analogValue < 0x400000 →
        database.Available .analogValue (database.nextInstance .analogValue))
      ↔ (database.stored .analogValue < 0x400000 →
        ∀ identifier, identifier.objectType = .analogValue →
          (database.objects.lookup identifier).isSome = true →
          identifier.instanceNumber.toNat < 0x3FFFFF) :=
  next_instance_iff (.new 1 "Device") rfl _ .analogValue

/-- One object, of the last instance there is: the next is behind the last. -/
theorem last_instance_taken :
    let database := (new (.new 1 "Device")).perform
      [.addObject ⟨.analogValue, .new 0x3FFFFF "Setpoint"⟩]
    database.stored .analogValue = 1 ∧ database.nextInstance .analogValue = 0x400000
      ∧ ¬ ∀ (device : Device) (operations : List Operation) (objectType : ObjectType),
          device.identifier.objectType = .device →
          ((new device).perform operations).stored objectType < 0x400000 →
          ((new device).perform operations).Available objectType
            (((new device).perform operations).nextInstance objectType) := by
  intro database
  have hstored : database.stored .analogValue = 1 := by decide +kernel
  have hnext : database.nextInstance .analogValue = 0x400000 := by decide +kernel
  refine ⟨hstored, hnext, ?_⟩
  intro hall
  have hcarried := (hall (.new 1 "Device") [.addObject ⟨.analogValue, .new 0x3FFFFF "Setpoint"⟩]
    .analogValue rfl (by rw [hstored]; decide)).2
  rw [hnext] at hcarried
  revert hcarried
  decide

end ObjectDatabase

end BacnetRs.Object
