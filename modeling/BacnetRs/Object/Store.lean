/-
  BacnetRs.Object.Store — the object database (`object/database.rs`).

  The database holds objects by identifier, with an index by type and one by
  name, the vendors' properties beyond what each object's type defines, and the
  device's clock.  The Device object can not be removed, nor another be put in
  its place, and only hosted objects are given proprietary properties, which
  are numbered from `firstProprietary` up.  Both are fields of the structure.

    * `setPropertyWithPriority_atomic` — a write that fails leaves the database
                            as it was.
    * `readable_iff`      — what the database reads of an object is what it
                            lists, but for `Unlisted`.
    * `propertyList_nodup` — and it lists nothing twice.
-/
import BacnetRs.Library.KeyedTable
import BacnetRs.Object.Command

namespace BacnetRs.Object

open BacnetRs.Encoding BacnetRs.Property

/-! ## §1. The database -/

/-- What the device's clock reads. -/
structure DeviceClock where
  /-- Year, month, day and weekday, weekday 1 for Monday. -/
  localDate : DateValue
  /-- Hour, minute, second and hundredths. -/
  localTime : TimeValue
  /-- Minutes from local standard time to UTC: positive west of Greenwich. -/
  utcOffset : Int16
  daylightSavings : Bool
  deriving Repr, DecidableEq

/-- What the clock answers for the Device object. -/
def DeviceClock.get (clock : DeviceClock) (property : PropertyIdentifier) : Option PropertyValue :=
  match property with
  | .localDate => some (.date clock.localDate)
  | .localTime => some (.time clock.localTime)
  | .utcOffset => some (.signed clock.utcOffset.toInt64)
  | .daylightSavingsStatus => some (.boolean clock.daylightSavings)
  | _ => none

/-- `ObjectDatabase`. -/
structure ObjectDatabase where
  objects : KeyedTable ObjectIdentifier HostedObject
  typeIndex : KeyedTable ObjectType (List ObjectIdentifier)
  nameIndex : KeyedTable String ObjectIdentifier
  revision : UInt32
  deviceId : ObjectIdentifier
  /-- Vendor-defined properties, beyond what each object's type defines. -/
  proprietary : KeyedTable ObjectIdentifier (KeyedTable UInt32 PropertyValue)
  /-- The device's clock, once the application has set it. -/
  clock : Option DeviceClock
  /-- The Device object is always there. -/
  device : ∃ device : Device, objects.lookup deviceId = some ⟨.device, device⟩
  /-- Proprietary properties are a hosted object's. -/
  hosted : ∀ object properties, proprietary.lookup object = some properties →
    (objects.lookup object).isSome = true
  /-- And are numbered as such. -/
  vendor : ∀ object properties, proprietary.lookup object = some properties →
    ∀ id ∈ properties, firstProprietary ≤ id

namespace ObjectDatabase

/-- `ObjectDatabase::new`. -/
def new (device : Device) : ObjectDatabase where
  objects := AList.insert device.identifier ⟨.device, device⟩ ∅
  typeIndex := AList.insert .device [device.identifier] ∅
  nameIndex := AList.insert device.objectName device.identifier ∅
  revision := 1
  deviceId := device.identifier
  proprietary := ∅
  clock := none
  device := ⟨device, AList.lookup_insert _⟩
  hosted := fun _ _ h => by cases h
  vendor := fun _ _ h => by cases h

/-- `set_clock`. -/
def setClock (self : ObjectDatabase) (clock : DeviceClock) : ObjectDatabase :=
  { self with clock := some clock }

/-- The name an object answers with, where it is a string. -/
def nameOf (object : HostedObject) : Except ObjectError String :=
  match BacnetObject.getProperty object .objectName with
  | .ok (.characterString name) => .ok name
  | .ok _ => .error .invalidPropertyType
  | .error e => .error e

/-! ## §2. Reading -/

/-- `get_all_objects`: by type, then by instance. -/
def getAllObjects (self : ObjectDatabase) : List ObjectIdentifier :=
  self.objects.keys.mergeSort (fun x y =>
    decide (x.objectType.value < y.objectType.value
      ∨ x.objectType.value = y.objectType.value ∧ x.instanceNumber ≤ y.instanceNumber))

/-- `object_types`: the types that have an object. -/
def objectTypes (self : ObjectDatabase) : List ObjectType :=
  ((self.typeIndex.entries.filter (fun entry => !entry.2.isEmpty)).map (fun entry => entry.1)).mergeSort
    (fun x y => decide (x.value ≤ y.value))

/-- `proprietary_property`. -/
def proprietaryProperty (self : ObjectDatabase) (identifier : ObjectIdentifier)
    (property : PropertyIdentifier) : Option PropertyValue :=
  if property.value < firstProprietary then none
  else
    match self.proprietary.lookup identifier with
    | some properties => properties.lookup property.value
    | none => none

/-- `get_stored_property`. -/
def getStoredProperty (self : ObjectDatabase) (identifier : ObjectIdentifier)
    (property : PropertyIdentifier) : Except ObjectError PropertyValue :=
  match self.objects.lookup identifier with
  | some object => BacnetObject.getProperty object property
  | none => .error .notFound

/-- What the database answers for the Device object, after the clock. -/
def deviceProperty (self : ObjectDatabase) (property : PropertyIdentifier) :
    Option (Except ObjectError PropertyValue) :=
  match property with
  | .databaseRevision => some (.ok (.unsigned self.revision.toUInt64))
  | .protocolObjectTypesSupported =>
      match self.getStoredProperty self.deviceId .protocolRevision with
      | .ok (.unsigned revision) =>
          -- The revision is narrowed to an octet, or refused.
          if revision.toNat < 2 ^ 8 then
            some (.ok (.bitString (objectTypesSupportedBitString self.objectTypes revision.toUInt8)))
          else
            some (.error .invalidPropertyType)
      | .ok _ => some (.error .invalidPropertyType)
      | .error e => some (.error e)
  | _ => none

/-- `get_property`. -/
def getProperty (self : ObjectDatabase) (identifier : ObjectIdentifier)
    (property : PropertyIdentifier) : Except ObjectError PropertyValue :=
  -- Proprietary properties shadow every other; the device's clock shadows what is stored.
  match self.proprietaryProperty identifier property with
  | some value => .ok value
  | none =>
      if identifier = self.deviceId then
        match self.clock.bind (fun clock => clock.get property) with
        | some value => .ok value
        | none =>
            match self.deviceProperty property with
            | some read => read
            | none => self.getStoredProperty identifier property
      else
        self.getStoredProperty identifier property

/-- What reading the database finds now. -/
def view (self : ObjectDatabase) : DatabaseView where
  deviceId := self.deviceId
  getProperty := self.getProperty

/-- The properties the clock adds to the Device object's. -/
def clockProperties (self : ObjectDatabase) (identifier : ObjectIdentifier) :
    List PropertyIdentifier :=
  if identifier = self.deviceId ∧ self.clock.isSome = true then
    [.localDate, .localTime, .utcOffset, .daylightSavingsStatus]
  else
    []

/-- The proprietary properties of an object, in the order of their numbers. -/
def proprietaryProperties (self : ObjectDatabase) (identifier : ObjectIdentifier) :
    List PropertyIdentifier :=
  match self.proprietary.lookup identifier with
  | some properties =>
      (properties.keys.mergeSort (fun x y => decide (x ≤ y))).map PropertyIdentifier.mk
  | none => []

/-- `property_list`. -/
def propertyList (self : ObjectDatabase) (identifier : ObjectIdentifier) :
    Except ObjectError (List PropertyIdentifier) :=
  match self.objects.lookup identifier with
  | none => .error .notFound
  | some object =>
      .ok (BacnetObject.propertyList object ++ self.clockProperties identifier
        ++ self.proprietaryProperties identifier)

/-! ## §3. Writing -/

/-- `with_object_mut`: an object's state is changed, its type is not. -/
def withObjectMut (self : ObjectDatabase) (identifier : ObjectIdentifier)
    (change : ∀ c : ObjectClass, c.State → c.State) : ObjectDatabase where
  objects := KeyedTable.adjust identifier
    (fun object => object.withState (change object.cls object.state)) self.objects
  typeIndex := self.typeIndex
  nameIndex := self.nameIndex
  revision := self.revision
  deviceId := self.deviceId
  proprietary := self.proprietary
  clock := self.clock
  device := by
    obtain ⟨device, hdevice⟩ := self.device
    rw [KeyedTable.lookup_adjust, hdevice]
    split
    · exact ⟨change .device device, rfl⟩
    · exact ⟨device, rfl⟩
  hosted := by
    intro object properties h
    have hhosted := self.hosted object properties h
    rw [KeyedTable.lookup_adjust]
    split
    · rw [Option.isSome_map]
      exact hhosted
    · exact hhosted
  vendor := self.vendor

/-- `increment_revision`. -/
def incrementRevision (self : ObjectDatabase) : ObjectDatabase :=
  { self with revision := self.revision + 1 }

/-- `requested_object_name`. -/
def requestedObjectName (property : PropertyIdentifier) (value : PropertyValue) : Option String :=
  match property, value with
  | .objectName, .characterString name => some name
  | _, _ => none

/-- What follows the update of an object in `update_object`: the name index, when the
name was asked for, and the revision. -/
def indexName (self : ObjectDatabase) (identifier : ObjectIdentifier) (property : PropertyIdentifier)
    (oldName : Option String) : Attempt ObjectError ObjectDatabase :=
  -- Only a change of name counts as a revision.
  let counted := fun database : ObjectDatabase =>
    if property = .objectName then database.incrementRevision else database
  match oldName with
  | none => .done (counted self)
  | some oldName =>
      match self.objects.lookup identifier with
      | none => .refused self .notFound
      | some object =>
          match nameOf object with
          | .error e => .refused self e
          | .ok newName =>
              .done (counted
                { self with nameIndex := (self.nameIndex.erase oldName).insert newName identifier })

/-- `update_object`: the new name must not be another's; what `update` changed of the
object stays even when it failed. -/
def updateObject (self : ObjectDatabase) (identifier : ObjectIdentifier)
    (property : PropertyIdentifier) (requestedName : Option String)
    (update : ∀ c : ObjectClass, c.State → Attempt ObjectError c.State) :
    Attempt ObjectError ObjectDatabase :=
  match self.objects.lookup identifier with
  | none => .refused self .notFound
  | some object =>
      let taken := requestedName.bind (fun name => self.nameIndex.lookup name)
      if taken.any (fun existing => existing ≠ identifier) then
        .refused self
          (.invalidValue ("Object name " ++ requestedName.getD "" ++ " is already in use"))
      else
        match requestedName.mapM (fun _ => nameOf object) with
        | .error e => .refused self e
        | .ok oldName =>
            -- What the object makes of the update stays, even where it reports an error.
            let updated := self.withObjectMut identifier (fun c state => (update c state).1)
            match (update object.cls object.state).2 with
            | .error e => .refused updated e
            | .ok () => updated.indexName identifier property oldName

/-- `set_property`. -/
def setProperty (self : ObjectDatabase) (identifier : ObjectIdentifier)
    (property : PropertyIdentifier) (value : PropertyValue) : Attempt ObjectError ObjectDatabase :=
  self.updateObject identifier property (requestedObjectName property value)
    (fun _ state => BacnetObject.setProperty state property value)

/-- `set_property_with_priority`. -/
def setPropertyWithPriority (self : ObjectDatabase) (identifier : ObjectIdentifier)
    (property : PropertyIdentifier) (value : PropertyValue) (priority : Option UInt8) :
    Attempt ObjectError ObjectDatabase :=
  self.updateObject identifier property (requestedObjectName property value)
    (fun _ state => BacnetObject.setPropertyWithPriority state property value priority)

/-- `set_proprietary_property`. -/
def setProprietaryProperty (self : ObjectDatabase) (identifier : ObjectIdentifier)
    (property : PropertyIdentifier) (value : PropertyValue) : Attempt ObjectError ObjectDatabase :=
  if hvendor : property.value < firstProprietary then
    .refused self (.invalidConfiguration
      s!"property {property.value} is the standard's, not a proprietary one")
  else if hhosted : (self.objects.lookup identifier).isSome = true then
    let held := (self.proprietary.lookup identifier).getD ∅
    .done
      { self with
        proprietary := self.proprietary.insert identifier (held.insert property.value value)
        -- The object is there, and the number is a vendor's.
        hosted := by
          intro object properties h
          rw [KeyedTable.lookup_insert_eq_ite] at h
          split at h
          · next heq =>
              rw [heq]
              exact hhosted
          · exact self.hosted object properties h
        vendor := by
          intro object properties h id hid
          rw [KeyedTable.lookup_insert_eq_ite] at h
          split at h
          · cases h
            rcases (AList.mem_insert _).mp hid with rfl | hid
            · exact UInt32.not_lt.mp hvendor
            · cases hheld : self.proprietary.lookup identifier with
              | none => simp [held, hheld] at hid
              | some properties =>
                  have hmem : id ∈ properties := by simpa [held, hheld] using hid
                  exact self.vendor identifier properties hheld id hmem
          · exact self.vendor object properties h id hid }
  else .refused self .notFound

/-- `add_object`. -/
def addObject (self : ObjectDatabase) (object : HostedObject) :
    Attempt ObjectError ObjectDatabase :=
  let identifier := BacnetObject.identifier object
  match nameOf object with
  | .error e => .refused self e
  | .ok name =>
      if hfree : (self.objects.lookup identifier).isSome = true then
        .refused self (.invalidConfiguration
          s!"Object {identifier.instanceNumber} already exists")
      else if (self.nameIndex.lookup name).isSome then
        .refused self (.invalidValue s!"Object name {name} is already used")
      else
        let ofType := (self.typeIndex.lookup identifier.objectType).getD []
        .done (incrementRevision
          { self with
            objects := self.objects.insert identifier object
            typeIndex := self.typeIndex.insert identifier.objectType (ofType ++ [identifier])
            nameIndex := self.nameIndex.insert name identifier
            -- The identifier is free, so it is not the device's.
            device := by
              obtain ⟨device, hdevice⟩ := self.device
              refine ⟨device, ?_⟩
              rw [KeyedTable.lookup_insert_eq_ite, if_neg, hdevice]
              rintro heq
              rw [← heq, hdevice] at hfree
              exact hfree rfl
            hosted := by
              intro other properties h
              have hhosted := self.hosted other properties h
              rw [KeyedTable.lookup_insert_eq_ite]
              split
              · rfl
              · exact hhosted })

/-- `remove_object`. -/
def removeObject (self : ObjectDatabase) (identifier : ObjectIdentifier) :
    Attempt ObjectError ObjectDatabase :=
  if hdevice : identifier = self.deviceId then .refused self .writeAccessDenied
  else
    match self.objects.lookup identifier with
    | none => .refused self .notFound
    | some object =>
        match nameOf object with
        | .error e => .refused self e
        | .ok name =>
            .done (incrementRevision
              { self with
                objects := self.objects.erase identifier
                typeIndex := KeyedTable.adjust identifier.objectType
                  (fun identifiers => identifiers.filter (fun id => id ≠ identifier)) self.typeIndex
                nameIndex := self.nameIndex.erase name
                proprietary := self.proprietary.erase identifier
                -- The device is another object, and no properties are kept of the one that goes.
                device := by
                  obtain ⟨device, h⟩ := self.device
                  refine ⟨device, ?_⟩
                  rw [KeyedTable.lookup_erase_eq_ite, if_neg (Ne.symm hdevice), h]
                hosted := by
                  intro other properties h
                  rw [KeyedTable.lookup_erase_eq_ite] at h ⊢
                  split at h
                  · cases h
                  · next hne =>
                      rw [if_neg hne]
                      exact self.hosted other properties h
                vendor := by
                  intro other properties h id hid
                  rw [KeyedTable.lookup_erase_eq_ite] at h
                  split at h
                  · cases h
                  · exact self.vendor other properties h id hid })

/-! ## §4. A write that fails -/

variable {self : ObjectDatabase} {identifier : ObjectIdentifier} {property : PropertyIdentifier}
  {value : PropertyValue} {priority : Option UInt8}

@[simp] theorem lookup_withObjectMut (other : ObjectIdentifier)
    (change : ∀ c : ObjectClass, c.State → c.State) :
    (self.withObjectMut identifier change).objects.lookup other
      = if other = identifier then
          (self.objects.lookup other).map (fun object =>
            object.withState (change object.cls object.state))
        else self.objects.lookup other :=
  KeyedTable.lookup_adjust identifier other _ self.objects

/-- A change that leaves the object as it is leaves the database as it is. -/
theorem withObjectMut_eq_self {change : ∀ c : ObjectClass, c.State → c.State}
    (h : ∀ object, self.objects.lookup identifier = some object →
      change object.cls object.state = object.state) :
    self.withObjectMut identifier change = self := by
  have hobjects : KeyedTable.adjust identifier (fun object =>
      object.withState (change object.cls object.state)) self.objects = self.objects := by
    apply KeyedTable.adjust_eq_self
    intro object hobject
    rw [h object hobject]
    rfl
  unfold withObjectMut at *
  cases self
  simp only [mk.injEq, and_true] at *
  exact hobjects

theorem nameOf_isOk (object : HostedObject) : ∃ name, nameOf object = .ok name := by
  obtain ⟨name, hname⟩ := object.named
  refine ⟨name, ?_⟩
  unfold nameOf
  rw [hname]

/-- Indexing the name of an object that is there does not fail. -/
theorem indexName_succeeds {object : HostedObject}
    (h : self.objects.lookup identifier = some object) (oldName : Option String) :
    ∃ database, self.indexName identifier property oldName = .done database := by
  unfold indexName
  cases oldName with
  | none => exact ⟨_, rfl⟩
  | some oldName =>
      obtain ⟨name, hname⟩ := nameOf_isOk object
      simp only [h, hname]
      exact ⟨_, rfl⟩

/-- **An update that leaves a failed object alone leaves the database alone.** -/
theorem updateObject_atomic {requestedName : Option String}
    {update : ∀ c : ObjectClass, c.State → Attempt ObjectError c.State}
    (hupdate : ∀ c state, (update c state).Atomic state) :
    (self.updateObject identifier property requestedName update).Atomic self := by
  unfold updateObject
  cases hobject : self.objects.lookup identifier with
  | none => exact Attempt.atomic_refused self _
  | some object =>
      simp only
      split
      · exact Attempt.atomic_refused self _
      · split
        · exact Attempt.atomic_refused self _
        · next oldName _ =>
            cases hresult : (update object.cls object.state).2 with
            | error e =>
                -- The object was not changed, so neither was the database.
                intro e' _
                show self.withObjectMut identifier (fun c state => (update c state).1) = self
                apply withObjectMut_eq_self
                intro held hheld
                rw [hobject] at hheld
                cases hheld
                exact hupdate _ _ e hresult
            | ok =>
                have hupdated : ((self.withObjectMut identifier
                    (fun c state => (update c state).1)).objects.lookup identifier)
                    = some (object.withState (update object.cls object.state).1) := by
                  rw [lookup_withObjectMut, if_pos rfl, hobject]
                  rfl
                obtain ⟨database, hdatabase⟩ : ∃ database,
                    (self.withObjectMut identifier (fun c state => (update c state).1)).indexName
                      identifier property oldName = .done database :=
                  indexName_succeeds hupdated oldName
                rw [hdatabase]
                exact Attempt.atomic_done self database

theorem setPropertyWithPriority_atomic :
    (self.setPropertyWithPriority identifier property value priority).Atomic self :=
  updateObject_atomic (fun _ _ => LawfulObject.atomic)

/-- A write that is refused leaves the database alone. -/
theorem unchanged_of_refused {database : ObjectDatabase} {e : ObjectError}
    (h : self.setPropertyWithPriority identifier property value priority = (database, .error e)) :
    database = self := by
  have hatomic : (self.setPropertyWithPriority identifier property value priority).Atomic self :=
    setPropertyWithPriority_atomic
  rw [h] at hatomic
  exact hatomic e rfl

/-! ## §5. A write that succeeds -/

/-- What an update that succeeds does: the object's update succeeded, and nothing else of
the objects, the vendors' properties or the clock is moved. -/
theorem updateObject_eq_ok {requestedName : Option String}
    {update : ∀ c : ObjectClass, c.State → Attempt ObjectError c.State}
    {database : ObjectDatabase}
    (h : self.updateObject identifier property requestedName update = (database, .ok ())) :
    ∃ object, self.objects.lookup identifier = some object
      ∧ (update object.cls object.state).2 = .ok ()
      ∧ database.objects = (self.withObjectMut identifier (fun c state => (update c state).1)).objects
      ∧ database.deviceId = self.deviceId ∧ database.proprietary = self.proprietary
      ∧ database.clock = self.clock := by
  unfold updateObject at h
  cases hobject : self.objects.lookup identifier with
  | none =>
      rw [hobject] at h
      exact absurd h Attempt.refused_ne_ok
  | some object =>
      rw [hobject] at h
      simp only at h
      -- Whatever the source refuses, before the update or after it, is an error and no such result.
      split at h
      · exact absurd h Attempt.refused_ne_ok
      · split at h
        · exact absurd h Attempt.refused_ne_ok
        · next oldName _ =>
            cases hresult : (update object.cls object.state).2 with
            | error e =>
                rw [hresult] at h
                exact absurd h Attempt.refused_ne_ok
            | ok u =>
                rw [hresult] at h
                refine ⟨object, rfl, hresult, ?_⟩
                unfold indexName at h
                cases oldName with
                | none =>
                    cases h
                    split <;> exact ⟨rfl, rfl, rfl, rfl⟩
                | some oldName =>
                    simp only at h
                    split at h
                    · exact absurd h Attempt.refused_ne_ok
                    · split at h
                      · exact absurd h Attempt.refused_ne_ok
                      · cases h
                        split <;> exact ⟨rfl, rfl, rfl, rfl⟩

/-- **What a write that succeeds does**: its object takes the value, and no other object
is moved. -/
theorem setPropertyWithPriority_eq_ok {database : ObjectDatabase}
    (h : self.setPropertyWithPriority identifier property value priority = (database, .ok ())) :
    ∃ object object', self.objects.lookup identifier = some object
      ∧ BacnetObject.setPropertyWithPriority object property value priority = (object', .ok ())
      ∧ (∀ other, database.objects.lookup other
          = if other = identifier then some object' else self.objects.lookup other)
      ∧ database.deviceId = self.deviceId ∧ database.proprietary = self.proprietary
      ∧ database.clock = self.clock := by
  obtain ⟨object, hobject, hupdate, hobjects, hrest⟩ := updateObject_eq_ok h
  refine ⟨object, _, hobject, Attempt.within_eq_ok_iff.mpr ⟨_, Prod.ext rfl hupdate, rfl⟩, ?_, hrest⟩
  intro other
  rw [hobjects, lookup_withObjectMut]
  split
  · next heq =>
      rw [heq, hobject]
      rfl
  · rfl

/-- A write that its object takes succeeds, where no name is at stake. -/
theorem setPropertyWithPriority_of_object {object object' : HostedObject}
    (hname : property ≠ .objectName) (hobject : self.objects.lookup identifier = some object)
    (hset : BacnetObject.setPropertyWithPriority object property value priority
      = (object', .ok ())) :
    (self.setPropertyWithPriority identifier property value priority).2 = .ok () := by
  obtain ⟨state, hstate, _⟩ := Attempt.within_eq_ok_iff.mp hset
  have hrequested : requestedObjectName property value = none := by
    unfold requestedObjectName
    split
    · exact absurd rfl hname
    · rfl
  unfold setPropertyWithPriority updateObject
  rw [hrequested, hobject]
  show Prod.snd (match (BacnetObject.setPropertyWithPriority object.state property value priority).2
    with | .error e => _ | .ok () => _) = _
  rw [hstate]
  rfl

/-! ## §6. What is read and what is listed -/

theorem mem_proprietaryProperties :
    property ∈ self.proprietaryProperties identifier
      ↔ (self.proprietaryProperty identifier property).isSome = true := by
  unfold proprietaryProperties proprietaryProperty
  cases hheld : self.proprietary.lookup identifier with
  | none => simp
  | some properties =>
      have hkey : property.value ∈ properties
          ↔ (properties.lookup property.value).isSome = true := AList.lookup_isSome.symm
      have hmem : property ∈ (properties.keys.mergeSort
          (fun x y => decide (x ≤ y))).map PropertyIdentifier.mk ↔ property.value ∈ properties := by
        simp only [List.mem_map, List.mem_mergeSort]
        constructor
        · rintro ⟨id, hid, rfl⟩
          exact hid
        · intro h
          exact ⟨property.value, h, rfl⟩
      simp only [hmem]
      split
      · next hstandard =>
          simp only [Option.isSome_none, Bool.false_eq_true, iff_false]
          intro h
          exact UInt32.not_le.mpr hstandard (self.vendor identifier properties hheld _ h)
      · exact hkey

/-- Proprietary properties are numbered as such. -/
theorem proprietary_of_mem (h : property ∈ self.proprietaryProperties identifier) :
    firstProprietary ≤ property.value := by
  rw [mem_proprietaryProperties] at h
  unfold proprietaryProperty at h
  split at h
  · cases h
  · next hvendor => exact UInt32.not_lt.mp hvendor

theorem mem_clockProperties :
    property ∈ self.clockProperties identifier
      ↔ identifier = self.deviceId
        ∧ (self.clock.bind (fun clock => clock.get property)).isSome = true := by
  unfold clockProperties DeviceClock.get
  cases self.clock with
  | none => simp
  | some clock =>
      simp only [Option.isSome_some, and_true, Option.bind_some]
      split
      · next hdevice =>
          simp only [hdevice, true_and]
          split <;> simp_all
      · next hdevice => simp [hdevice]

/-- The Device object leaves its clock to the database. -/
theorem clock_not_listed {device : Device} (h : property ∈ self.clockProperties identifier) :
    property ∉ BacnetObject.propertyList (⟨.device, device⟩ : HostedObject) := by
  unfold clockProperties at h
  split at h
  · show property ∉ device.propertyList
    simp only [List.mem_cons, List.not_mem_nil, or_false] at h
    unfold Device.propertyList
    rcases h with rfl | rfl | rfl | rfl
    all_goals cases device.description <;> simp
  · cases h

/-- Neither the clock nor a vendor lists what an object reads without listing it. -/
theorem unlisted_not_listed {object : HostedObject}
    (h : self.objects.lookup identifier = some object) (hunlisted : Unlisted object property)
    {properties : List PropertyIdentifier} (hlist : self.propertyList identifier = .ok properties) :
    property ∉ properties := by
  have hproperty := hunlisted.2
  unfold propertyList at hlist
  rw [h] at hlist
  cases hlist
  rw [List.mem_append, List.mem_append]
  rintro ((hobject | hclock) | hvendor)
  · exact HostedObject.unlisted_not_listed hunlisted hobject
  · unfold clockProperties at hclock
    split at hclock
    · rcases hproperty with rfl | rfl
      · exact absurd hclock (by decide)
      · exact absurd hclock (by decide)
    · cases hclock
  · have hfirst := proprietary_of_mem hvendor
    rcases hproperty with rfl | rfl
    · exact absurd hfirst (by decide)
    · exact absurd hfirst (by decide)

/-- What the database answers itself for the Device object, the device lists. -/
theorem deviceProperty_eq_some {read : Except ObjectError PropertyValue}
    (h : self.deviceProperty property = some read) :
    (∃ v, read = .ok v)
      ∧ ∀ device : Device,
        property ∈ BacnetObject.propertyList (⟨.device, device⟩ : HostedObject) := by
  obtain ⟨device, hdevice⟩ := self.device
  unfold deviceProperty at h
  split at h
  · cases h
    refine ⟨⟨_, rfl⟩, fun device => ?_⟩
    show _ ∈ device.propertyList
    simp [Device.propertyList]
  · have hrevision : self.getStoredProperty self.deviceId .protocolRevision
        = .ok (.unsigned device.protocolRevision.toUInt64) := by
      unfold getStoredProperty
      rw [hdevice]
      rfl
    have hlt : device.protocolRevision.toUInt64.toNat < 2 ^ 8 := by
      rw [UInt8.toNat_toUInt64]
      exact device.protocolRevision.toNat_lt
    rw [hrevision] at h
    simp only [if_pos hlt] at h
    cases h
    refine ⟨⟨_, rfl⟩, fun device => ?_⟩
    show _ ∈ device.propertyList
    simp [Device.propertyList]
  · cases h

/-- Nothing is read of an object that is not there. -/
theorem getProperty_of_missing (h : self.objects.lookup identifier = none) :
    self.getProperty identifier property = .error .notFound := by
  have hproprietary : self.proprietaryProperty identifier property = none := by
    unfold proprietaryProperty
    split
    · rfl
    · cases hheld : self.proprietary.lookup identifier with
      | none => rfl
      | some properties =>
          have hhosted := self.hosted identifier properties hheld
          rw [h] at hhosted
          cases hhosted
  have hdevice : identifier ≠ self.deviceId := by
    rintro rfl
    obtain ⟨device, hdevice⟩ := self.device
    rw [h] at hdevice
    cases hdevice
  unfold getProperty getStoredProperty
  rw [hproprietary, if_neg hdevice, h]

/-- Of a hosted object's own properties, what is stored decides. -/
theorem readable_stored_iff {object : HostedObject}
    (h : self.objects.lookup identifier = some object)
    (hproprietary : property ∉ self.proprietaryProperties identifier)
    (hclock : property ∉ self.clockProperties identifier) :
    (∃ v, self.getProperty identifier property = .ok v)
      ↔ property ∈ BacnetObject.propertyList object ∨ Unlisted object property := by
  have hnone : self.proprietaryProperty identifier property = none := by
    rw [mem_proprietaryProperties] at hproprietary
    simpa using hproprietary
  have hstored : self.getStoredProperty identifier property
      = BacnetObject.getProperty object property := by
    unfold getStoredProperty
    rw [h]
  rw [← LawfulObject.readable_iff]
  unfold getProperty
  rw [hnone]
  simp only
  split
  -- The device answers from its clock, from what is computed, and from what is stored.
  · next hdevice =>
      have hticks : self.clock.bind (fun clock => clock.get property) = none := by
        rw [mem_clockProperties] at hclock
        simpa [hdevice] using hclock
      rw [hticks]
      simp only
      cases hread : self.deviceProperty property with
      | none => rw [hstored]
      | some read =>
          obtain ⟨device, hdeviceObject⟩ := self.device
          obtain ⟨hreadable, hlisted⟩ := deviceProperty_eq_some hread
          have hobject : object = ⟨.device, device⟩ := by
            rw [hdevice, hdeviceObject] at h
            exact (Option.some.inj h).symm
          rw [hobject]
          exact iff_of_true hreadable (LawfulObject.readable_iff.mpr (.inl (hlisted device)))
  · rw [hstored]

/-- **What the database reads of an object is what it lists.**  Deadband and
Limit_Enable of an analog object that reports without limits are read and not listed. -/
theorem readable_iff {object : HostedObject} (h : self.objects.lookup identifier = some object) :
    (∃ v, self.getProperty identifier property = .ok v)
      ↔ (∃ properties, self.propertyList identifier = .ok properties ∧ property ∈ properties)
        ∨ Unlisted object property := by
  have hlist : (∃ properties, self.propertyList identifier = .ok properties
        ∧ property ∈ properties)
      ↔ property ∈ BacnetObject.propertyList object ++ self.clockProperties identifier
        ++ self.proprietaryProperties identifier := by
    unfold propertyList
    rw [h]
    simp
  rw [hlist, List.mem_append, List.mem_append]
  by_cases hproprietary : property ∈ self.proprietaryProperties identifier
  · obtain ⟨v, hv⟩ := Option.isSome_iff_exists.mp (mem_proprietaryProperties.mp hproprietary)
    refine iff_of_true ⟨v, ?_⟩ (.inl (.inr hproprietary))
    unfold getProperty
    rw [hv]
  · by_cases hclock : property ∈ self.clockProperties identifier
    · obtain ⟨hdevice, hticks⟩ := mem_clockProperties.mp hclock
      obtain ⟨v, hv⟩ := Option.isSome_iff_exists.mp hticks
      have hnone : self.proprietaryProperty identifier property = none := by
        rw [mem_proprietaryProperties] at hproprietary
        simpa using hproprietary
      refine iff_of_true ⟨v, ?_⟩ (.inl (.inl (.inr hclock)))
      unfold getProperty
      rw [hnone, if_pos hdevice, hv]
    · rw [readable_stored_iff h hproprietary hclock]
      simp [hproprietary, hclock]

/-- **Nothing is listed twice.** -/
theorem propertyList_nodup {properties : List PropertyIdentifier}
    (h : self.propertyList identifier = .ok properties) : properties.Nodup := by
  unfold propertyList at h
  cases hobject : self.objects.lookup identifier with
  | none =>
      rw [hobject] at h
      cases h
  | some object =>
      rw [hobject] at h
      cases h
      have hclock : (self.clockProperties identifier).Nodup := by
        unfold clockProperties
        split
        · decide
        · exact List.nodup_nil
      have hproprietary : (self.proprietaryProperties identifier).Nodup := by
        unfold proprietaryProperties
        split
        · next properties _ =>
            have hkeys : (properties.keys.mergeSort (fun x y => decide (x ≤ y))).Nodup :=
              (List.mergeSort_perm _ _).nodup_iff.mpr properties.keys_nodup
            refine List.Pairwise.map _ ?_ hkeys
            intro x y hne heq
            exact hne (congrArg PropertyIdentifier.value heq)
        · exact List.nodup_nil
      rw [List.nodup_append, List.nodup_append]
      refine ⟨⟨LawfulObject.nodup object, hclock, ?_⟩, hproprietary, ?_⟩
      -- Only the device has a clock, and lists none of its properties itself.
      · rintro listed hlisted _ hticks rfl
        obtain ⟨device, hdevice⟩ := self.device
        have hobjectDevice : object = ⟨.device, device⟩ := by
          rw [(mem_clockProperties.mp hticks).1, hdevice] at hobject
          exact (Option.some.inj hobject).symm
        rw [hobjectDevice] at hlisted
        exact clock_not_listed hticks hlisted
      -- A proprietary number is none of the standard ones.
      · rintro listed hlisted _ hvendor rfl
        have hvendor := proprietary_of_mem hvendor
        rcases List.mem_append.mp hlisted with hlisted | hticks
        · exact UInt32.not_lt.mpr hvendor (object.listed_standard listed hlisted)
        · have hstandard : HostedObject.Standard (self.clockProperties identifier) := by
            unfold clockProperties
            split <;> decide
          exact UInt32.not_lt.mpr hvendor (hstandard listed hticks)

end ObjectDatabase

end BacnetRs.Object
