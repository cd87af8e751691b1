/-
  BacnetRs.Object.Common — what the object types share (`object/mod.rs`).

  Eight properties are answered alike by every analog, binary and multi-state
  object, four of them are written alike, and Present_Value of a commandable
  one is the lowest filled slot of a priority array.  A setter is an attempt:
  it leaves an object whether it succeeded or not.

    * `commonGet_readable_iff` — which of the shared properties are there.
    * `commonSet_eq_ok_iff` — what writing one of them does
                            (`CommonWritten`).
    * `writePrioritySlot_eq_ok_iff` — what a command does to the slots.
-/
import BacnetRs.Library.Attempt
import BacnetRs.Library.Slots
import BacnetRs.Object.Database

namespace BacnetRs.Object

open BacnetRs.Encoding BacnetRs.Property

/-! ## §1. Taking a value apart -/

/-- The text of a character string. -/
def expectString : PropertyValue → Except ObjectError String
  | .characterString text => .ok text
  | _ => .error .invalidPropertyType

def expectBoolean : PropertyValue → Except ObjectError Bool
  | .boolean flag => .ok flag
  | _ => .error .invalidPropertyType

def expectReal : PropertyValue → Except ObjectError F32
  | .real value => .ok value
  | _ => .error .invalidPropertyType

def expectEnumerated : PropertyValue → Except ObjectError UInt32
  | .enumerated raw => .ok raw
  | _ => .error .invalidPropertyType

def expectBitString : PropertyValue → Except ObjectError (List Bool)
  | .bitString bits => .ok bits
  | _ => .error .invalidPropertyType

/-- `u32::try_from` on an unsigned value. -/
def tryIntoUInt32 (value : UInt64) : Except ObjectError UInt32 :=
  if value.toNat < 2 ^ 32 then .ok value.toUInt32 else .error .invalidPropertyType

/-- The unsigned value, where it fits a `u32`. -/
def expectUnsigned : PropertyValue → Except ObjectError UInt32
  | .unsigned value => tryIntoUInt32 value
  | _ => .error .invalidPropertyType

theorem tryIntoUInt32_eq_ok_iff {value : UInt64} {x : UInt32} :
    tryIntoUInt32 value = .ok x ↔ value = x.toUInt64 := by
  unfold tryIntoUInt32
  constructor
  · intro h
    split at h
    · next hlt =>
        cases h
        apply UInt64.toNat_inj.mp
        simp only [UInt32.toNat_toUInt64, UInt64.toNat_toUInt32]
        omega
    · cases h
  · rintro rfl
    have hlt := x.toNat_lt
    rw [UInt32.toNat_toUInt64, if_pos (by omega)]
    congr 1
    apply UInt32.toNat_inj.mp
    simp

theorem expectString_eq_ok_iff {value : PropertyValue} {text : String} :
    expectString value = .ok text ↔ value = .characterString text := by
  cases value <;> simp [expectString]

theorem expectBoolean_eq_ok_iff {value : PropertyValue} {flag : Bool} :
    expectBoolean value = .ok flag ↔ value = .boolean flag := by
  cases value <;> simp [expectBoolean]

theorem expectReal_eq_ok_iff {value : PropertyValue} {x : F32} :
    expectReal value = .ok x ↔ value = .real x := by
  cases value <;> simp [expectReal]

theorem expectEnumerated_eq_ok_iff {value : PropertyValue} {raw : UInt32} :
    expectEnumerated value = .ok raw ↔ value = .enumerated raw := by
  cases value <;> simp [expectEnumerated]

theorem expectBitString_eq_ok_iff {value : PropertyValue} {bits : List Bool} :
    expectBitString value = .ok bits ↔ value = .bitString bits := by
  cases value <;> simp [expectBitString]

theorem expectUnsigned_eq_ok_iff {value : PropertyValue} {x : UInt32} :
    expectUnsigned value = .ok x ↔ value = .unsigned x.toUInt64 := by
  cases value <;> simp [expectUnsigned, tryIntoUInt32_eq_ok_iff]

theorem mapM_length {α β ε : Type} {f : α → Except ε β} {xs : List α} {ys : List β}
    (h : xs.mapM f = .ok ys) : ys.length = xs.length := by
  induction xs generalizing ys with
  | nil =>
      cases h
      rfl
  | cons x xs ih =>
      rw [List.mapM_cons] at h
      cases hx : f x with
      | error e =>
          rw [hx] at h
          cases h
      | ok a =>
          rw [hx] at h
          cases hrest : xs.mapM f with
          | error e =>
              rw [hrest] at h
              cases h
          | ok rest =>
              rw [hrest] at h
              cases h
              simp [ih hrest]

/-- Taking every element apart, where a value is taken apart in one way only. -/
theorem mapM_eq_ok_iff {α β ε : Type} {f : α → Except ε β} {g : β → α}
    (h : ∀ x y, f x = .ok y ↔ x = g y) {xs : List α} {ys : List β} :
    xs.mapM f = .ok ys ↔ xs = ys.map g := by
  -- By induction on the list; where a step fails, no preimage of the results exists.
  induction xs generalizing ys with
  | nil =>
      cases ys with
      | nil => simp [pure, Except.pure]
      | cons y ys => simp [pure, Except.pure]
  | cons x xs ih =>
      rw [List.mapM_cons]
      cases hx : f x with
      | error e =>
          constructor
          · intro hrun
            cases hrun
          · intro heq
            cases ys with
            | nil => cases heq
            | cons y ys =>
                rw [List.map_cons, List.cons.injEq] at heq
                rw [(h x y).mpr heq.1] at hx
                cases hx
      | ok a =>
          have hxa := (h x a).mp hx
          cases hrest : xs.mapM f with
          | error e =>
              constructor
              · intro hrun
                cases hrun
              · intro heq
                cases ys with
                | nil => cases heq
                | cons y ys =>
                    rw [List.map_cons, List.cons.injEq] at heq
                    rw [ih.mpr heq.2] at hrest
                    cases hrest
          | ok rest =>
              have hlist := ih.mp hrest
              constructor
              · intro hrun
                cases hrun
                rw [hxa, hlist]
                rfl
              · intro heq
                cases ys with
                | nil => cases heq
                | cons y ys =>
                    rw [List.map_cons, List.cons.injEq] at heq
                    have hy := (h x y).mpr heq.1
                    have hys := ih.mpr heq.2
                    rw [hx] at hy
                    rw [hrest] at hys
                    cases hy
                    cases hys
                    rfl

/-- Checks in order all pass exactly when each does. -/
theorem forM_eq_ok_iff {α ε : Type} {f : α → Except ε Unit} {xs : List α} :
    xs.forM f = .ok () ↔ ∀ x ∈ xs, f x = .ok () := by
  induction xs with
  | nil => simp [pure, Except.pure]
  | cons x xs ih =>
      show (f x >>= fun _ => xs.forM f) = .ok () ↔ _
      cases hx : f x with
      | error e => simp [bind, Except.bind, hx]
      | ok u =>
          show xs.forM f = .ok () ↔ _
          rw [ih]
          simp [hx]

/-- What was converted is checked before it is used. -/
theorem checked_eq_ok_iff {α ε : Type} {converted : Except ε α} {check : α → Except ε Unit}
    {a : α} :
    (converted >>= fun x => check x >>= fun _ => pure x) = .ok a
      ↔ converted = .ok a ∧ check a = .ok () := by
  cases converted with
  | error e =>
      constructor
      · intro h
        cases h
      · rintro ⟨h, _⟩
        cases h
  | ok x =>
      show (check x >>= fun _ => pure x) = .ok a ↔ _
      cases hcheck : check x with
      | error e =>
          constructor
          · intro h
            cases h
          · rintro ⟨h, hok⟩
            cases h
            rw [hcheck] at hok
            cases hok
      | ok u =>
          constructor
          · intro h
            cases h
            exact ⟨rfl, hcheck⟩
          · rintro ⟨h, _⟩
            cases h
            rfl

/-- Take apart exactly `n` elements. -/
def collectExact {α β ε : Type} {n : Nat} (f : α → Except ε β) (xs : List α)
    (h : xs.length = n) : Except ε (Vector β n) :=
  match hys : xs.mapM f with
  | .ok ys => .ok ⟨ys.toArray, by rw [List.size_toArray, mapM_length hys, h]⟩
  | .error e => .error e

theorem collectExact_eq_ok_iff {α β ε : Type} {n : Nat} {f : α → Except ε β} {xs : List α}
    {h : xs.length = n} {v : Vector β n} :
    collectExact f xs h = .ok v ↔ xs.mapM f = .ok v.toList := by
  unfold collectExact
  split
  · next ys hys =>
      constructor
      · intro heq
        cases heq
        exact hys
      · intro heq
        have hlist : ys = v.toList := Except.ok.inj (hys.symm.trans heq)
        congr 1
        apply Vector.toList_inj.mp
        exact hlist
  · next e hys =>
      constructor
      · intro heq
        cases heq
      · intro heq
        cases hys.symm.trans heq

/-! ## §2. Storage -/

/-- `within_capacity`: `none` is unlimited. -/
def withinCapacity (length : Nat) (capacity : Option Nat) : Except ObjectError Unit :=
  match capacity with
  | some capacity =>
      if length > capacity then .error .noSpaceToWriteProperty else .ok ()
  | none => .ok ()

theorem withinCapacity_eq_ok_iff {length : Nat} {capacity : Option Nat} :
    withinCapacity length capacity = .ok () ↔ ∀ c, capacity = some c → length ≤ c := by
  cases capacity with
  | none => simp [withinCapacity]
  | some c => simp [withinCapacity]

/-! ## §3. Command priorities -/

/-- `[Option<T>; 16]`. -/
abbrev PriorityArray (α : Type) := Slots α 16

/-- The slot a priority names. -/
def slotOf (priority : UInt8) (h : 1 ≤ priority.toNat ∧ priority.toNat ≤ 16) : Fin 16 :=
  ⟨priority.toNat - 1, by omega⟩

/-- The value that counts: the lowest filled slot's, else the relinquish default. -/
def effectiveValue {α : Type} (priorityArray : PriorityArray α) (relinquishDefault : α) : α :=
  (Slots.first priorityArray).getD relinquishDefault

/-- `write_priority_slot`: the array afterwards, and the value now in effect. -/
def writePrioritySlot {α : Type} (priorityArray : PriorityArray α) (priority : UInt8)
    (value : Option α) (relinquishDefault : α) : Except ObjectError (PriorityArray α × α) :=
  if h : 1 ≤ priority.toNat ∧ priority.toNat ≤ 16 then
    let written := Slots.write priorityArray (slotOf priority h, value)
    .ok (written, effectiveValue written relinquishDefault)
  else
    .error (.invalidValue "Priority must be 1-16")

theorem writePrioritySlot_of_range {α : Type} {priorityArray : PriorityArray α}
    {priority : UInt8} {value : Option α} {relinquishDefault : α}
    (h : 1 ≤ priority.toNat ∧ priority.toNat ≤ 16) :
    writePrioritySlot priorityArray priority value relinquishDefault
      = .ok (Slots.write priorityArray (slotOf priority h, value),
          effectiveValue (Slots.write priorityArray (slotOf priority h, value))
            relinquishDefault) :=
  dif_pos h

/-- **What a command does to the slots.** -/
theorem writePrioritySlot_eq_ok_iff {α : Type} {priorityArray : PriorityArray α}
    {priority : UInt8} {value : Option α} {relinquishDefault : α}
    {written : PriorityArray α × α} :
    writePrioritySlot priorityArray priority value relinquishDefault = .ok written
      ↔ ∃ h : 1 ≤ priority.toNat ∧ priority.toNat ≤ 16,
          written.1 = Slots.write priorityArray (slotOf priority h, value)
            ∧ written.2 = effectiveValue written.1 relinquishDefault := by
  unfold writePrioritySlot
  by_cases h : 1 ≤ priority.toNat ∧ priority.toNat ≤ 16
  · rw [dif_pos h]
    constructor
    · intro he
      cases he
      exact ⟨h, rfl, rfl⟩
    · rintro ⟨_, hslots, heffective⟩
      obtain ⟨slots, effective⟩ := written
      simp only at hslots heffective
      subst hslots heffective
      rfl
  · rw [dif_neg h]
    constructor
    · intro he
      cases he
    · rintro ⟨h', _⟩
      exact absurd h' h

/-- `OverrideWrites`. -/
inductive OverrideWrites where
  | accepted
  | denied
  deriving Repr, DecidableEq

/-- A mechanism local to the device that holds Present_Value. -/
structure LocalOverride (α : Type) where
  value : α
  writes : OverrideWrites
  deriving Repr, DecidableEq

/-- `override_permits_write`. -/
def overridePermitsWrite {α : Type} (held : Option (LocalOverride α)) : Except ObjectError Unit :=
  match held with
  | some ⟨_, .denied⟩ => .error .writeAccessDenied
  | _ => .ok ()

theorem overridePermitsWrite_eq_ok_iff {α : Type} {held : Option (LocalOverride α)} :
    overridePermitsWrite held = .ok () ↔ ∀ l, held = some l → l.writes ≠ .denied := by
  unfold overridePermitsWrite
  split
  · next x =>
      constructor
      · intro h
        cases h
      · intro h
        exact absurd rfl (h ⟨x, .denied⟩ rfl)
  · next h =>
      constructor
      · rintro _ ⟨x, writes⟩ rfl rfl
        exact h x rfl
      · intro _
        rfl

/-! ## §4. Optional properties -/

/-- Which of the optional properties an object has. -/
structure OptionalProperties where
  description : Bool
  reliability : Bool
  deriving Repr, DecidableEq

namespace OptionalProperties

/-- `OptionalProperties::default`: all are present. -/
def default : OptionalProperties := ⟨true, true⟩

def has (self : OptionalProperties) (property : PropertyIdentifier) : Bool :=
  match property with
  | .description => self.description
  | .reliability => self.reliability
  | _ => true

def retain (self : OptionalProperties) (properties : List PropertyIdentifier) :
    List PropertyIdentifier :=
  properties.filter self.has

theorem has_of_ne {self : OptionalProperties} {property : PropertyIdentifier}
    (hdescription : property ≠ .description) (hreliability : property ≠ .reliability) :
    self.has property = true := by
  unfold has
  split
  · exact absurd rfl hdescription
  · exact absurd rfl hreliability
  · rfl

theorem mem_retain {self : OptionalProperties} {properties : List PropertyIdentifier}
    {property : PropertyIdentifier} :
    property ∈ self.retain properties ↔ property ∈ properties ∧ self.has property = true :=
  List.mem_filter

end OptionalProperties

/-- Properties listed under a condition. -/
theorem ite_sublist (condition : Bool) (properties : List PropertyIdentifier) :
    (if condition then properties else []).Sublist properties := by
  cases condition with
  | false => exact List.nil_sublist _
  | true => exact .refl _

/-! ## §5. Status -/

/-- `EventState`, by its number. -/
structure EventState where
  value : UInt16
  deriving Repr, DecidableEq

def EventState.normal : EventState := ⟨0⟩
def EventState.fault : EventState := ⟨1⟩

/-- `Reliability`, by its number. -/
structure Reliability where
  value : UInt32
  deriving Repr, DecidableEq

def Reliability.noFaultDetected : Reliability := ⟨0⟩

/-- `status_flags_bits`: in-alarm, fault, overridden, out-of-service. -/
def statusFlagsBits (eventState : EventState) (reliability : Reliability)
    (outOfService overridden : Bool) : List Bool :=
  [eventState != .normal,
    reliability != .noFaultDetected || eventState == .fault,
    overridden,
    outOfService]

/-! ## §6. The shared properties -/

/-- What is answered by one getter or else by the next. -/
theorem readable_or {f g : Option (Except ObjectError PropertyValue)} :
    (∃ v, f.or g = some (.ok v)) ↔ (∃ v, f = some (.ok v)) ∨ (f = none ∧ ∃ v, g = some (.ok v)) := by
  cases f <;> simp

/-- A getter that falls through to UNKNOWN_PROPERTY. -/
theorem getD_unknownProperty_eq_ok_iff {f : Option (Except ObjectError PropertyValue)}
    {v : PropertyValue} : f.getD (.error .unknownProperty) = .ok v ↔ f = some (.ok v) := by
  cases f <;> simp

/-- The fields every object type with intrinsic state has. -/
structure CommonState where
  identifier : ObjectIdentifier
  objectName : String
  description : String
  /-- Whether an operator has overridden the point. -/
  overridden : Bool
  eventState : EventState
  reliability : Reliability
  outOfService : Bool
  optional : OptionalProperties
  deriving Repr, DecidableEq

/-- `CommonView`: the fields, under the type that is answering. -/
structure CommonView extends CommonState where
  objectType : ObjectType
  deriving Repr, DecidableEq

/-- How an object of a type answers; a local override reads as overridden too. -/
def CommonState.view (self : CommonState) (objectType : ObjectType) (held : Bool) : CommonView :=
  { self with overridden := self.overridden || held, objectType := objectType }

/-- The shared properties. -/
def commonProperties : List PropertyIdentifier :=
  [.objectIdentifier, .objectName, .objectType, .description, .statusFlags, .eventState,
    .reliability, .outOfService]

/-- `common_get`; `none` means the property is not one of the eight. -/
def commonGet (view : CommonView) (property : PropertyIdentifier) :
    Option (Except ObjectError PropertyValue) :=
  if !view.optional.has property then
    some (.error .unknownProperty)
  else
    match property with
    | .objectIdentifier => some (.ok (.objectIdentifier view.identifier))
    | .objectName => some (.ok (.characterString view.objectName))
    | .objectType => some (.ok (.enumerated view.objectType.value))
    | .description => some (.ok (.characterString view.description))
    | .statusFlags =>
        some (.ok (.bitString
          (statusFlagsBits view.eventState view.reliability view.outOfService view.overridden)))
    | .eventState => some (.ok (.enumerated view.eventState.value.toUInt32))
    | .reliability => some (.ok (.enumerated view.reliability.value))
    | .outOfService => some (.ok (.boolean view.outOfService))
    | _ => none

/-- `common_set`; `none` is `CommonWrite::Unclaimed`. -/
def commonSet (fields : CommonState) (property : PropertyIdentifier) (value : PropertyValue) :
    Option (Attempt ObjectError CommonState) :=
  if !fields.optional.has property then
    some (.refused fields .unknownProperty)
  else
    match property with
    | .objectName =>
        some (.store fields (fun name => { fields with objectName := name }) (expectString value))
    | .description =>
        some (.store fields (fun text => { fields with description := text }) (expectString value))
    -- Writable so a simulated device can be driven into a fault state.
    | .reliability =>
        some (.store fields (fun raw => { fields with reliability := ⟨raw⟩ })
          (expectEnumerated value))
    | .outOfService =>
        some (.store fields (fun flag => { fields with outOfService := flag })
          (expectBoolean value))
    | _ => none

/-- The shared properties that are written. -/
def commonWritable : List PropertyIdentifier :=
  [.objectName, .description, .outOfService, .reliability]

theorem commonWritable_subset {property : PropertyIdentifier} (h : property ∈ commonWritable) :
    property ∈ commonProperties := by
  simp only [commonWritable, List.mem_cons, List.not_mem_nil, or_false] at h
  rcases h with rfl | rfl | rfl | rfl
  all_goals simp [commonProperties]

/-- What a write of a shared property leaves. -/
inductive CommonWritten (s : CommonState) :
    PropertyIdentifier → PropertyValue → CommonState → Prop
  | objectName (name : String) :
      CommonWritten s .objectName (.characterString name) { s with objectName := name }
  | description (h : s.optional.description = true) (text : String) :
      CommonWritten s .description (.characterString text) { s with description := text }
  | reliability (h : s.optional.reliability = true) (raw : UInt32) :
      CommonWritten s .reliability (.enumerated raw) { s with reliability := ⟨raw⟩ }
  | outOfService (flag : Bool) :
      CommonWritten s .outOfService (.boolean flag) { s with outOfService := flag }

/-- A shared property is one of the eight, or an optional one that is absent. -/
theorem commonGet_eq_none_iff {view : CommonView} {property : PropertyIdentifier} :
    commonGet view property = none ↔ property ∉ commonProperties := by
  unfold commonGet commonProperties
  split
  · next h =>
      -- Only Description and Reliability can be absent, and both are among the eight.
      unfold OptionalProperties.has at h
      split at h <;> simp_all
  · split <;> simp_all

theorem commonGet_readable_iff {view : CommonView} {property : PropertyIdentifier} :
    (∃ v, commonGet view property = some (.ok v))
      ↔ property ∈ commonProperties ∧ view.optional.has property = true := by
  unfold commonGet commonProperties
  split
  · next h => simp_all
  · split <;> simp_all

/-- Only shared properties are optional. -/
theorem has_of_not_mem_commonProperties {optional : OptionalProperties}
    {property : PropertyIdentifier} (h : property ∉ commonProperties) :
    optional.has property = true := by
  apply OptionalProperties.has_of_ne
  · rintro rfl
    exact h (by simp [commonProperties])
  · rintro rfl
    exact h (by simp [commonProperties])

theorem commonSet_eq_none_iff {s : CommonState} {property : PropertyIdentifier}
    {value : PropertyValue} : commonSet s property value = none ↔ property ∉ commonWritable := by
  unfold commonSet commonWritable
  split
  · next h =>
      unfold OptionalProperties.has at h
      split at h <;> simp_all
  · split <;> simp_all

/-- **What writing a shared property does.** -/
theorem commonSet_eq_ok_iff {s s' : CommonState} {property : PropertyIdentifier}
    {value : PropertyValue} :
    commonSet s property value = some (s', .ok ()) ↔ CommonWritten s property value s' := by
  constructor
  · intro h
    unfold commonSet at h
    split at h
    · exact absurd (Option.some.inj h) Attempt.refused_ne_ok
    · next hhas =>
        simp only [Bool.not_eq_true, Bool.not_eq_false'] at hhas
        split at h
        · obtain ⟨name, hname, rfl⟩ := Attempt.store_eq_ok_iff.mp (Option.some.inj h)
          rw [expectString_eq_ok_iff.mp hname]
          exact .objectName name
        · obtain ⟨text, htext, rfl⟩ := Attempt.store_eq_ok_iff.mp (Option.some.inj h)
          rw [expectString_eq_ok_iff.mp htext]
          exact .description hhas text
        · obtain ⟨raw, hraw, rfl⟩ := Attempt.store_eq_ok_iff.mp (Option.some.inj h)
          rw [expectEnumerated_eq_ok_iff.mp hraw]
          exact .reliability hhas raw
        · obtain ⟨flag, hflag, rfl⟩ := Attempt.store_eq_ok_iff.mp (Option.some.inj h)
          rw [expectBoolean_eq_ok_iff.mp hflag]
          exact .outOfService flag
        · cases h
  · intro h
    cases h with
    | objectName name => rfl
    | description hhas text => simp [commonSet, OptionalProperties.has, hhas, expectString, Attempt.store, Attempt.done]
    | reliability hhas raw => simp [commonSet, OptionalProperties.has, hhas, expectEnumerated, Attempt.store, Attempt.done]
    | outOfService flag => rfl

/-- A refused write of a shared property changes nothing. -/
theorem commonSet_atomic {s : CommonState} {property : PropertyIdentifier} {value : PropertyValue}
    {attempt : Attempt ObjectError CommonState} (h : commonSet s property value = some attempt) :
    attempt.Atomic s := by
  unfold commonSet at h
  split at h
  · cases h
    exact Attempt.atomic_refused s _
  · split at h
    all_goals cases h
    all_goals exact Attempt.atomic_store s _ _

namespace CommonWritten

variable {s s' : CommonState} {property : PropertyIdentifier} {value : PropertyValue}

/-- What is written is one of the four, and there. -/
theorem writable (h : CommonWritten s property value s') :
    property ∈ commonWritable ∧ s.optional.has property = true := by
  cases h with
  | objectName name => exact ⟨by simp [commonWritable], rfl⟩
  | description hhas text => exact ⟨by simp [commonWritable], hhas⟩
  | reliability hhas raw => exact ⟨by simp [commonWritable], hhas⟩
  | outOfService flag => exact ⟨by simp [commonWritable], rfl⟩

/-- The value written is the value read. -/
theorem readBack (h : CommonWritten s property value s') (objectType : ObjectType) (held : Bool) :
    commonGet (s'.view objectType held) property = some (.ok value) := by
  cases h with
  | objectName name => rfl
  | description hhas text => simp [commonGet, CommonState.view, OptionalProperties.has, hhas]
  | reliability hhas raw => simp [commonGet, CommonState.view, OptionalProperties.has, hhas]
  | outOfService flag => rfl

/-- Every other property reads as before, but for Status_Flags where it follows. -/
theorem frame (h : CommonWritten s property value s') {q : PropertyIdentifier}
    (hq : q ≠ property)
    (hstatus : q = .statusFlags → property ≠ .reliability ∧ property ≠ .outOfService)
    (objectType : ObjectType) (held : Bool) :
    commonGet (s'.view objectType held) q = commonGet (s.view objectType held) q := by
  by_cases hcommon : q ∈ commonProperties
  · simp only [commonProperties, List.mem_cons, List.not_mem_nil, or_false] at hcommon
    rcases hcommon with rfl | rfl | rfl | rfl | rfl | rfl | rfl | rfl
    all_goals cases h
    all_goals first
      | rfl
      | exact absurd rfl hq
      | exact absurd rfl (hstatus rfl).1
      | exact absurd rfl (hstatus rfl).2
  · rw [commonGet_eq_none_iff.mpr hcommon, commonGet_eq_none_iff.mpr hcommon]

/-- A value read of a writable property can be written back. -/
theorem of_read {objectType : ObjectType} {held : Bool} (hproperty : property ∈ commonWritable)
    (hread : commonGet (s.view objectType held) property = some (.ok value)) :
    CommonWritten s property value s := by
  have hhas : s.optional.has property = true :=
    (commonGet_readable_iff.mp ⟨value, hread⟩).2
  have hview : (s.view objectType held).optional = s.optional := rfl
  simp only [commonWritable, List.mem_cons, List.not_mem_nil, or_false] at hproperty
  rcases hproperty with rfl | rfl | rfl | rfl
  all_goals simp only [commonGet, hview, hhas] at hread
  all_goals cases hread
  · exact .objectName s.objectName
  · exact .description hhas s.description
  · exact .outOfService s.outOfService
  · exact .reliability hhas s.reliability.value

end CommonWritten

end BacnetRs.Object
