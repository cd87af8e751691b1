/-
  BacnetRs.Object.Binary — Binary Input, Output and Value (`object/binary.rs`).

  The three types are a family of points over one shared state (`BinaryState`).
  None of them reads out a device type.

    * `binaryLaws` — what is known of the shared getter and setter: what is read
                     is what is listed, what is written is writable and listed.
-/
import BacnetRs.Object.Point

namespace BacnetRs.Object

open BacnetRs.Encoding BacnetRs.Property

/-! ## §1. The shared state -/

/-- `BinaryPV`. -/
inductive BinaryPV where
  | inactive
  | active
  deriving Repr, DecidableEq

namespace BinaryPV

def toUInt32 : BinaryPV → UInt32
  | .inactive => 0
  | .active => 1

def ofBool (active : Bool) : BinaryPV :=
  if active then .active else .inactive

end BinaryPV

/-- The fields every binary object type holds. -/
structure BinaryState extends CommonState where
  presentValue : BinaryPV
  inactiveText : String
  activeText : String
  /-- The present value that puts the object into an off-normal state. -/
  alarmValue : BinaryPV
  alarm : Option IntrinsicReporting
  localOverride : Option (LocalOverride BinaryPV)
  deriving Repr, DecidableEq

/-- `commandable_binary`. -/
def commandableBinary : PropertyValue → Except ObjectError (Option BinaryPV)
  | .enumerated raw =>
      if raw = 0 then .ok (some .inactive)
      else if raw = 1 then .ok (some .active)
      else .error (.invalidValue "Binary value must be 0 or 1")
  | .null => .ok none
  | _ => .error .invalidPropertyType

/-- The state an Alarm_Value write names; a Boolean names one too. -/
def expectAlarmValue : PropertyValue → Except ObjectError BinaryPV
  | .enumerated raw =>
      if raw = 0 then .ok .inactive
      else if raw = 1 then .ok .active
      else .error .invalidPropertyType
  | .boolean active => .ok (.ofBool active)
  | _ => .error .invalidPropertyType

/-- `binary_alarm_get`. -/
def binaryAlarmGet (self : BinaryState) (property : PropertyIdentifier) :
    Option (Except ObjectError PropertyValue) :=
  match self.alarm with
  | none => none
  | some alarm =>
      match property with
      | .alarmValue => some (.ok (.enumerated self.alarmValue.toUInt32))
      | _ => intrinsicGet alarm property

/-- `binary_alarm_set`. -/
def binaryAlarmSet (self : BinaryState) (property : PropertyIdentifier) (value : PropertyValue) :
    Option (Attempt ObjectError BinaryState) :=
  match self.alarm with
  | none => none
  | some alarm =>
      match property with
      | .alarmValue =>
          some (.store self (fun state => { self with alarmValue := state })
            (expectAlarmValue value))
      | _ =>
          (intrinsicSet alarm property value).map
            (Attempt.within (fun alarm => { self with alarm := some alarm }))

/-- `binary_alarm_property_list`. -/
def binaryAlarmPropertyList (self : BinaryState) : List PropertyIdentifier :=
  if self.alarm.isNone then [] else [.alarmValue] ++ intrinsicPropertyList

/-- `binary_alarm_writable`. -/
def binaryAlarmWritable (property : PropertyIdentifier) (alarmConfigured : Bool) : Bool :=
  alarmConfigured
    && [PropertyIdentifier.alarmValue, .notificationClass, .timeDelay, .timeDelayNormal,
        .eventEnable, .notifyType, .eventDetectionEnable].contains property

namespace BinaryState

/-- What Present_Value reads: the local override while there is one. -/
def effectivePresentValue (self : BinaryState) : BinaryPV :=
  match self.localOverride with
  | some held => held.value
  | none => self.presentValue

/-- The common part of the view an object of a type answers from. -/
def view (self : BinaryState) (objectType : ObjectType) : CommonView :=
  self.toCommonState.view objectType self.localOverride.isSome

/-- The properties `shared_get` answers after the common ones. -/
def familyGet (self : BinaryState) (property : PropertyIdentifier) :
    Option (Except ObjectError PropertyValue) :=
  match property with
  | .presentValue => some (.ok (.enumerated self.effectivePresentValue.toUInt32))
  | .inactiveText => some (.ok (.characterString self.inactiveText))
  | .activeText => some (.ok (.characterString self.activeText))
  | _ => binaryAlarmGet self property

/-- `shared_get`. -/
def sharedGet (self : BinaryState) (objectType : ObjectType) (property : PropertyIdentifier) :
    Option (Except ObjectError PropertyValue) :=
  (commonGet (self.view objectType) property).or (self.familyGet property)

/-- `shared_set`. -/
def sharedSet (self : BinaryState) (property : PropertyIdentifier) (value : PropertyValue) :
    Option (Attempt ObjectError BinaryState) :=
  match commonSet self.toCommonState property value with
  | some handled => some (.within (fun fields => { self with toCommonState := fields }) handled)
  | none => binaryAlarmSet self property value

/-- `shared_writable`. -/
def sharedWritable (self : BinaryState) (property : PropertyIdentifier) : Bool :=
  self.optional.has property
      && [PropertyIdentifier.objectName, .description, .outOfService, .reliability].contains property
    || binaryAlarmWritable property self.alarm.isSome

/-- `shared_property_list`. -/
def sharedPropertyList (self : BinaryState) (trailing : List PropertyIdentifier) :
    List PropertyIdentifier :=
  self.optional.retain
    ([PropertyIdentifier.objectIdentifier, .objectName, .objectType, .presentValue, .outOfService]
      ++ trailing
      ++ [PropertyIdentifier.description, .statusFlags, .eventState, .reliability, .inactiveText,
        .activeText]
      ++ binaryAlarmPropertyList self)

end BinaryState

/-- The binary family. -/
def binaryFamily : Family BinaryState BinaryPV where
  sharedGet := BinaryState.sharedGet
  sharedSet := BinaryState.sharedSet
  sharedWritable := BinaryState.sharedWritable
  outOfService := fun self => self.outOfService
  localOverride := BinaryState.localOverride
  setPresentValue := fun self value => { self with presentValue := value }
  convert := fun _ _ value => commandableBinary value
  read := fun state => .enumerated state.toUInt32

/-! ## §2. The three types -/

/-- `BinaryInput`. -/
structure BinaryInput extends BinaryState
  deriving Repr, DecidableEq

/-- `BinaryOutput`. -/
structure BinaryOutput extends Commanded BinaryState BinaryPV
  deriving Repr, DecidableEq

/-- `BinaryValue`. -/
structure BinaryValue extends Commanded BinaryState BinaryPV where
  commandable : Bool
  deriving Repr, DecidableEq

namespace BinaryInput

def getProperty (self : BinaryInput) (property : PropertyIdentifier) :
    Except ObjectError PropertyValue :=
  binaryFamily.readInput .binaryInput self.toBinaryState property

def setProperty (self : BinaryInput) (property : PropertyIdentifier) (value : PropertyValue) :
    Attempt ObjectError BinaryInput :=
  .within (fun state => { self with toBinaryState := state })
    (binaryFamily.writeInput self.toBinaryState property value)

def isPropertyWritable (self : BinaryInput) (property : PropertyIdentifier) : Bool :=
  binaryFamily.inputWritable self.toBinaryState property

def propertyList (self : BinaryInput) : List PropertyIdentifier :=
  self.sharedPropertyList []

end BinaryInput

namespace BinaryOutput

def getProperty (self : BinaryOutput) (property : PropertyIdentifier) :
    Except ObjectError PropertyValue :=
  self.toCommanded.get binaryFamily .binaryOutput true property

def setProperty (self : BinaryOutput) (property : PropertyIdentifier) (value : PropertyValue) :
    Attempt ObjectError BinaryOutput :=
  .within (fun commanded => { self with toCommanded := commanded })
    (self.toCommanded.set binaryFamily true property value)

def setPropertyWithPriority (self : BinaryOutput) (property : PropertyIdentifier)
    (value : PropertyValue) (priority : Option UInt8) : Attempt ObjectError BinaryOutput :=
  .within (fun commanded => { self with toCommanded := commanded })
    (self.toCommanded.setWithPriority binaryFamily true property value priority)

def isPropertyWritable (self : BinaryOutput) (property : PropertyIdentifier) : Bool :=
  self.toCommanded.writable binaryFamily property

def propertyList (self : BinaryOutput) : List PropertyIdentifier :=
  self.state.sharedPropertyList (Commanded.trailing true)

end BinaryOutput

namespace BinaryValue

def getProperty (self : BinaryValue) (property : PropertyIdentifier) :
    Except ObjectError PropertyValue :=
  self.toCommanded.get binaryFamily .binaryValue self.commandable property

def setProperty (self : BinaryValue) (property : PropertyIdentifier) (value : PropertyValue) :
    Attempt ObjectError BinaryValue :=
  .within (fun commanded => { self with toCommanded := commanded })
    (self.toCommanded.set binaryFamily self.commandable property value)

def setPropertyWithPriority (self : BinaryValue) (property : PropertyIdentifier)
    (value : PropertyValue) (priority : Option UInt8) : Attempt ObjectError BinaryValue :=
  .within (fun commanded => { self with toCommanded := commanded })
    (self.toCommanded.setWithPriority binaryFamily self.commandable property value priority)

def isPropertyWritable (self : BinaryValue) (property : PropertyIdentifier) : Bool :=
  self.toCommanded.writable binaryFamily property

def propertyList (self : BinaryValue) : List PropertyIdentifier :=
  self.state.sharedPropertyList (Commanded.trailing self.commandable)

end BinaryValue

/-! ## §3. What can be read -/

theorem binaryAlarmGet_readable_iff {s : BinaryState} {property : PropertyIdentifier} :
    (∃ v, binaryAlarmGet s property = some (.ok v)) ↔ property ∈ binaryAlarmPropertyList s := by
  unfold binaryAlarmGet binaryAlarmPropertyList
  cases s.alarm with
  | none => simp
  | some alarm =>
      simp only [Option.isNone_some]
      split
      · simp
      · rw [intrinsicGet_readable_iff]
        simp_all

theorem not_mem_commonProperties_of_binaryAlarm {s : BinaryState} {property : PropertyIdentifier}
    (h : property ∈ binaryAlarmPropertyList s) : property ∉ commonProperties := by
  unfold binaryAlarmPropertyList intrinsicPropertyList at h
  unfold commonProperties
  intro hcommon
  simp only [List.mem_cons, List.not_mem_nil, or_false] at hcommon
  rcases hcommon with rfl | rfl | rfl | rfl | rfl | rfl | rfl | rfl
  all_goals revert h
  all_goals simp

namespace BinaryState

theorem familyGet_readable_iff {s : BinaryState} {property : PropertyIdentifier} :
    (∃ v, s.familyGet property = some (.ok v))
      ↔ property = .presentValue ∨ property = .inactiveText ∨ property = .activeText
        ∨ property ∈ binaryAlarmPropertyList s := by
  unfold familyGet
  split
  · simp
  · simp
  · simp
  · rw [binaryAlarmGet_readable_iff]
    simp_all

/-- The list of a type is the shared one and what the type adds. -/
theorem mem_sharedPropertyList {s : BinaryState} {trailing : List PropertyIdentifier}
    {property : PropertyIdentifier} :
    property ∈ s.sharedPropertyList trailing
      ↔ property ∈ s.sharedPropertyList []
        ∨ (property ∈ trailing ∧ s.optional.has property = true) := by
  unfold sharedPropertyList
  simp only [OptionalProperties.mem_retain, List.mem_append, List.not_mem_nil]
  tauto

theorem mem_sharedPropertyList_nil {s : BinaryState} {property : PropertyIdentifier} :
    property ∈ s.sharedPropertyList []
      ↔ (property ∈ commonProperties ∧ s.optional.has property = true)
        ∨ property = .presentValue ∨ property = .inactiveText ∨ property = .activeText
        ∨ property ∈ binaryAlarmPropertyList s := by
  unfold sharedPropertyList
  rw [OptionalProperties.mem_retain]
  by_cases hcommon : property ∈ commonProperties
  · have halarm : property ∉ binaryAlarmPropertyList s :=
      fun h => not_mem_commonProperties_of_binaryAlarm h hcommon
    simp only [commonProperties, List.mem_cons, List.not_mem_nil, or_false] at hcommon
    rcases hcommon with rfl | rfl | rfl | rfl | rfl | rfl | rfl | rfl
    all_goals simp [commonProperties, halarm]
  · have hhas : s.optional.has property = true := has_of_not_mem_commonProperties hcommon
    simp only [commonProperties, List.mem_cons, List.not_mem_nil, or_false, not_or] at hcommon
    simp [commonProperties, hcommon, hhas]

/-- **What the shared getter reads is what is listed.** -/
theorem sharedGet_readable_iff {s : BinaryState} {objectType : ObjectType}
    {property : PropertyIdentifier} :
    (∃ v, s.sharedGet objectType property = some (.ok v))
      ↔ property ∈ s.sharedPropertyList [] := by
  unfold sharedGet
  rw [readable_or, commonGet_readable_iff, commonGet_eq_none_iff, familyGet_readable_iff,
    mem_sharedPropertyList_nil]
  have hview : (s.view objectType).optional = s.optional := rfl
  rw [hview]
  by_cases hcommon : property ∈ commonProperties
  · have halarm : property ∉ binaryAlarmPropertyList s :=
      fun h => not_mem_commonProperties_of_binaryAlarm h hcommon
    simp only [commonProperties, List.mem_cons, List.not_mem_nil, or_false] at hcommon
    rcases hcommon with rfl | rfl | rfl | rfl | rfl | rfl | rfl | rfl
    all_goals simp [commonProperties, halarm]
  · simp [hcommon]

/-- Every property a binary object may list. -/
def binaryProperties : List PropertyIdentifier :=
  [PropertyIdentifier.objectIdentifier, .objectName, .objectType, .presentValue, .outOfService]
    ++ [PropertyIdentifier.priorityArray, .relinquishDefault]
    ++ [PropertyIdentifier.description, .statusFlags, .eventState, .reliability, .inactiveText,
      .activeText]
    ++ ([PropertyIdentifier.alarmValue] ++ intrinsicPropertyList)

theorem sharedPropertyList_sublist {s : BinaryState} {trailing : List PropertyIdentifier}
    (h : trailing.Sublist [.priorityArray, .relinquishDefault]) :
    (s.sharedPropertyList trailing).Sublist binaryProperties := by
  refine .trans List.filter_sublist ?_
  refine .append (.append (.append (.refl _) h) (.refl _)) ?_
  unfold binaryAlarmPropertyList
  split
  · exact List.nil_sublist _
  · exact .refl _

theorem sharedPropertyList_nodup {s : BinaryState} {trailing : List PropertyIdentifier}
    (h : trailing.Sublist [.priorityArray, .relinquishDefault]) :
    (s.sharedPropertyList trailing).Nodup := by
  have hfull : binaryProperties.Nodup := by decide +kernel
  exact List.Pairwise.sublist (sharedPropertyList_sublist h) hfull

theorem typeProperties_not_listed {s : BinaryState} {property : PropertyIdentifier}
    (h : property ∈ typeProperties) (hpv : property ≠ .presentValue) :
    property ∉ s.sharedPropertyList [] := by
  simp only [typeProperties, List.mem_cons, List.not_mem_nil, or_false] at h
  rw [mem_sharedPropertyList_nil]
  rcases h with rfl | rfl | rfl | rfl
  · exact absurd rfl hpv
  all_goals simp [commonProperties, binaryAlarmPropertyList, intrinsicPropertyList]

end BinaryState

/-! ## §4. What a write leaves -/

/-- What a write of a property of the binary state leaves. -/
inductive BinaryWritten (s : BinaryState) :
    PropertyIdentifier → PropertyValue → BinaryState → Prop
  | common {property : PropertyIdentifier} {value : PropertyValue} {fields : CommonState}
      (h : CommonWritten s.toCommonState property value fields) :
      BinaryWritten s property value { s with toCommonState := fields }
  | alarmValue (h : s.alarm.isSome = true) {value : PropertyValue} {state : BinaryPV}
      (hvalue : expectAlarmValue value = .ok state) :
      BinaryWritten s .alarmValue value { s with alarmValue := state }
  | intrinsic {alarm alarm' : IntrinsicReporting} {property : PropertyIdentifier}
      {value : PropertyValue} (halarm : s.alarm = some alarm)
      (h : IntrinsicWritten alarm property value alarm') :
      BinaryWritten s property value { s with alarm := some alarm' }

theorem commandableBinary_eq_ok_iff {value : PropertyValue} {x : Option BinaryPV} :
    commandableBinary value = .ok x
      ↔ (value = .null ∧ x = none)
        ∨ ∃ state : BinaryPV, value = .enumerated state.toUInt32 ∧ x = some state := by
  constructor
  · intro h
    unfold commandableBinary at h
    split at h
    · split at h
      · next hraw =>
          cases h
          exact .inr ⟨.inactive, by rw [hraw]; rfl, rfl⟩
      · split at h
        · next hraw =>
            cases h
            exact .inr ⟨.active, by rw [hraw]; rfl, rfl⟩
        · cases h
    · cases h
      exact .inl ⟨rfl, rfl⟩
    · cases h
  · rintro (⟨rfl, rfl⟩ | ⟨state, rfl, rfl⟩)
    · rfl
    · cases state <;> rfl

theorem expectAlarmValue_toUInt32 (state : BinaryPV) :
    expectAlarmValue (.enumerated state.toUInt32) = .ok state := by
  cases state <;> rfl

theorem eq_toUInt32_of_expectAlarmValue {raw : UInt32} {state : BinaryPV}
    (h : expectAlarmValue (.enumerated raw) = .ok state) : raw = state.toUInt32 := by
  simp only [expectAlarmValue] at h
  split at h
  · next hraw =>
      cases h
      exact hraw
  · split at h
    · next hraw =>
        cases h
        exact hraw
    · cases h

/-- **What writing a binary property does.** -/
theorem BinaryState.sharedSet_eq_ok_iff {s s' : BinaryState} {property : PropertyIdentifier}
    {value : PropertyValue} :
    s.sharedSet property value = some (s', .ok ()) ↔ BinaryWritten s property value s' := by
  unfold sharedSet
  constructor
  · intro h
    split at h
    · next handled hcommon =>
        obtain ⟨fields, rfl, rfl⟩ := Attempt.within_eq_ok_iff.mp (Option.some.inj h)
        exact .common (commonSet_eq_ok_iff.mp hcommon)
    · unfold binaryAlarmSet at h
      split at h
      · cases h
      · next alarm halarm =>
          split at h
          · obtain ⟨state, hstate, rfl⟩ := Attempt.store_eq_ok_iff.mp (Option.some.inj h)
            exact .alarmValue (by rw [halarm]; rfl) hstate
          · obtain ⟨attempt, hattempt, hwithin⟩ := Option.map_eq_some_iff.mp h
            obtain ⟨alarm', rfl, rfl⟩ := Attempt.within_eq_ok_iff.mp hwithin
            exact .intrinsic halarm (intrinsicSet_eq_ok_iff.mp hattempt)
  · intro h
    cases h with
    | common hcommon =>
        rw [commonSet_eq_ok_iff.mpr hcommon]
        rfl
    | alarmValue hsome hvalue =>
        obtain ⟨alarm, halarm⟩ := Option.isSome_iff_exists.mp hsome
        rw [commonSet_eq_none_iff.mpr (by simp [commonWritable])]
        simp [binaryAlarmSet, halarm, Attempt.store_of_ok hvalue]
    | intrinsic halarm hwritten =>
        have hset := intrinsicSet_eq_ok_iff.mpr hwritten
        have hproperty := hwritten.writable
        simp only [intrinsicWritable, List.mem_cons, List.not_mem_nil, or_false] at hproperty
        rcases hproperty with rfl | rfl | rfl | rfl | rfl | rfl
        all_goals rw [commonSet_eq_none_iff.mpr (by simp [commonWritable])]
        all_goals simp [binaryAlarmSet, halarm, hset, Attempt.within]

/-- A refused write of a binary property changes nothing. -/
theorem BinaryState.sharedSet_atomic {s : BinaryState} {property : PropertyIdentifier}
    {value : PropertyValue} {attempt : Attempt ObjectError BinaryState}
    (h : s.sharedSet property value = some attempt) : attempt.Atomic s := by
  unfold sharedSet at h
  split at h
  · next handled hcommon =>
      cases h
      exact (commonSet_atomic hcommon).within rfl
  · unfold binaryAlarmSet at h
    split at h
    · cases h
    · next alarm halarm =>
        split at h
        · cases h
          exact Attempt.atomic_store s _ _
        · obtain ⟨attempt, hattempt, rfl⟩ := Option.map_eq_some_iff.mp h
          apply (intrinsicSet_atomic hattempt).within
          rw [← halarm]

/-- The properties of a single type are none of the shared ones. -/
theorem BinaryState.writable_not_typeProperty {s : BinaryState} {property : PropertyIdentifier}
    (h : s.sharedWritable property = true) : property ∉ typeProperties := by
  intro htype
  simp only [typeProperties, List.mem_cons, List.not_mem_nil, or_false] at htype
  rcases htype with rfl | rfl | rfl | rfl
  all_goals simp [sharedWritable, binaryAlarmWritable] at h

namespace BinaryWritten

variable {s s' : BinaryState} {property q : PropertyIdentifier} {value : PropertyValue}
  {objectType : ObjectType}

theorem writable (h : BinaryWritten s property value s') : s.sharedWritable property = true := by
  unfold BinaryState.sharedWritable binaryAlarmWritable
  cases h with
  | common hcommon =>
      obtain ⟨hproperty, hhas⟩ := hcommon.writable
      simp only [commonWritable, List.mem_cons, List.not_mem_nil, or_false] at hproperty
      rcases hproperty with rfl | rfl | rfl | rfl
      all_goals simp [hhas]
  | alarmValue hsome hvalue => simp [hsome]
  | intrinsic halarm hwritten =>
      have hproperty := hwritten.writable
      simp only [intrinsicWritable, List.mem_cons, List.not_mem_nil, or_false] at hproperty
      rcases hproperty with rfl | rfl | rfl | rfl | rfl | rfl
      all_goals simp [halarm]

theorem listed (h : BinaryWritten s property value s') : property ∈ s.sharedPropertyList [] := by
  rw [BinaryState.mem_sharedPropertyList_nil]
  cases h with
  | common hcommon =>
      obtain ⟨hproperty, hhas⟩ := hcommon.writable
      exact .inl ⟨commonWritable_subset hproperty, hhas⟩
  | alarmValue hsome hvalue =>
      obtain ⟨alarm, halarm⟩ := Option.isSome_iff_exists.mp hsome
      simp [binaryAlarmPropertyList, halarm]
  | intrinsic halarm hwritten =>
      have hproperty := hwritten.writable
      simp only [intrinsicWritable, List.mem_cons, List.not_mem_nil, or_false] at hproperty
      rcases hproperty with rfl | rfl | rfl | rfl | rfl | rfl
      all_goals simp [binaryAlarmPropertyList, halarm, intrinsicPropertyList]

/-- The value written is the value read. -/
theorem readBack (h : BinaryWritten s property value s') (hvalue : OwnDatatype property value) :
    s'.sharedGet objectType property = some (.ok (asStored property value)) := by
  unfold BinaryState.sharedGet
  cases h with
  | common hcommon =>
      have hread := hcommon.readBack objectType s.localOverride.isSome
      unfold BinaryState.view
      rw [hread, hcommon.asStored_eq]
      rfl
  | alarmValue hsome hstate =>
      obtain ⟨alarm, halarm⟩ := Option.isSome_iff_exists.mp hsome
      obtain ⟨raw, rfl⟩ := hvalue.alarmValue rfl
      rw [eq_toUInt32_of_expectAlarmValue hstate]
      simp [commonGet_eq_none_iff.mpr, commonProperties, BinaryState.familyGet, binaryAlarmGet,
        halarm, asStored]
  | intrinsic halarm hwritten =>
      have hread := hwritten.readBack hvalue.notNull
      have hproperty := hwritten.writable
      simp only [intrinsicWritable, List.mem_cons, List.not_mem_nil, or_false] at hproperty
      rcases hproperty with rfl | rfl | rfl | rfl | rfl | rfl
      all_goals simp [commonGet_eq_none_iff.mpr, commonProperties, BinaryState.familyGet,
        binaryAlarmGet, hread]

theorem frame_common (h : BinaryWritten s property value s') (hq : q ≠ property)
    (hcomputed : ¬ ComputedFrom s.alarm q property) :
    commonGet (s'.view objectType) q = commonGet (s.view objectType) q := by
  cases h with
  | common hcommon =>
      apply hcommon.frame hq
      intro hflags
      constructor
      · rintro rfl
        exact hcomputed (.inl ⟨hflags, .inl rfl⟩)
      · rintro rfl
        exact hcomputed (.inl ⟨hflags, .inr rfl⟩)
  | alarmValue hsome hvalue => rfl
  | intrinsic halarm hwritten => rfl

theorem frame_family (h : BinaryWritten s property value s') (hq : q ≠ property)
    (hcomputed : ¬ ComputedFrom s.alarm q property) : s'.familyGet q = s.familyGet q := by
  by_cases hnamed : q ∈ [PropertyIdentifier.presentValue, .inactiveText, .activeText, .alarmValue]
  · simp only [List.mem_cons, List.not_mem_nil, or_false] at hnamed
    rcases hnamed with rfl | rfl | rfl | rfl
    all_goals cases h
    all_goals first
      | rfl
      | exact absurd rfl hq
      | simp [BinaryState.familyGet, binaryAlarmGet, *]
  · simp only [List.mem_cons, List.not_mem_nil, or_false, not_or] at hnamed
    cases h with
    | common hcommon => rfl
    | alarmValue hsome hvalue => simp [BinaryState.familyGet, binaryAlarmGet, hnamed]
    | intrinsic halarm hwritten =>
        rw [halarm] at hcomputed
        simp [BinaryState.familyGet, binaryAlarmGet, hnamed, halarm, hwritten.frame hq hcomputed]

/-- **Every property not written or computed from it reads as before.** -/
theorem frame (h : BinaryWritten s property value s') (hq : q ≠ property)
    (hcomputed : ¬ ComputedFrom s.alarm q property) :
    s'.sharedGet objectType q = s.sharedGet objectType q := by
  unfold BinaryState.sharedGet
  rw [h.frame_common hq hcomputed, h.frame_family hq hcomputed]

/-- A value read of a writable property can be written back. -/
theorem of_read (hwritable : s.sharedWritable property = true)
    (hread : s.sharedGet objectType property = some (.ok value))
    (hstorable : Storable property value) : ∃ s', BinaryWritten s property value s' := by
  unfold BinaryState.sharedGet at hread
  by_cases hcommon : property ∈ commonProperties
  · have hnone : commonGet (s.view objectType) property ≠ none :=
      fun h => commonGet_eq_none_iff.mp h hcommon
    obtain ⟨result, hresult⟩ := Option.ne_none_iff_exists'.mp hnone
    rw [hresult] at hread
    have hmember : property ∈ commonWritable := by
      simp only [commonProperties, List.mem_cons, List.not_mem_nil, or_false] at hcommon
      rcases hcommon with rfl | rfl | rfl | rfl | rfl | rfl | rfl | rfl
      all_goals revert hwritable
      all_goals simp [BinaryState.sharedWritable, binaryAlarmWritable, commonWritable]
    have hvalue : commonGet (s.view objectType) property = some (.ok value) := by
      rw [hresult]
      exact hread
    exact ⟨_, .common (CommonWritten.of_read hmember hvalue)⟩
  · rw [commonGet_eq_none_iff.mpr hcommon, Option.none_or] at hread
    have hspecific : s.alarm.isSome = true
        ∧ (property = .alarmValue ∨ property ∈ intrinsicWritable) := by
      have hshared : property ∉ commonWritable :=
        fun h => hcommon (commonWritable_subset h)
      simp only [commonWritable, List.mem_cons, List.not_mem_nil, or_false, not_or] at hshared
      simp [BinaryState.sharedWritable, binaryAlarmWritable, hshared] at hwritable
      simpa [intrinsicWritable] using hwritable
    obtain ⟨halarm, hproperty⟩ := hspecific
    obtain ⟨alarm, hsome⟩ := Option.isSome_iff_exists.mp halarm
    rcases hproperty with rfl | hproperty
    · simp [BinaryState.familyGet, binaryAlarmGet, hsome] at hread
      subst hread
      exact ⟨_, .alarmValue halarm (expectAlarmValue_toUInt32 s.alarmValue)⟩
    · have hget : intrinsicGet alarm property = some (.ok value) := by
        simp only [intrinsicWritable, List.mem_cons, List.not_mem_nil, or_false] at hproperty
        rcases hproperty with rfl | rfl | rfl | rfl | rfl | rfl
        all_goals simpa [BinaryState.familyGet, binaryAlarmGet, hsome] using hread
      obtain ⟨alarm', hwritten⟩ := IntrinsicWritten.of_read hproperty hstorable.2 hget
      exact ⟨_, .intrinsic hsome hwritten⟩

end BinaryWritten

/-! ## §5. The family's laws -/

namespace BinaryState

theorem sharedGet_effective {s : BinaryState} {objectType : ObjectType} :
    s.sharedGet objectType .presentValue
      = some (.ok (.enumerated s.effectivePresentValue.toUInt32)) := by
  simp [sharedGet, commonGet_eq_none_iff.mpr, commonProperties, familyGet]

theorem sharedGet_presentValue {s : BinaryState} {objectType : ObjectType}
    (h : s.localOverride = none) :
    s.sharedGet objectType .presentValue = some (.ok (.enumerated s.presentValue.toUInt32)) := by
  simp [sharedGet_effective, effectivePresentValue, h]

/-- Present_Value is the only property of the shared state that a reading moves. -/
theorem sharedGet_presentValue_frame {s : BinaryState} {x : BinaryPV} {objectType : ObjectType}
    {q : PropertyIdentifier} (hq : q ≠ .presentValue) :
    BinaryState.sharedGet { s with presentValue := x } objectType q = s.sharedGet objectType q := by
  have hcommon : BinaryState.view { s with presentValue := x } objectType = s.view objectType := rfl
  unfold sharedGet
  rw [hcommon]
  congr 1
  by_cases hnamed : q = .inactiveText ∨ q = .activeText
  · rcases hnamed with rfl | rfl
    · rfl
    · rfl
  · rw [not_or] at hnamed
    simp [familyGet, hnamed]
    rfl

end BinaryState

/-- **The binary family keeps its laws.** -/
def binaryLaws : binaryFamily.Laws where
  Written := BinaryWritten
  listed := fun s => s.sharedPropertyList []
  alarm := BinaryState.alarm
  Unlisted := fun _ _ => False
  Undeclared := fun _ _ => False
  Stray := fun _ => False
  sharedSet_eq_ok_iff := BinaryState.sharedSet_eq_ok_iff
  sharedSet_atomic := BinaryState.sharedSet_atomic
  sharedGet_readable_iff := by
    intro s objectType property
    rw [or_false]
    exact BinaryState.sharedGet_readable_iff
  presentValue_mem_listed := fun _ => BinaryState.mem_sharedPropertyList_nil.mpr (by simp)
  typeProperties_not_listed := fun h hpv =>
    ⟨BinaryState.typeProperties_not_listed h hpv, not_false⟩
  written_not_typeProperty := fun h => BinaryState.writable_not_typeProperty h.writable
  writable_not_typeProperty := BinaryState.writable_not_typeProperty
  written_writable := fun h _ => h.writable
  written_listed := fun h _ _ => h.listed
  written_readBack := fun h _ hvalue => h.readBack hvalue
  written_frame := BinaryWritten.frame
  written_of_read := BinaryWritten.of_read
  sharedGet_presentValue := fun s t => ⟨s.effectivePresentValue, @BinaryState.sharedGet_effective s t⟩
  sharedGet_setPresentValue := fun {_ _ t} h => @BinaryState.sharedGet_presentValue _ t h
  setPresentValue_frame := BinaryState.sharedGet_presentValue_frame
  convert_eq_ok := by
    intro s commandable value x h
    rcases commandableBinary_eq_ok_iff.mp h with ⟨_, hx⟩ | ⟨state, rfl, hx⟩
    · cases hx
    · cases hx
      rfl

end BacnetRs.Object
