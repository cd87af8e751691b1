/-
  BacnetRs.Object.MultiState — Multi-state Input, Output and Value
  (`object/multistate.rs`).

  The three types are a family of points over one shared state
  (`MultistateState`), whose Present_Value is a state number counted from one.

    * `multistateLaws` — what is known of the shared getter and setter.  The
                         setter takes Alarm_Values whether or not reporting is
                         configured; without it the property is neither
                         declared writable nor listed nor read.
-/
import BacnetRs.Object.Point

namespace BacnetRs.Object

open BacnetRs.Encoding BacnetRs.Property

/-! ## §1. The shared state -/

/-- The fields every multi-state object type holds. -/
structure MultistateState extends CommonState where
  presentValue : UInt32
  numberOfStates : UInt32
  stateText : List String
  /-- The states that put the object into an off-normal event state. -/
  alarmValues : List UInt32
  alarm : Option IntrinsicReporting
  localOverride : Option (LocalOverride UInt32)
  deriving Repr, DecidableEq

/-- `commandable_unsigned`. -/
def commandableUnsigned : PropertyValue → Except ObjectError (Option UInt32)
  | .unsigned value => (tryIntoUInt32 value).map some
  | .null => .ok none
  | _ => .error .invalidPropertyType

/-- The states an Alarm_Values write names. -/
def expectStates : PropertyValue → Except ObjectError (List UInt32)
  | .list states => states.mapM expectUnsigned
  | .array states => states.mapM expectUnsigned
  | _ => .error .invalidPropertyType

namespace MultistateState

/-- What Present_Value reads: the local override while there is one. -/
def effectivePresentValue (self : MultistateState) : UInt32 :=
  match self.localOverride with
  | some held => held.value
  | none => self.presentValue

/-- The common part of the view an object of a type answers from. -/
def view (self : MultistateState) (objectType : ObjectType) : CommonView :=
  self.toCommonState.view objectType self.localOverride.isSome

/-- The properties `shared_get` answers after the common ones. -/
def familyGet (self : MultistateState) (property : PropertyIdentifier) :
    Option (Except ObjectError PropertyValue) :=
  match property with
  | .presentValue => some (.ok (.unsigned self.effectivePresentValue.toUInt64))
  | .numberOfStates => some (.ok (.unsigned self.numberOfStates.toUInt64))
  | .stateText => some (.ok (.array (self.stateText.map .characterString)))
  | property =>
      match self.alarm with
      | none => none
      | some alarm =>
          -- Alarm_Values only exists once intrinsic reporting is configured.
          if property = .alarmValues then
            some (.ok (.list (self.alarmValues.map (fun state => .unsigned state.toUInt64))))
          else
            intrinsicGet alarm property

/-- `shared_get`. -/
def sharedGet (self : MultistateState) (objectType : ObjectType) (property : PropertyIdentifier) :
    Option (Except ObjectError PropertyValue) :=
  (commonGet (self.view objectType) property).or (self.familyGet property)

/-- `shared_set`. -/
def sharedSet (self : MultistateState) (property : PropertyIdentifier) (value : PropertyValue) :
    Option (Attempt ObjectError MultistateState) :=
  match commonSet self.toCommonState property value with
  | some handled => some (.within (fun fields => { self with toCommonState := fields }) handled)
  | none =>
      if property = .alarmValues then
        some (.store self (fun states => { self with alarmValues := states }) (expectStates value))
      else
        match self.alarm with
        | none => none
        | some alarm =>
            (intrinsicSet alarm property value).map
              (Attempt.within (fun alarm => { self with alarm := some alarm }))

/-- `shared_writable`. -/
def sharedWritable (self : MultistateState) (property : PropertyIdentifier) : Bool :=
  if !self.optional.has property then
    false
  else if [PropertyIdentifier.objectName, .description, .outOfService, .reliability].contains
      property then
    true
  else if [PropertyIdentifier.alarmValues, .notificationClass, .timeDelay, .timeDelayNormal,
      .eventEnable, .notifyType, .eventDetectionEnable].contains property then
    self.alarm.isSome
  else
    false

/-- `shared_property_list`. -/
def sharedPropertyList (self : MultistateState) : List PropertyIdentifier :=
  self.optional.retain
    ([PropertyIdentifier.objectIdentifier, .objectName, .objectType, .presentValue, .description,
        .statusFlags, .eventState, .reliability, .outOfService, .numberOfStates, .stateText]
      ++ if self.alarm.isSome then [PropertyIdentifier.alarmValues] ++ intrinsicPropertyList else [])

/-- What a value written to Present_Value says: `commandable_unsigned` and the check
that it is one of the states, whose message depends on who makes it. -/
def convert (self : MultistateState) (commandable : Bool) (value : PropertyValue) :
    Except ObjectError (Option UInt32) :=
  match commandableUnsigned value with
  | .error e => .error e
  | .ok none => .ok none
  | .ok (some state) =>
      if 1 ≤ state ∧ state ≤ self.numberOfStates then
        .ok (some state)
      else if commandable then
        .error (.invalidValue s!"Value must be between 1 and {self.numberOfStates}")
      else
        .error (.invalidValue s!"State must be 1-{self.numberOfStates}")

end MultistateState

/-- The multi-state family. -/
def multistateFamily : Family MultistateState UInt32 where
  sharedGet := MultistateState.sharedGet
  sharedSet := MultistateState.sharedSet
  sharedWritable := MultistateState.sharedWritable
  outOfService := fun self => self.outOfService
  localOverride := MultistateState.localOverride
  setPresentValue := fun self value => { self with presentValue := value }
  convert := MultistateState.convert
  read := fun state => .unsigned state.toUInt64

/-! ## §2. The three types -/

/-- `MultiStateInput`. -/
structure MultiStateInput extends MultistateState where
  deviceType : String
  deriving Repr, DecidableEq

/-- `MultiStateOutput`. -/
structure MultiStateOutput extends Commanded MultistateState UInt32 where
  deviceType : String
  deriving Repr, DecidableEq

/-- `MultiStateValue`. -/
structure MultiStateValue extends Commanded MultistateState UInt32 where
  commandable : Bool
  deriving Repr, DecidableEq

namespace MultiStateInput

def getProperty (self : MultiStateInput) (property : PropertyIdentifier) :
    Except ObjectError PropertyValue :=
  if property = .deviceType then .ok (.characterString self.deviceType)
  else multistateFamily.readInput .multiStateInput self.toMultistateState property

def setProperty (self : MultiStateInput) (property : PropertyIdentifier) (value : PropertyValue) :
    Attempt ObjectError MultiStateInput :=
  .within (fun state => { self with toMultistateState := state })
    (multistateFamily.writeInput self.toMultistateState property value)

def isPropertyWritable (self : MultiStateInput) (property : PropertyIdentifier) : Bool :=
  multistateFamily.inputWritable self.toMultistateState property

def propertyList (self : MultiStateInput) : List PropertyIdentifier :=
  self.sharedPropertyList ++ [.deviceType]

end MultiStateInput

namespace MultiStateOutput

def getProperty (self : MultiStateOutput) (property : PropertyIdentifier) :
    Except ObjectError PropertyValue :=
  if property = .deviceType then .ok (.characterString self.deviceType)
  else self.toCommanded.get multistateFamily .multiStateOutput true property

def setProperty (self : MultiStateOutput) (property : PropertyIdentifier) (value : PropertyValue) :
    Attempt ObjectError MultiStateOutput :=
  .within (fun commanded => { self with toCommanded := commanded })
    (self.toCommanded.set multistateFamily true property value)

def setPropertyWithPriority (self : MultiStateOutput) (property : PropertyIdentifier)
    (value : PropertyValue) (priority : Option UInt8) : Attempt ObjectError MultiStateOutput :=
  .within (fun commanded => { self with toCommanded := commanded })
    (self.toCommanded.setWithPriority multistateFamily true property value priority)

def isPropertyWritable (self : MultiStateOutput) (property : PropertyIdentifier) : Bool :=
  self.toCommanded.writable multistateFamily property

def propertyList (self : MultiStateOutput) : List PropertyIdentifier :=
  self.state.sharedPropertyList ++ [.deviceType, .priorityArray, .relinquishDefault]

end MultiStateOutput

namespace MultiStateValue

def getProperty (self : MultiStateValue) (property : PropertyIdentifier) :
    Except ObjectError PropertyValue :=
  self.toCommanded.get multistateFamily .multiStateValue self.commandable property

def setProperty (self : MultiStateValue) (property : PropertyIdentifier) (value : PropertyValue) :
    Attempt ObjectError MultiStateValue :=
  .within (fun commanded => { self with toCommanded := commanded })
    (self.toCommanded.set multistateFamily self.commandable property value)

def setPropertyWithPriority (self : MultiStateValue) (property : PropertyIdentifier)
    (value : PropertyValue) (priority : Option UInt8) : Attempt ObjectError MultiStateValue :=
  .within (fun commanded => { self with toCommanded := commanded })
    (self.toCommanded.setWithPriority multistateFamily self.commandable property value priority)

def isPropertyWritable (self : MultiStateValue) (property : PropertyIdentifier) : Bool :=
  self.toCommanded.writable multistateFamily property

def propertyList (self : MultiStateValue) : List PropertyIdentifier :=
  self.state.sharedPropertyList
    ++ if self.commandable then [.priorityArray, .relinquishDefault] else []

end MultiStateValue

/-! ## §3. What can be read -/

/-- The alarm part of the list. -/
def multistateAlarmProperties : List PropertyIdentifier := .alarmValues :: intrinsicPropertyList

theorem not_mem_commonProperties_of_multistateAlarm {property : PropertyIdentifier}
    (h : property ∈ multistateAlarmProperties) : property ∉ commonProperties := by
  unfold multistateAlarmProperties intrinsicPropertyList at h
  unfold commonProperties
  intro hcommon
  simp only [List.mem_cons, List.not_mem_nil, or_false] at hcommon
  rcases hcommon with rfl | rfl | rfl | rfl | rfl | rfl | rfl | rfl
  all_goals revert h
  all_goals simp

namespace MultistateState

theorem familyGet_readable_iff {s : MultistateState} {property : PropertyIdentifier} :
    (∃ v, s.familyGet property = some (.ok v))
      ↔ property = .presentValue ∨ property = .numberOfStates ∨ property = .stateText
        ∨ (s.alarm.isSome = true ∧ property ∈ multistateAlarmProperties) := by
  unfold familyGet
  split
  · simp
  · simp
  · simp
  · cases s.alarm with
    | none => simp_all
    | some alarm =>
        by_cases hvalues : property = .alarmValues
        · simp [hvalues, multistateAlarmProperties]
        · simp only [if_neg hvalues]
          rw [intrinsicGet_readable_iff]
          simp_all [multistateAlarmProperties]

theorem mem_sharedPropertyList {s : MultistateState} {property : PropertyIdentifier} :
    property ∈ s.sharedPropertyList
      ↔ (property ∈ commonProperties ∧ s.optional.has property = true)
        ∨ property = .presentValue ∨ property = .numberOfStates ∨ property = .stateText
        ∨ (s.alarm.isSome = true ∧ property ∈ multistateAlarmProperties) := by
  have hite : (property ∈ if s.alarm.isSome = true then [PropertyIdentifier.alarmValues]
      ++ intrinsicPropertyList else []) ↔ s.alarm.isSome = true
        ∧ property ∈ multistateAlarmProperties := by
    cases s.alarm.isSome <;> simp [multistateAlarmProperties]
  unfold sharedPropertyList
  rw [OptionalProperties.mem_retain, List.mem_append, hite]
  by_cases hcommon : property ∈ commonProperties
  · have halarm : property ∉ multistateAlarmProperties :=
      fun h => not_mem_commonProperties_of_multistateAlarm h hcommon
    simp only [commonProperties, List.mem_cons, List.not_mem_nil, or_false] at hcommon
    rcases hcommon with rfl | rfl | rfl | rfl | rfl | rfl | rfl | rfl
    all_goals simp [commonProperties, halarm]
  · have hhas : s.optional.has property = true := has_of_not_mem_commonProperties hcommon
    simp only [commonProperties, List.mem_cons, List.not_mem_nil, or_false, not_or] at hcommon
    simp [commonProperties, hcommon, hhas]
    tauto

/-- **What the shared getter reads is what is listed.** -/
theorem sharedGet_readable_iff {s : MultistateState} {objectType : ObjectType}
    {property : PropertyIdentifier} :
    (∃ v, s.sharedGet objectType property = some (.ok v)) ↔ property ∈ s.sharedPropertyList := by
  unfold sharedGet
  rw [readable_or, commonGet_readable_iff, commonGet_eq_none_iff, familyGet_readable_iff,
    mem_sharedPropertyList]
  have hview : (s.view objectType).optional = s.optional := rfl
  rw [hview]
  by_cases hcommon : property ∈ commonProperties
  · have halarm : property ∉ multistateAlarmProperties :=
      fun h => not_mem_commonProperties_of_multistateAlarm h hcommon
    simp only [commonProperties, List.mem_cons, List.not_mem_nil, or_false] at hcommon
    rcases hcommon with rfl | rfl | rfl | rfl | rfl | rfl | rfl | rfl
    all_goals simp [commonProperties, halarm]
  · simp [hcommon]

/-- Every property a multi-state object may list, but for those its type adds. -/
def multistateProperties : List PropertyIdentifier :=
  [PropertyIdentifier.objectIdentifier, .objectName, .objectType, .presentValue, .description,
      .statusFlags, .eventState, .reliability, .outOfService, .numberOfStates, .stateText]
    ++ ([PropertyIdentifier.alarmValues] ++ intrinsicPropertyList)

theorem sharedPropertyList_sublist (s : MultistateState) :
    s.sharedPropertyList.Sublist multistateProperties := by
  refine .trans List.filter_sublist ?_
  exact .append (.refl _) (ite_sublist _ _)

theorem sharedPropertyList_nodup (s : MultistateState) : s.sharedPropertyList.Nodup := by
  have hfull : multistateProperties.Nodup := by decide +kernel
  exact List.Pairwise.sublist s.sharedPropertyList_sublist hfull

theorem typeProperties_not_listed {s : MultistateState} {property : PropertyIdentifier}
    (h : property ∈ typeProperties) (hpv : property ≠ .presentValue) :
    property ∉ s.sharedPropertyList := by
  simp only [typeProperties, List.mem_cons, List.not_mem_nil, or_false] at h
  rw [mem_sharedPropertyList]
  rcases h with rfl | rfl | rfl | rfl
  · exact absurd rfl hpv
  all_goals simp [commonProperties, multistateAlarmProperties, intrinsicPropertyList]

end MultistateState

/-! ## §4. What a write leaves -/

/-- What a write of a property of the multi-state state leaves. -/
inductive MultistateWritten (s : MultistateState) :
    PropertyIdentifier → PropertyValue → MultistateState → Prop
  | common {property : PropertyIdentifier} {value : PropertyValue} {fields : CommonState}
      (h : CommonWritten s.toCommonState property value fields) :
      MultistateWritten s property value { s with toCommonState := fields }
  | alarmValues {value : PropertyValue} {states : List UInt32}
      (hvalue : expectStates value = .ok states) :
      MultistateWritten s .alarmValues value { s with alarmValues := states }
  | intrinsic {alarm alarm' : IntrinsicReporting} {property : PropertyIdentifier}
      {value : PropertyValue} (halarm : s.alarm = some alarm)
      (h : IntrinsicWritten alarm property value alarm') :
      MultistateWritten s property value { s with alarm := some alarm' }

theorem expectStates_list_eq_ok_iff {values : List PropertyValue} {states : List UInt32} :
    expectStates (.list values) = .ok states
      ↔ values = states.map (fun state => .unsigned state.toUInt64) :=
  mapM_eq_ok_iff (fun _ _ => expectUnsigned_eq_ok_iff)

/-- **What writing a multi-state property does.** -/
theorem MultistateState.sharedSet_eq_ok_iff {s s' : MultistateState}
    {property : PropertyIdentifier} {value : PropertyValue} :
    s.sharedSet property value = some (s', .ok ()) ↔ MultistateWritten s property value s' := by
  unfold sharedSet
  constructor
  · intro h
    split at h
    · next handled hcommon =>
        obtain ⟨fields, rfl, rfl⟩ := Attempt.within_eq_ok_iff.mp (Option.some.inj h)
        exact .common (commonSet_eq_ok_iff.mp hcommon)
    · split at h
      · next hproperty =>
          subst hproperty
          obtain ⟨states, hstates, rfl⟩ := Attempt.store_eq_ok_iff.mp (Option.some.inj h)
          exact .alarmValues hstates
      · split at h
        · cases h
        · next alarm halarm =>
            obtain ⟨attempt, hattempt, hwithin⟩ := Option.map_eq_some_iff.mp h
            obtain ⟨alarm', rfl, rfl⟩ := Attempt.within_eq_ok_iff.mp hwithin
            exact .intrinsic halarm (intrinsicSet_eq_ok_iff.mp hattempt)
  · intro h
    cases h with
    | common hcommon =>
        rw [commonSet_eq_ok_iff.mpr hcommon]
        rfl
    | alarmValues hvalue =>
        rw [commonSet_eq_none_iff.mpr (by simp [commonWritable])]
        simp [Attempt.store_of_ok hvalue]
    | intrinsic halarm hwritten =>
        have hset := intrinsicSet_eq_ok_iff.mpr hwritten
        have hproperty := hwritten.writable
        simp only [intrinsicWritable, List.mem_cons, List.not_mem_nil, or_false] at hproperty
        rcases hproperty with rfl | rfl | rfl | rfl | rfl | rfl
        all_goals rw [commonSet_eq_none_iff.mpr (by simp [commonWritable])]
        all_goals simp [halarm, hset, Attempt.within]

/-- A refused write of a multi-state property changes nothing. -/
theorem MultistateState.sharedSet_atomic {s : MultistateState} {property : PropertyIdentifier}
    {value : PropertyValue} {attempt : Attempt ObjectError MultistateState}
    (h : s.sharedSet property value = some attempt) : attempt.Atomic s := by
  unfold sharedSet at h
  split at h
  · next handled hcommon =>
      cases h
      exact (commonSet_atomic hcommon).within rfl
  · split at h
    · cases h
      exact Attempt.atomic_store s _ _
    · split at h
      · cases h
      · next alarm halarm =>
          obtain ⟨attempt, hattempt, rfl⟩ := Option.map_eq_some_iff.mp h
          apply (intrinsicSet_atomic hattempt).within
          rw [← halarm]

/-- What `shared_writable` declares. -/
theorem MultistateState.sharedWritable_eq_true_iff {s : MultistateState}
    {property : PropertyIdentifier} :
    s.sharedWritable property = true
      ↔ (property ∈ commonWritable ∧ s.optional.has property = true)
        ∨ (s.alarm.isSome = true ∧ (property = .alarmValues ∨ property ∈ intrinsicWritable)) := by
  unfold sharedWritable
  by_cases hcommon : property ∈ commonWritable
  · simp only [commonWritable, List.mem_cons, List.not_mem_nil, or_false] at hcommon
    rcases hcommon with rfl | rfl | rfl | rfl
    all_goals simp [commonWritable, intrinsicWritable]
  · by_cases hhas : s.optional.has property = true
    · simp only [commonWritable, List.mem_cons, List.not_mem_nil, or_false, not_or] at hcommon
      simp [commonWritable, intrinsicWritable, hhas, hcommon]
      tauto
    · have hmember : property ∈ commonProperties := by
        by_contra hnot
        exact hhas (has_of_not_mem_commonProperties hnot)
      simp only [commonProperties, List.mem_cons, List.not_mem_nil, or_false] at hmember
      rcases hmember with rfl | rfl | rfl | rfl | rfl | rfl | rfl | rfl
      all_goals simp [commonWritable, intrinsicWritable, hhas]

/-- The properties of a single type are none of the shared ones. -/
theorem MultistateState.writable_not_typeProperty {s : MultistateState}
    {property : PropertyIdentifier} (h : s.sharedWritable property = true) :
    property ∉ typeProperties := by
  intro htype
  rw [sharedWritable_eq_true_iff] at h
  simp only [typeProperties, List.mem_cons, List.not_mem_nil, or_false] at htype
  rcases htype with rfl | rfl | rfl | rfl
  all_goals simp [commonWritable, intrinsicWritable] at h

namespace MultistateWritten

variable {s s' : MultistateState} {property q : PropertyIdentifier} {value : PropertyValue}
  {objectType : ObjectType}

theorem writable (h : MultistateWritten s property value s')
    (hdeclared : ¬ (property = .alarmValues ∧ s.alarm = none)) :
    s.sharedWritable property = true := by
  rw [MultistateState.sharedWritable_eq_true_iff]
  cases h with
  | common hcommon => exact .inl hcommon.writable
  | alarmValues hvalue =>
      have halarm : s.alarm.isSome = true :=
        Option.isSome_iff_ne_none.mpr (fun hnone => hdeclared ⟨rfl, hnone⟩)
      exact .inr ⟨halarm, .inl rfl⟩
  | intrinsic halarm hwritten =>
      exact .inr ⟨by rw [halarm]; rfl, .inr hwritten.writable⟩

theorem listed (h : MultistateWritten s property value s')
    (hdeclared : ¬ (property = .alarmValues ∧ s.alarm = none)) :
    property ∈ s.sharedPropertyList := by
  rw [MultistateState.mem_sharedPropertyList]
  cases h with
  | common hcommon =>
      obtain ⟨hproperty, hhas⟩ := hcommon.writable
      exact .inl ⟨commonWritable_subset hproperty, hhas⟩
  | alarmValues hvalue =>
      have halarm : s.alarm.isSome = true :=
        Option.isSome_iff_ne_none.mpr (fun hnone => hdeclared ⟨rfl, hnone⟩)
      simp [multistateAlarmProperties, halarm]
  | intrinsic halarm hwritten =>
      have hproperty := hwritten.writable
      simp only [intrinsicWritable, List.mem_cons, List.not_mem_nil, or_false] at hproperty
      rcases hproperty with rfl | rfl | rfl | rfl | rfl | rfl
      all_goals simp [multistateAlarmProperties, halarm, intrinsicPropertyList]

theorem not_typeProperty (h : MultistateWritten s property value s') :
    property ∉ typeProperties := by
  by_cases hdeclared : property = .alarmValues ∧ s.alarm = none
  · rw [hdeclared.1]
    decide
  · exact MultistateState.writable_not_typeProperty (h.writable hdeclared)

/-- The value written is the value read. -/
theorem readBack (h : MultistateWritten s property value s')
    (hdeclared : ¬ (property = .alarmValues ∧ s.alarm = none))
    (hvalue : OwnDatatype property value) :
    s'.sharedGet objectType property = some (.ok (asStored property value)) := by
  unfold MultistateState.sharedGet
  cases h with
  | common hcommon =>
      have hread := hcommon.readBack objectType s.localOverride.isSome
      unfold MultistateState.view
      rw [hread, hcommon.asStored_eq]
      rfl
  | alarmValues hstates =>
      have hsome : s.alarm ≠ none := fun hnone => hdeclared ⟨rfl, hnone⟩
      obtain ⟨alarm, halarm⟩ := Option.ne_none_iff_exists'.mp hsome
      obtain ⟨values, rfl⟩ := hvalue.list (by simp)
      rw [expectStates_list_eq_ok_iff.mp hstates]
      simp [commonGet_eq_none_iff.mpr, commonProperties, MultistateState.familyGet, halarm,
        asStored]
  | intrinsic halarm hwritten =>
      have hread := hwritten.readBack hvalue.notNull
      have hproperty := hwritten.writable
      simp only [intrinsicWritable, List.mem_cons, List.not_mem_nil, or_false] at hproperty
      rcases hproperty with rfl | rfl | rfl | rfl | rfl | rfl
      all_goals simp [commonGet_eq_none_iff.mpr, commonProperties, MultistateState.familyGet, hread]

theorem frame_common (h : MultistateWritten s property value s') (hq : q ≠ property)
    (hcomputed : ¬ ComputedFrom s.alarm q property) :
    commonGet (s'.view objectType) q = commonGet (s.view objectType) q := by
  cases h with
  | common hcommon =>
      apply hcommon.frame hq
      intro hflags
      constructor
      · rintro rfl
        exact hcomputed (.inl ⟨hflags, .inl rfl⟩)
      · rintro rfl
        exact hcomputed (.inl ⟨hflags, .inr rfl⟩)
  | alarmValues hvalue => rfl
  | intrinsic halarm hwritten => rfl

theorem frame_family (h : MultistateWritten s property value s') (hq : q ≠ property)
    (hcomputed : ¬ ComputedFrom s.alarm q property) : s'.familyGet q = s.familyGet q := by
  by_cases hnamed : q ∈ [PropertyIdentifier.presentValue, .numberOfStates, .stateText, .alarmValues]
  · simp only [List.mem_cons, List.not_mem_nil, or_false] at hnamed
    rcases hnamed with rfl | rfl | rfl | rfl
    all_goals cases h
    all_goals first
      | rfl
      | exact absurd rfl hq
      | simp [MultistateState.familyGet, *]
  · simp only [List.mem_cons, List.not_mem_nil, or_false, not_or] at hnamed
    cases h with
    | common hcommon => rfl
    | alarmValues hvalue => simp [MultistateState.familyGet, hnamed]
    | intrinsic halarm hwritten =>
        rw [halarm] at hcomputed
        simp [MultistateState.familyGet, hnamed, halarm, hwritten.frame hq hcomputed]

/-- **Every property not written or computed from it reads as before.** -/
theorem frame (h : MultistateWritten s property value s') (hq : q ≠ property)
    (hcomputed : ¬ ComputedFrom s.alarm q property) :
    s'.sharedGet objectType q = s.sharedGet objectType q := by
  unfold MultistateState.sharedGet
  rw [h.frame_common hq hcomputed, h.frame_family hq hcomputed]

/-- A value read of a writable property can be written back. -/
theorem of_read (hwritable : s.sharedWritable property = true)
    (hread : s.sharedGet objectType property = some (.ok value))
    (hstorable : Storable property value) : ∃ s', MultistateWritten s property value s' := by
  unfold MultistateState.sharedGet at hread
  rw [MultistateState.sharedWritable_eq_true_iff] at hwritable
  rcases hwritable with ⟨hcommon, _⟩ | ⟨halarm, hspecific⟩
  · have hnone : commonGet (s.view objectType) property ≠ none :=
      fun h => commonGet_eq_none_iff.mp h (commonWritable_subset hcommon)
    obtain ⟨result, hresult⟩ := Option.ne_none_iff_exists'.mp hnone
    have hvalue : commonGet (s.view objectType) property = some (.ok value) := by
      rw [hresult] at hread ⊢
      exact hread
    exact ⟨_, .common (CommonWritten.of_read hcommon hvalue)⟩
  · obtain ⟨alarm, hsome⟩ := Option.isSome_iff_exists.mp halarm
    rcases hspecific with rfl | hproperty
    · simp [commonGet_eq_none_iff.mpr, commonProperties, MultistateState.familyGet, hsome] at hread
      subst hread
      exact ⟨_, .alarmValues (expectStates_list_eq_ok_iff.mpr rfl)⟩
    · have hget : intrinsicGet alarm property = some (.ok value) := by
        simp only [intrinsicWritable, List.mem_cons, List.not_mem_nil, or_false] at hproperty
        rcases hproperty with rfl | rfl | rfl | rfl | rfl | rfl
        all_goals simpa [commonGet_eq_none_iff.mpr, commonProperties, MultistateState.familyGet,
          hsome] using hread
      obtain ⟨alarm', hwritten⟩ := IntrinsicWritten.of_read hproperty hstorable.2 hget
      exact ⟨_, .intrinsic hsome hwritten⟩

end MultistateWritten

/-! ## §5. The family's laws -/

namespace MultistateState

theorem sharedGet_effective {s : MultistateState} {objectType : ObjectType} :
    s.sharedGet objectType .presentValue
      = some (.ok (.unsigned s.effectivePresentValue.toUInt64)) := by
  simp [sharedGet, commonGet_eq_none_iff.mpr, commonProperties, familyGet]

theorem sharedGet_presentValue {s : MultistateState} {objectType : ObjectType}
    (h : s.localOverride = none) :
    s.sharedGet objectType .presentValue = some (.ok (.unsigned s.presentValue.toUInt64)) := by
  simp [sharedGet_effective, effectivePresentValue, h]

/-- Present_Value is the only property of the shared state that a reading moves. -/
theorem sharedGet_presentValue_frame {s : MultistateState} {x : UInt32}
    {objectType : ObjectType} {q : PropertyIdentifier} (hq : q ≠ .presentValue) :
    MultistateState.sharedGet { s with presentValue := x } objectType q
      = s.sharedGet objectType q := by
  have hcommon : MultistateState.view { s with presentValue := x } objectType
      = s.view objectType := rfl
  unfold sharedGet
  rw [hcommon]
  congr 1
  by_cases hnamed : q = .numberOfStates ∨ q = .stateText
  · rcases hnamed with rfl | rfl
    · rfl
    · rfl
  · rw [not_or] at hnamed
    simp [familyGet, hnamed]

theorem convert_eq_ok_iff {s : MultistateState} {commandable : Bool} {value : PropertyValue}
    {x : Option UInt32} :
    s.convert commandable value = .ok x
      ↔ (value = .null ∧ x = none)
        ∨ ∃ state : UInt32, value = .unsigned state.toUInt64 ∧ 1 ≤ state
            ∧ state ≤ s.numberOfStates ∧ x = some state := by
  have hunsigned : commandableUnsigned value = expectUnsignedOrNull value := by
    cases value <;> rfl
  unfold convert
  rw [hunsigned]
  cases hread : expectUnsignedOrNull value with
  | error e =>
      constructor
      · intro h
        cases h
      · rintro (⟨rfl, rfl⟩ | ⟨state, rfl, _⟩)
        · cases hread
        · rw [expectUnsignedOrNull_eq_ok_iff.mpr (.inr ⟨state, rfl, rfl⟩)] at hread
          cases hread
  | ok y =>
      rcases expectUnsignedOrNull_eq_ok_iff.mp hread with ⟨rfl, rfl⟩ | ⟨state, rfl, rfl⟩
      · simp [eq_comm]
      -- Widening loses nothing, so the state read is the state written.
      · have hinj : ∀ other : UInt32, state.toUInt64 = other.toUInt64 → state = other := by
          intro other h
          have hnat := congrArg UInt64.toNat h
          simp only [UInt32.toNat_toUInt64] at hnat
          exact UInt32.toNat_inj.mp hnat
        -- The conversion takes the states the object has, counted from one.
        by_cases hrange : 1 ≤ state ∧ state ≤ s.numberOfStates
        · simp only [hrange, and_self, if_true, Except.ok.injEq]
          constructor
          · rintro rfl
            exact .inr ⟨state, rfl, hrange.1, hrange.2, rfl⟩
          · rintro (⟨h, _⟩ | ⟨other, h, _, _, rfl⟩)
            · cases h
            · rw [PropertyValue.unsigned.injEq] at h
              rw [hinj other h]
        · constructor
          · intro h
            simp only [hrange, if_false] at h
            split at h
            · cases h
            · cases h
          · rintro (⟨h, _⟩ | ⟨other, h, hlow, hhigh, rfl⟩)
            · cases h
            · rw [PropertyValue.unsigned.injEq] at h
              rw [hinj other h] at hrange
              exact absurd ⟨hlow, hhigh⟩ hrange

end MultistateState

/-- **The multi-state family keeps its laws.** -/
def multistateLaws : multistateFamily.Laws where
  Written := MultistateWritten
  listed := MultistateState.sharedPropertyList
  alarm := MultistateState.alarm
  Unlisted := fun _ _ => False
  Undeclared := fun s property => property = .alarmValues ∧ s.alarm = none
  Stray := fun _ => False
  sharedSet_eq_ok_iff := MultistateState.sharedSet_eq_ok_iff
  sharedSet_atomic := MultistateState.sharedSet_atomic
  sharedGet_readable_iff := by
    intro s objectType property
    rw [or_false]
    exact MultistateState.sharedGet_readable_iff
  presentValue_mem_listed := fun _ => MultistateState.mem_sharedPropertyList.mpr (by simp)
  typeProperties_not_listed := fun h hpv =>
    ⟨MultistateState.typeProperties_not_listed h hpv, not_false⟩
  written_not_typeProperty := MultistateWritten.not_typeProperty
  writable_not_typeProperty := MultistateState.writable_not_typeProperty
  written_writable := MultistateWritten.writable
  written_listed := fun h hdeclared _ => h.listed hdeclared
  written_readBack := MultistateWritten.readBack
  written_frame := MultistateWritten.frame
  written_of_read := MultistateWritten.of_read
  sharedGet_presentValue := fun s t =>
    ⟨s.effectivePresentValue, @MultistateState.sharedGet_effective s t⟩
  sharedGet_setPresentValue := fun {_ _ t} h => @MultistateState.sharedGet_presentValue _ t h
  setPresentValue_frame := MultistateState.sharedGet_presentValue_frame
  convert_eq_ok := by
    intro s commandable value x h
    rcases MultistateState.convert_eq_ok_iff.mp h with ⟨_, hx⟩ | ⟨state, rfl, _, _, hx⟩
    · cases hx
    · cases hx
      rfl

end BacnetRs.Object
