/-
  BacnetRs.Object.Analog — Analog Input, Output and Value (`object/analog.rs`).

  The three types hold the same state under the same names and answer from it
  alike (`AnalogState`): they are a family of points.

    * `analogLaws` — what is known of the shared getter and setter.  With
      reporting configured and no limits, Deadband and Limit_Enable are read
      though they are not listed, and with reporting configured the limits and
      Deadband are written whether or not they are.
-/
import BacnetRs.Object.Point

namespace BacnetRs.Object

open BacnetRs.Encoding BacnetRs.Property

/-! ## §1. The shared state -/

/-- `EngineeringUnits`, by its number. -/
structure EngineeringUnits where
  value : UInt32
  deriving Repr, DecidableEq

/-- `EngineeringUnits::NoUnits`. -/
def EngineeringUnits.noUnits : EngineeringUnits := ⟨95⟩

/-- The fields every analog object type holds. -/
structure AnalogState extends CommonState where
  presentValue : F32
  units : EngineeringUnits
  covIncrement : Option F32
  /-- OUT_OF_RANGE high limit; `none` disables the check. -/
  highLimit : Option F32
  /-- OUT_OF_RANGE low limit; `none` disables the check. -/
  lowLimit : Option F32
  deadband : F32
  /-- `none` when event detection is not configured. -/
  alarm : Option IntrinsicReporting
  /-- A local mechanism holding Present_Value, when one is. -/
  localOverride : Option (LocalOverride F32)
  deriving Repr, DecidableEq

/-- `commandable_real`. -/
def commandableReal : PropertyValue → Except ObjectError (Option F32)
  | .real value => .ok (some value)
  | .null => .ok none
  | _ => .error .invalidPropertyType

/-- The increment a COV_Increment write carries.  The source's message also
renders the number. -/
def expectIncrement (value : PropertyValue) : Except ObjectError F32 :=
  match value with
  | .real new =>
      if new.nonNegative then .ok new
      else .error (.invalidValue "COV_Increment cannot be negative")
  | _ => .error .invalidPropertyType

/-- `analog_alarm_get`; `none` when no reporting is configured or the property is
not an alarm property. -/
def analogAlarmGet (self : AnalogState) (property : PropertyIdentifier) :
    Option (Except ObjectError PropertyValue) :=
  match self.alarm with
  | none => none
  | some alarm =>
      match property with
      | .highLimit =>
          match self.highLimit with
          | some limit => some (.ok (.real limit))
          | none => some (.error .unknownProperty)
      | .lowLimit =>
          match self.lowLimit with
          | some limit => some (.ok (.real limit))
          | none => some (.error .unknownProperty)
      | .deadband => some (.ok (.real self.deadband))
      -- Limit_Enable is ordered low-limit-enable, high-limit-enable.
      | .limitEnable => some (.ok (.bitString [self.lowLimit.isSome, self.highLimit.isSome]))
      | _ => intrinsicGet alarm property

/-- `analog_alarm_set`. -/
def analogAlarmSet (self : AnalogState) (property : PropertyIdentifier) (value : PropertyValue) :
    Option (Attempt ObjectError AnalogState) :=
  match self.alarm with
  | none => none
  | some alarm =>
      match property with
      | .highLimit =>
          some (.store self (fun limit => { self with highLimit := limit }) (commandableReal value))
      | .lowLimit =>
          some (.store self (fun limit => { self with lowLimit := limit }) (commandableReal value))
      | .deadband =>
          some (.store self (fun band => { self with deadband := band }) (expectReal value))
      | _ =>
          (intrinsicSet alarm property value).map
            (Attempt.within (fun alarm => { self with alarm := some alarm }))

/-- `analog_alarm_property_list`. -/
def analogAlarmPropertyList (self : AnalogState) : List PropertyIdentifier :=
  if self.alarm.isNone then
    []
  else
    intrinsicPropertyList ++
      if self.highLimit.isSome || self.lowLimit.isSome then
        [PropertyIdentifier.deadband, .limitEnable]
          ++ (if self.highLimit.isSome then [PropertyIdentifier.highLimit] else [])
          ++ (if self.lowLimit.isSome then [PropertyIdentifier.lowLimit] else [])
      else
        []

/-- `analog_alarm_writable`. -/
def analogAlarmWritable (property : PropertyIdentifier) (alarmConfigured : Bool) : Bool :=
  alarmConfigured
    && [PropertyIdentifier.highLimit, .lowLimit, .deadband, .notificationClass, .timeDelay,
        .timeDelayNormal, .eventEnable, .notifyType, .eventDetectionEnable].contains property

namespace AnalogState

/-- What Present_Value reads: the local override while there is one. -/
def effectivePresentValue (self : AnalogState) : F32 :=
  match self.localOverride with
  | some held => held.value
  | none => self.presentValue

/-- The common part of the view an object of a type answers from. -/
def view (self : AnalogState) (objectType : ObjectType) : CommonView :=
  self.toCommonState.view objectType self.localOverride.isSome

/-- The properties `shared_get` answers after the common ones. -/
def familyGet (self : AnalogState) (property : PropertyIdentifier) :
    Option (Except ObjectError PropertyValue) :=
  match property with
  -- Absent it is an unknown property rather than a zero, which a COV engine
  -- would read as "report every change".
  | .covIncrement =>
      match self.covIncrement with
      | some increment => some (.ok (.real increment))
      | none => some (.error .unknownProperty)
  | .presentValue => some (.ok (.real self.effectivePresentValue))
  | .units => some (.ok (.enumerated self.units.value))
  | _ => analogAlarmGet self property

/-- `shared_get`; `none` for properties that belong to a single type. -/
def sharedGet (self : AnalogState) (objectType : ObjectType) (property : PropertyIdentifier) :
    Option (Except ObjectError PropertyValue) :=
  (commonGet (self.view objectType) property).or (self.familyGet property)

/-- `shared_set`; `none` when the property is not one this helper owns. -/
def sharedSet (self : AnalogState) (property : PropertyIdentifier) (value : PropertyValue) :
    Option (Attempt ObjectError AnalogState) :=
  match commonSet self.toCommonState property value with
  | some handled => some (.within (fun fields => { self with toCommonState := fields }) handled)
  | none =>
      if property = .covIncrement then
        match self.covIncrement with
        | none => some (.refused self .unknownProperty)
        | some _ =>
            some (.store self (fun new => { self with covIncrement := some new })
              (expectIncrement value))
      else
        analogAlarmSet self property value

/-- `shared_writable`. -/
def sharedWritable (self : AnalogState) (property : PropertyIdentifier) : Bool :=
  property == .covIncrement && self.covIncrement.isSome
    || self.optional.has property
      && [PropertyIdentifier.objectName, .description, .outOfService, .reliability].contains property
    || analogAlarmWritable property self.alarm.isSome

/-- `shared_property_list`. -/
def sharedPropertyList (self : AnalogState) (deviceType : Bool)
    (trailing : List PropertyIdentifier) : List PropertyIdentifier :=
  self.optional.retain
    ([PropertyIdentifier.objectIdentifier, .objectName, .objectType, .presentValue, .description]
      ++ (if deviceType then [PropertyIdentifier.deviceType] else [])
      ++ [PropertyIdentifier.statusFlags, .eventState, .reliability, .outOfService, .units]
      ++ trailing
      ++ (if self.covIncrement.isSome then [PropertyIdentifier.covIncrement] else [])
      ++ analogAlarmPropertyList self)

end AnalogState

/-- The analog family. -/
def analogFamily : Family AnalogState F32 where
  sharedGet := AnalogState.sharedGet
  sharedSet := AnalogState.sharedSet
  sharedWritable := AnalogState.sharedWritable
  outOfService := fun self => self.outOfService
  localOverride := AnalogState.localOverride
  setPresentValue := fun self value => { self with presentValue := value }
  convert := fun _ _ value => commandableReal value
  read := .real

/-! ## §2. The three types -/

/-- `AnalogInput`. -/
structure AnalogInput extends AnalogState where
  deviceType : String
  deriving Repr, DecidableEq

/-- `AnalogOutput`. -/
structure AnalogOutput extends Commanded AnalogState F32 where
  deviceType : String
  deriving Repr, DecidableEq

/-- `AnalogValue`. -/
structure AnalogValue extends Commanded AnalogState F32 where
  /-- Whether Present_Value is commanded through the priority array, or written
  straight through. -/
  commandable : Bool
  deriving Repr, DecidableEq

namespace AnalogInput

def getProperty (self : AnalogInput) (property : PropertyIdentifier) :
    Except ObjectError PropertyValue :=
  if property = .deviceType then .ok (.characterString self.deviceType)
  else analogFamily.readInput .analogInput self.toAnalogState property

def setProperty (self : AnalogInput) (property : PropertyIdentifier) (value : PropertyValue) :
    Attempt ObjectError AnalogInput :=
  .within (fun state => { self with toAnalogState := state })
    (analogFamily.writeInput self.toAnalogState property value)

def isPropertyWritable (self : AnalogInput) (property : PropertyIdentifier) : Bool :=
  analogFamily.inputWritable self.toAnalogState property

def propertyList (self : AnalogInput) : List PropertyIdentifier :=
  self.sharedPropertyList true []

end AnalogInput

namespace AnalogOutput

def getProperty (self : AnalogOutput) (property : PropertyIdentifier) :
    Except ObjectError PropertyValue :=
  if property = .deviceType then .ok (.characterString self.deviceType)
  else self.toCommanded.get analogFamily .analogOutput true property

def setProperty (self : AnalogOutput) (property : PropertyIdentifier) (value : PropertyValue) :
    Attempt ObjectError AnalogOutput :=
  .within (fun commanded => { self with toCommanded := commanded })
    (self.toCommanded.set analogFamily true property value)

def setPropertyWithPriority (self : AnalogOutput) (property : PropertyIdentifier)
    (value : PropertyValue) (priority : Option UInt8) : Attempt ObjectError AnalogOutput :=
  .within (fun commanded => { self with toCommanded := commanded })
    (self.toCommanded.setWithPriority analogFamily true property value priority)

def isPropertyWritable (self : AnalogOutput) (property : PropertyIdentifier) : Bool :=
  self.toCommanded.writable analogFamily property

def propertyList (self : AnalogOutput) : List PropertyIdentifier :=
  self.state.sharedPropertyList true (Commanded.trailing true)

end AnalogOutput

namespace AnalogValue

/-- `AnalogValue::new`. -/
def new (instance_ : UInt32) (objectName : String) : AnalogValue :=
  { state :=
      { identifier := ⟨.analogValue, instance_⟩
        objectName
        description := ""
        overridden := false
        eventState := .normal
        reliability := .noFaultDetected
        outOfService := false
        optional := .default
        presentValue := ⟨0⟩
        units := .noUnits
        covIncrement := none
        highLimit := none
        lowLimit := none
        deadband := ⟨0⟩
        alarm := none
        localOverride := none }
    priorityArray := Vector.replicate 16 none
    relinquishDefault := ⟨0⟩
    commandable := true }

/-- `AnalogValue::with_intrinsic_reporting`. -/
def withIntrinsicReporting (self : AnalogValue) (notificationClass : UInt32) : AnalogValue :=
  { self with state := { self.state with alarm := some (.new notificationClass) } }

def getProperty (self : AnalogValue) (property : PropertyIdentifier) :
    Except ObjectError PropertyValue :=
  self.toCommanded.get analogFamily .analogValue self.commandable property

def setProperty (self : AnalogValue) (property : PropertyIdentifier) (value : PropertyValue) :
    Attempt ObjectError AnalogValue :=
  .within (fun commanded => { self with toCommanded := commanded })
    (self.toCommanded.set analogFamily self.commandable property value)

def setPropertyWithPriority (self : AnalogValue) (property : PropertyIdentifier)
    (value : PropertyValue) (priority : Option UInt8) : Attempt ObjectError AnalogValue :=
  .within (fun commanded => { self with toCommanded := commanded })
    (self.toCommanded.setWithPriority analogFamily self.commandable property value priority)

def isPropertyWritable (self : AnalogValue) (property : PropertyIdentifier) : Bool :=
  self.toCommanded.writable analogFamily property

def propertyList (self : AnalogValue) : List PropertyIdentifier :=
  self.state.sharedPropertyList false (Commanded.trailing self.commandable)

end AnalogValue

/-! ## §3. What can be read -/

/-- Reporting is configured with no limit to compare with. -/
def AnalogState.LimitsMissing (self : AnalogState) : Prop :=
  self.alarm.isSome = true ∧ self.highLimit = none ∧ self.lowLimit = none

/-- With the limits missing, Deadband and Limit_Enable are read though not listed. -/
theorem analogAlarmGet_readable_iff {s : AnalogState} {property : PropertyIdentifier} :
    (∃ v, analogAlarmGet s property = some (.ok v))
      ↔ property ∈ analogAlarmPropertyList s
        ∨ (s.LimitsMissing ∧ (property = .deadband ∨ property = .limitEnable)) := by
  unfold analogAlarmGet analogAlarmPropertyList AnalogState.LimitsMissing
  cases halarm : s.alarm with
  | none => simp
  | some alarm =>
      simp only [Option.isNone_some, Option.isSome_some, true_and]
      split
      · cases s.highLimit <;> cases s.lowLimit <;> simp [intrinsicPropertyList]
      · cases s.highLimit <;> cases s.lowLimit <;> simp [intrinsicPropertyList]
      · cases s.highLimit <;> cases s.lowLimit <;> simp [intrinsicPropertyList]
      · cases s.highLimit <;> cases s.lowLimit <;> simp [intrinsicPropertyList]
      · rw [intrinsicGet_readable_iff]
        cases s.highLimit <;> cases s.lowLimit <;> simp_all

theorem not_mem_commonProperties_of_alarm {s : AnalogState} {property : PropertyIdentifier}
    (h : property ∈ analogAlarmPropertyList s) : property ∉ commonProperties := by
  unfold analogAlarmPropertyList intrinsicPropertyList at h
  unfold commonProperties
  intro hcommon
  simp only [List.mem_cons, List.not_mem_nil, or_false] at hcommon
  rcases hcommon with rfl | rfl | rfl | rfl | rfl | rfl | rfl | rfl
  all_goals revert h
  all_goals simp

namespace AnalogState

theorem familyGet_readable_iff {s : AnalogState} {property : PropertyIdentifier} :
    (∃ v, s.familyGet property = some (.ok v))
      ↔ (property = .covIncrement ∧ s.covIncrement.isSome = true)
        ∨ property = .presentValue ∨ property = .units
        ∨ property ∈ analogAlarmPropertyList s
        ∨ (s.LimitsMissing ∧ (property = .deadband ∨ property = .limitEnable)) := by
  unfold familyGet
  split
  · cases s.covIncrement <;> simp [analogAlarmPropertyList, intrinsicPropertyList]
  · simp
  · simp
  · rw [analogAlarmGet_readable_iff]
    simp_all

/-- The list of a type is the shared one and what the type adds. -/
theorem mem_sharedPropertyList {s : AnalogState} {deviceType : Bool}
    {trailing : List PropertyIdentifier} {property : PropertyIdentifier} :
    property ∈ s.sharedPropertyList deviceType trailing
      ↔ property ∈ s.sharedPropertyList false []
        ∨ (property = .deviceType ∧ deviceType = true)
        ∨ (property ∈ trailing ∧ s.optional.has property = true) := by
  unfold sharedPropertyList
  simp only [OptionalProperties.mem_retain, List.mem_append]
  cases deviceType with
  | false =>
      simp only [Bool.false_eq_true, if_false]
      tauto
  | true =>
      have hhas : property = .deviceType → s.optional.has property = true := by
        rintro rfl
        rfl
      simp only [if_true, Bool.false_eq_true, if_false, List.mem_singleton, List.not_mem_nil]
      tauto

theorem mem_sharedPropertyList_nil {s : AnalogState} {property : PropertyIdentifier} :
    property ∈ s.sharedPropertyList false []
      ↔ (property ∈ commonProperties ∧ s.optional.has property = true)
        ∨ (property = .covIncrement ∧ s.covIncrement.isSome = true)
        ∨ property = .presentValue ∨ property = .units
        ∨ property ∈ analogAlarmPropertyList s := by
  unfold sharedPropertyList
  rw [OptionalProperties.mem_retain]
  by_cases hcommon : property ∈ commonProperties
  · have halarm : property ∉ analogAlarmPropertyList s :=
      fun h => not_mem_commonProperties_of_alarm h hcommon
    simp only [commonProperties, List.mem_cons, List.not_mem_nil, or_false] at hcommon
    rcases hcommon with rfl | rfl | rfl | rfl | rfl | rfl | rfl | rfl
    all_goals simp [commonProperties, halarm]
  · have hhas : s.optional.has property = true := has_of_not_mem_commonProperties hcommon
    simp only [commonProperties, List.mem_cons, List.not_mem_nil, or_false, not_or] at hcommon
    simp [commonProperties, hcommon, hhas]
    tauto

/-- With the limits missing, Deadband and Limit_Enable are not listed. -/
theorem not_listed_of_limitsMissing {s : AnalogState} {deviceType : Bool}
    {trailing : List PropertyIdentifier} {property : PropertyIdentifier}
    (h : trailing.Sublist [.priorityArray, .relinquishDefault]) (hmissing : s.LimitsMissing)
    (hproperty : property = .deadband ∨ property = .limitEnable) :
    property ∉ s.sharedPropertyList deviceType trailing := by
  obtain ⟨_, hhigh, hlow⟩ := hmissing
  have htrailing : property ∉ trailing := by
    intro hmem
    rcases hproperty with rfl | rfl
    · exact absurd (h.subset hmem) (by simp)
    · exact absurd (h.subset hmem) (by simp)
  rw [mem_sharedPropertyList, mem_sharedPropertyList_nil]
  unfold analogAlarmPropertyList
  rcases hproperty with rfl | rfl
  all_goals simp [commonProperties, intrinsicPropertyList, hhigh, hlow, htrailing]

/-- **What the shared getter reads is what is listed.** -/
theorem sharedGet_readable_iff {s : AnalogState} {objectType : ObjectType}
    {property : PropertyIdentifier} :
    (∃ v, s.sharedGet objectType property = some (.ok v))
      ↔ property ∈ s.sharedPropertyList false []
        ∨ (s.LimitsMissing ∧ (property = .deadband ∨ property = .limitEnable)) := by
  unfold sharedGet
  rw [readable_or, commonGet_readable_iff, commonGet_eq_none_iff, familyGet_readable_iff,
    mem_sharedPropertyList_nil]
  have hview : (s.view objectType).optional = s.optional := rfl
  rw [hview]
  by_cases hcommon : property ∈ commonProperties
  · have halarm : property ∉ analogAlarmPropertyList s :=
      fun h => not_mem_commonProperties_of_alarm h hcommon
    simp only [commonProperties, List.mem_cons, List.not_mem_nil, or_false] at hcommon
    rcases hcommon with rfl | rfl | rfl | rfl | rfl | rfl | rfl | rfl
    all_goals simp [commonProperties, halarm]
  · simp [hcommon]
    tauto

/-- Every property an analog object may list. -/
def analogProperties : List PropertyIdentifier :=
  [PropertyIdentifier.objectIdentifier, .objectName, .objectType, .presentValue, .description]
    ++ [PropertyIdentifier.deviceType]
    ++ [PropertyIdentifier.statusFlags, .eventState, .reliability, .outOfService, .units]
    ++ [PropertyIdentifier.priorityArray, .relinquishDefault] ++ [PropertyIdentifier.covIncrement]
    ++ (intrinsicPropertyList
      ++ ([PropertyIdentifier.deadband, .limitEnable] ++ [PropertyIdentifier.highLimit]
        ++ [PropertyIdentifier.lowLimit]))

theorem sharedPropertyList_sublist {s : AnalogState} {deviceType : Bool}
    {trailing : List PropertyIdentifier}
    (h : trailing.Sublist [.priorityArray, .relinquishDefault]) :
    (s.sharedPropertyList deviceType trailing).Sublist analogProperties := by
  refine .trans List.filter_sublist ?_
  refine .append (.append (.append (.append (.append (.refl _) (ite_sublist _ _)) (.refl _)) h)
    (ite_sublist _ _)) ?_
  unfold analogAlarmPropertyList
  split
  · exact List.nil_sublist _
  · refine .append (.refl _) ?_
    split
    · exact .append (.append (.refl _) (ite_sublist _ _)) (ite_sublist _ _)
    · exact List.nil_sublist _

theorem sharedPropertyList_nodup {s : AnalogState} {deviceType : Bool}
    {trailing : List PropertyIdentifier}
    (h : trailing.Sublist [.priorityArray, .relinquishDefault]) :
    (s.sharedPropertyList deviceType trailing).Nodup := by
  have hfull : analogProperties.Nodup := by decide +kernel
  exact List.Pairwise.sublist (sharedPropertyList_sublist h) hfull

end AnalogState

/-! ## §4. What a write leaves -/

/-- What a write of a property of the analog state leaves. -/
inductive AnalogWritten (s : AnalogState) :
    PropertyIdentifier → PropertyValue → AnalogState → Prop
  | common {property : PropertyIdentifier} {value : PropertyValue} {fields : CommonState}
      (h : CommonWritten s.toCommonState property value fields) :
      AnalogWritten s property value { s with toCommonState := fields }
  | covIncrement {old : F32} (h : s.covIncrement = some old) (new : F32)
      (hnew : new.nonNegative = true) :
      AnalogWritten s .covIncrement (.real new) { s with covIncrement := some new }
  | highLimit (h : s.alarm.isSome = true) (limit : F32) :
      AnalogWritten s .highLimit (.real limit) { s with highLimit := some limit }
  | noHighLimit (h : s.alarm.isSome = true) :
      AnalogWritten s .highLimit .null { s with highLimit := none }
  | lowLimit (h : s.alarm.isSome = true) (limit : F32) :
      AnalogWritten s .lowLimit (.real limit) { s with lowLimit := some limit }
  | noLowLimit (h : s.alarm.isSome = true) :
      AnalogWritten s .lowLimit .null { s with lowLimit := none }
  | deadband (h : s.alarm.isSome = true) (band : F32) :
      AnalogWritten s .deadband (.real band) { s with deadband := band }
  | intrinsic {alarm alarm' : IntrinsicReporting} {property : PropertyIdentifier}
      {value : PropertyValue} (halarm : s.alarm = some alarm)
      (h : IntrinsicWritten alarm property value alarm') :
      AnalogWritten s property value { s with alarm := some alarm' }

theorem commandableReal_eq_ok_iff {value : PropertyValue} {x : Option F32} :
    commandableReal value = .ok x
      ↔ (value = .null ∧ x = none) ∨ ∃ reading, value = .real reading ∧ x = some reading := by
  cases value <;> simp [commandableReal, eq_comm]

theorem expectIncrement_eq_ok_iff {value : PropertyValue} {x : F32} :
    expectIncrement value = .ok x ↔ value = .real x ∧ x.nonNegative = true := by
  unfold expectIncrement
  split
  · next new =>
      split
      · next h =>
          simp only [Except.ok.injEq, PropertyValue.real.injEq]
          constructor
          · rintro rfl
            exact ⟨rfl, h⟩
          · exact fun h => h.1
      · next h =>
          constructor
          · intro he
            cases he
          · rintro ⟨hx, hnew⟩
            cases hx
            exact absurd hnew h
  · next h =>
      constructor
      · intro he
        cases he
      · rintro ⟨hx, _⟩
        exact absurd hx (h x)

/-- A property that is neither common nor the increment goes to the alarm setter. -/
theorem AnalogState.sharedSet_of_alarm {s : AnalogState} {property : PropertyIdentifier}
    {value : PropertyValue} (hcommon : property ∉ commonWritable) (hcov : property ≠ .covIncrement) :
    s.sharedSet property value = analogAlarmSet s property value := by
  unfold sharedSet
  rw [commonSet_eq_none_iff.mpr hcommon]
  simp [hcov]

/-- **What writing an analog property does.** -/
theorem AnalogState.sharedSet_eq_ok_iff {s s' : AnalogState} {property : PropertyIdentifier}
    {value : PropertyValue} :
    s.sharedSet property value = some (s', .ok ()) ↔ AnalogWritten s property value s' := by
  constructor
  · intro h
    unfold sharedSet at h
    split at h
    -- The arms in the order of the source: shared fields, COV increment, alarm.
    · next handled hcommon =>
        obtain ⟨fields, rfl, rfl⟩ := Attempt.within_eq_ok_iff.mp (Option.some.inj h)
        exact .common (commonSet_eq_ok_iff.mp hcommon)
    · split at h
      · next hproperty =>
          subst hproperty
          split at h
          · exact absurd (Option.some.inj h) Attempt.refused_ne_ok
          · next old hold =>
              obtain ⟨new, hnew, rfl⟩ := Attempt.store_eq_ok_iff.mp (Option.some.inj h)
              obtain ⟨rfl, hnonneg⟩ := expectIncrement_eq_ok_iff.mp hnew
              exact .covIncrement hold new hnonneg
      · unfold analogAlarmSet at h
        split at h
        · cases h
        · next alarm halarm =>
            have hsome : s.alarm.isSome = true := by rw [halarm]; rfl
            split at h
            · obtain ⟨limit, hlimit, rfl⟩ := Attempt.store_eq_ok_iff.mp (Option.some.inj h)
              rcases commandableReal_eq_ok_iff.mp hlimit with ⟨rfl, rfl⟩ | ⟨x, rfl, rfl⟩
              · exact .noHighLimit hsome
              · exact .highLimit hsome x
            · obtain ⟨limit, hlimit, rfl⟩ := Attempt.store_eq_ok_iff.mp (Option.some.inj h)
              rcases commandableReal_eq_ok_iff.mp hlimit with ⟨rfl, rfl⟩ | ⟨x, rfl, rfl⟩
              · exact .noLowLimit hsome
              · exact .lowLimit hsome x
            · obtain ⟨band, hband, rfl⟩ := Attempt.store_eq_ok_iff.mp (Option.some.inj h)
              rw [expectReal_eq_ok_iff.mp hband]
              exact .deadband hsome band
            · obtain ⟨attempt, hattempt, hwithin⟩ := Option.map_eq_some_iff.mp h
              obtain ⟨alarm', rfl, rfl⟩ := Attempt.within_eq_ok_iff.mp hwithin
              exact .intrinsic halarm (intrinsicSet_eq_ok_iff.mp hattempt)
  · intro h
    cases h with
    | common hcommon =>
        unfold sharedSet
        rw [commonSet_eq_ok_iff.mpr hcommon]
        rfl
    -- From here on each property is none of the arms before its own.
    | covIncrement hold new hnew =>
        have hnone : commonSet s.toCommonState .covIncrement (.real new) = none :=
          commonSet_eq_none_iff.mpr (by simp [commonWritable])
        simp [sharedSet, hnone, hold, Attempt.store_of_ok (expectIncrement_eq_ok_iff.mpr ⟨rfl, hnew⟩)]
    | highLimit hsome limit =>
        obtain ⟨alarm, halarm⟩ := Option.isSome_iff_exists.mp hsome
        rw [sharedSet_of_alarm (by simp [commonWritable]) (by simp)]
        simp [analogAlarmSet, halarm, commandableReal, Attempt.store, Attempt.done]
    | noHighLimit hsome =>
        obtain ⟨alarm, halarm⟩ := Option.isSome_iff_exists.mp hsome
        rw [sharedSet_of_alarm (by simp [commonWritable]) (by simp)]
        simp [analogAlarmSet, halarm, commandableReal, Attempt.store, Attempt.done]
    | lowLimit hsome limit =>
        obtain ⟨alarm, halarm⟩ := Option.isSome_iff_exists.mp hsome
        rw [sharedSet_of_alarm (by simp [commonWritable]) (by simp)]
        simp [analogAlarmSet, halarm, commandableReal, Attempt.store, Attempt.done]
    | noLowLimit hsome =>
        obtain ⟨alarm, halarm⟩ := Option.isSome_iff_exists.mp hsome
        rw [sharedSet_of_alarm (by simp [commonWritable]) (by simp)]
        simp [analogAlarmSet, halarm, commandableReal, Attempt.store, Attempt.done]
    | deadband hsome band =>
        obtain ⟨alarm, halarm⟩ := Option.isSome_iff_exists.mp hsome
        rw [sharedSet_of_alarm (by simp [commonWritable]) (by simp)]
        simp [analogAlarmSet, halarm, expectReal, Attempt.store, Attempt.done]
    | intrinsic halarm hwritten =>
        have hset := intrinsicSet_eq_ok_iff.mpr hwritten
        have hproperty := hwritten.writable
        simp only [intrinsicWritable, List.mem_cons, List.not_mem_nil, or_false] at hproperty
        rcases hproperty with rfl | rfl | rfl | rfl | rfl | rfl
        all_goals rw [sharedSet_of_alarm (by simp [commonWritable]) (by simp)]
        all_goals simp [analogAlarmSet, halarm, hset, Attempt.within]

/-- A refused write of an analog property changes nothing. -/
theorem AnalogState.sharedSet_atomic {s : AnalogState} {property : PropertyIdentifier}
    {value : PropertyValue} {attempt : Attempt ObjectError AnalogState}
    (h : s.sharedSet property value = some attempt) : attempt.Atomic s := by
  unfold sharedSet at h
  split at h
  · next handled hcommon =>
      cases h
      exact (commonSet_atomic hcommon).within rfl
  · split at h
    · split at h
      all_goals cases h
      · exact Attempt.atomic_refused s _
      · exact Attempt.atomic_store s _ _
    · unfold analogAlarmSet at h
      split at h
      · cases h
      · next alarm halarm =>
          split at h
          · cases h
            exact Attempt.atomic_store s _ _
          · cases h
            exact Attempt.atomic_store s _ _
          · cases h
            exact Attempt.atomic_store s _ _
          · obtain ⟨attempt, hattempt, rfl⟩ := Option.map_eq_some_iff.mp h
            apply (intrinsicSet_atomic hattempt).within
            rw [← halarm]

/-- The properties of a single type are none of the shared ones. -/
theorem AnalogState.writable_not_typeProperty {s : AnalogState} {property : PropertyIdentifier}
    (h : s.sharedWritable property = true) : property ∉ typeProperties := by
  intro htype
  simp only [typeProperties, List.mem_cons, List.not_mem_nil, or_false] at htype
  rcases htype with rfl | rfl | rfl | rfl
  all_goals simp [sharedWritable, analogAlarmWritable] at h

theorem AnalogState.typeProperties_not_listed {s : AnalogState} {property : PropertyIdentifier}
    (h : property ∈ typeProperties) (hpv : property ≠ .presentValue) :
    property ∉ s.sharedPropertyList false []
      ∧ ¬ (s.LimitsMissing ∧ (property = .deadband ∨ property = .limitEnable)) := by
  simp only [typeProperties, List.mem_cons, List.not_mem_nil, or_false] at h
  rw [AnalogState.mem_sharedPropertyList_nil]
  rcases h with rfl | rfl | rfl | rfl
  · exact absurd rfl hpv
  all_goals simp [commonProperties, analogAlarmPropertyList, intrinsicPropertyList]

namespace AnalogWritten

variable {s s' : AnalogState} {property : PropertyIdentifier} {value : PropertyValue}

theorem writable (h : AnalogWritten s property value s') : s.sharedWritable property = true := by
  unfold AnalogState.sharedWritable analogAlarmWritable
  cases h with
  | common hcommon =>
      obtain ⟨hproperty, hhas⟩ := hcommon.writable
      simp only [commonWritable, List.mem_cons, List.not_mem_nil, or_false] at hproperty
      rcases hproperty with rfl | rfl | rfl | rfl
      all_goals simp [hhas]
  | covIncrement hold new hnew => simp [hold]
  | highLimit hsome limit => simp [hsome]
  | noHighLimit hsome => simp [hsome]
  | lowLimit hsome limit => simp [hsome]
  | noLowLimit hsome => simp [hsome]
  | deadband hsome band => simp [hsome]
  | intrinsic halarm hwritten =>
      have hproperty := hwritten.writable
      simp only [intrinsicWritable, List.mem_cons, List.not_mem_nil, or_false] at hproperty
      rcases hproperty with rfl | rfl | rfl | rfl | rfl | rfl
      all_goals simp [halarm]

/-- What is written is listed, but for a limit or Deadband with reporting configured. -/
theorem listed (h : AnalogWritten s property value s')
    (hlimit : property ∉ [PropertyIdentifier.highLimit, .lowLimit, .deadband]) :
    property ∈ s.sharedPropertyList false [] := by
  rw [AnalogState.mem_sharedPropertyList_nil]
  cases h with
  | common hcommon =>
      obtain ⟨hproperty, hhas⟩ := hcommon.writable
      left
      refine ⟨?_, hhas⟩
      simp only [commonWritable, List.mem_cons, List.not_mem_nil, or_false] at hproperty
      rcases hproperty with rfl | rfl | rfl | rfl
      all_goals simp [commonProperties]
  | covIncrement hold new hnew => simp [hold]
  | highLimit hsome limit => simp at hlimit
  | noHighLimit hsome => simp at hlimit
  | lowLimit hsome limit => simp at hlimit
  | noLowLimit hsome => simp at hlimit
  | deadband hsome band => simp at hlimit
  | intrinsic halarm hwritten =>
      have hproperty := hwritten.writable
      simp only [intrinsicWritable, List.mem_cons, List.not_mem_nil, or_false] at hproperty
      rcases hproperty with rfl | rfl | rfl | rfl | rfl | rfl
      all_goals simp [analogAlarmPropertyList, halarm, intrinsicPropertyList]

/-- The value written is the value read. -/
theorem readBack (h : AnalogWritten s property value s') (hvalue : OwnDatatype property value)
    (objectType : ObjectType) :
    s'.sharedGet objectType property = some (.ok (asStored property value)) := by
  unfold AnalogState.sharedGet
  cases h with
  | common hcommon =>
      have hread := hcommon.readBack objectType s.localOverride.isSome
      unfold AnalogState.view
      rw [hread, hcommon.asStored_eq]
      rfl
  | covIncrement hold new hnew => rfl
  | highLimit hsome limit =>
      obtain ⟨alarm, halarm⟩ := Option.isSome_iff_exists.mp hsome
      simp [commonGet_eq_none_iff.mpr, commonProperties, AnalogState.familyGet, analogAlarmGet, halarm,
        asStored]
  | noHighLimit hsome => exact absurd rfl hvalue.notNull
  | lowLimit hsome limit =>
      obtain ⟨alarm, halarm⟩ := Option.isSome_iff_exists.mp hsome
      simp [commonGet_eq_none_iff.mpr, commonProperties, AnalogState.familyGet, analogAlarmGet, halarm,
        asStored]
  | noLowLimit hsome => exact absurd rfl hvalue.notNull
  | deadband hsome band =>
      obtain ⟨alarm, halarm⟩ := Option.isSome_iff_exists.mp hsome
      simp [commonGet_eq_none_iff.mpr, commonProperties, AnalogState.familyGet, analogAlarmGet, halarm,
        asStored]
  | intrinsic halarm hwritten =>
      have hread := hwritten.readBack hvalue.notNull
      have hproperty := hwritten.writable
      simp only [intrinsicWritable, List.mem_cons, List.not_mem_nil, or_false] at hproperty
      rcases hproperty with rfl | rfl | rfl | rfl | rfl | rfl
      all_goals simp [commonGet_eq_none_iff.mpr, commonProperties, AnalogState.familyGet,
        analogAlarmGet, hread]

theorem frame_common (h : AnalogWritten s property value s') {q : PropertyIdentifier}
    (hq : q ≠ property) (hcomputed : ¬ ComputedFrom s.alarm q property) (objectType : ObjectType) :
    commonGet (s'.view objectType) q = commonGet (s.view objectType) q := by
  cases h with
  | common hcommon =>
      apply hcommon.frame hq
      intro hflags
      constructor
      · rintro rfl
        exact hcomputed (.inl ⟨hflags, .inl rfl⟩)
      · rintro rfl
        exact hcomputed (.inl ⟨hflags, .inr rfl⟩)
  | covIncrement hold new hnew => rfl
  | highLimit hsome limit => rfl
  | noHighLimit hsome => rfl
  | lowLimit hsome limit => rfl
  | noLowLimit hsome => rfl
  | deadband hsome band => rfl
  | intrinsic halarm hwritten => rfl

theorem frame_family (h : AnalogWritten s property value s') {q : PropertyIdentifier}
    (hq : q ≠ property) (hcomputed : ¬ ComputedFrom s.alarm q property) :
    s'.familyGet q = s.familyGet q := by
  have hlimits : q = .limitEnable → property ≠ .highLimit ∧ property ≠ .lowLimit := by
    intro henable
    constructor
    · rintro rfl
      exact hcomputed (.inr (.inl ⟨henable, .inl rfl⟩))
    · rintro rfl
      exact hcomputed (.inr (.inl ⟨henable, .inr rfl⟩))
  by_cases hnamed : q ∈ [PropertyIdentifier.covIncrement, .presentValue, .units, .highLimit,
      .lowLimit, .deadband, .limitEnable]
  · simp only [List.mem_cons, List.not_mem_nil, or_false] at hnamed
    rcases hnamed with rfl | rfl | rfl | rfl | rfl | rfl | rfl
    all_goals cases h
    all_goals first
      | rfl
      | exact absurd rfl hq
      | exact absurd rfl (hlimits rfl).1
      | exact absurd rfl (hlimits rfl).2
      | simp [AnalogState.familyGet, analogAlarmGet, *]
  · simp only [List.mem_cons, List.not_mem_nil, or_false, not_or] at hnamed
    cases h with
    | common hcommon => rfl
    | intrinsic halarm hwritten =>
        rw [halarm] at hcomputed
        simp [AnalogState.familyGet, analogAlarmGet, hnamed, halarm, hwritten.frame hq hcomputed]
    | covIncrement hold new hnew => simp [AnalogState.familyGet, analogAlarmGet, hnamed]
    | highLimit hsome limit => simp [AnalogState.familyGet, analogAlarmGet, hnamed]
    | noHighLimit hsome => simp [AnalogState.familyGet, analogAlarmGet, hnamed]
    | lowLimit hsome limit => simp [AnalogState.familyGet, analogAlarmGet, hnamed]
    | noLowLimit hsome => simp [AnalogState.familyGet, analogAlarmGet, hnamed]
    | deadband hsome band => simp [AnalogState.familyGet, analogAlarmGet, hnamed]

/-- **Every property not written or computed from it reads as before.** -/
theorem frame (h : AnalogWritten s property value s') {q : PropertyIdentifier}
    (hq : q ≠ property) (hcomputed : ¬ ComputedFrom s.alarm q property) (objectType : ObjectType) :
    s'.sharedGet objectType q = s.sharedGet objectType q := by
  unfold AnalogState.sharedGet
  rw [h.frame_common hq hcomputed, h.frame_family hq hcomputed]

/-- A value read of a writable property can be written back, if it passes the checks
the setter makes. -/
theorem of_read {objectType : ObjectType} (hwritable : s.sharedWritable property = true)
    (hread : s.sharedGet objectType property = some (.ok value))
    (hincrement : property = .covIncrement → ∀ x, value = .real x → x.nonNegative = true)
    (hkind : property = .notifyType → value ≠ .enumerated NotifyType.ackNotification.toUInt32) :
    ∃ s', AnalogWritten s property value s' := by
  unfold AnalogState.sharedGet at hread
  by_cases hcommon : property ∈ commonProperties
  · have hnone : commonGet (s.view objectType) property ≠ none :=
      fun h => commonGet_eq_none_iff.mp h hcommon
    obtain ⟨result, hresult⟩ := Option.ne_none_iff_exists'.mp hnone
    rw [hresult] at hread
    have hmember : property ∈ commonWritable := by
      simp only [commonProperties, List.mem_cons, List.not_mem_nil, or_false] at hcommon
      rcases hcommon with rfl | rfl | rfl | rfl | rfl | rfl | rfl | rfl
      all_goals revert hwritable
      all_goals simp [AnalogState.sharedWritable, analogAlarmWritable, commonWritable]
    have hvalue : commonGet (s.view objectType) property = some (.ok value) := by
      rw [hresult]
      exact hread
    exact ⟨_, .common (CommonWritten.of_read hmember hvalue)⟩
  · rw [commonGet_eq_none_iff.mpr hcommon, Option.none_or] at hread
    -- What is writable here and no common field is the increment or a field of the alarm.
    have hspecific : (property = .covIncrement ∧ s.covIncrement.isSome = true)
        ∨ (s.alarm.isSome = true ∧ (property = .highLimit ∨ property = .lowLimit
          ∨ property = .deadband ∨ property ∈ intrinsicWritable)) := by
      have hshared : property ∉ commonWritable :=
        fun h => hcommon (commonWritable_subset h)
      simp only [commonWritable, List.mem_cons, List.not_mem_nil, or_false, not_or] at hshared
      simp [AnalogState.sharedWritable, analogAlarmWritable, hshared] at hwritable
      simpa [intrinsicWritable] using hwritable
    rcases hspecific with ⟨rfl, hcov⟩ | ⟨halarm, hproperty⟩
    · obtain ⟨increment, hincr⟩ := Option.isSome_iff_exists.mp hcov
      simp only [AnalogState.familyGet, hincr] at hread
      cases hread
      exact ⟨_, .covIncrement hincr increment (hincrement rfl increment rfl)⟩
    · obtain ⟨alarm, hsome⟩ := Option.isSome_iff_exists.mp halarm
      rcases hproperty with rfl | rfl | rfl | hproperty
      -- A limit that was never set has no value to read.
      · cases hlimit : s.highLimit with
        | none => simp [AnalogState.familyGet, analogAlarmGet, hsome, hlimit] at hread
        | some limit =>
            simp [AnalogState.familyGet, analogAlarmGet, hsome, hlimit] at hread
            subst hread
            exact ⟨_, .highLimit halarm limit⟩
      · cases hlimit : s.lowLimit with
        | none => simp [AnalogState.familyGet, analogAlarmGet, hsome, hlimit] at hread
        | some limit =>
            simp [AnalogState.familyGet, analogAlarmGet, hsome, hlimit] at hread
            subst hread
            exact ⟨_, .lowLimit halarm limit⟩
      · simp [AnalogState.familyGet, analogAlarmGet, hsome] at hread
        subst hread
        exact ⟨_, .deadband halarm s.deadband⟩
      · have hget : intrinsicGet alarm property = some (.ok value) := by
          simp only [intrinsicWritable, List.mem_cons, List.not_mem_nil, or_false] at hproperty
          rcases hproperty with rfl | rfl | rfl | rfl | rfl | rfl
          all_goals simpa [AnalogState.familyGet, analogAlarmGet, hsome] using hread
        obtain ⟨alarm', hwritten⟩ := IntrinsicWritten.of_read hproperty hkind hget
        exact ⟨_, .intrinsic hsome hwritten⟩

end AnalogWritten

/-! ## §5. The family's laws -/

/-- Present_Value is the only property of the shared state that a reading moves. -/
theorem AnalogState.sharedGet_presentValue_frame {s : AnalogState} {x : F32}
    {objectType : ObjectType} {q : PropertyIdentifier} (hq : q ≠ .presentValue) :
    AnalogState.sharedGet { s with presentValue := x } objectType q = s.sharedGet objectType q := by
  have hcommon : AnalogState.view { s with presentValue := x } objectType = s.view objectType := rfl
  unfold sharedGet
  rw [hcommon]
  congr 1
  by_cases hnamed : q = .covIncrement ∨ q = .units
  · rcases hnamed with rfl | rfl
    · rfl
    · rfl
  · rw [not_or] at hnamed
    simp [familyGet, hnamed]
    rfl

theorem AnalogState.sharedGet_effective {s : AnalogState} {objectType : ObjectType} :
    s.sharedGet objectType .presentValue = some (.ok (.real s.effectivePresentValue)) := by
  simp [sharedGet, commonGet_eq_none_iff.mpr, commonProperties, familyGet]

theorem AnalogState.sharedGet_presentValue {s : AnalogState} {objectType : ObjectType}
    (h : s.localOverride = none) :
    s.sharedGet objectType .presentValue = some (.ok (.real s.presentValue)) := by
  simp [sharedGet_effective, effectivePresentValue, h]

/-- **The analog family keeps its laws.** -/
def analogLaws : analogFamily.Laws where
  Written := AnalogWritten
  listed := fun s => s.sharedPropertyList false []
  alarm := AnalogState.alarm
  Unlisted := fun s property =>
    s.LimitsMissing ∧ (property = .deadband ∨ property = .limitEnable)
  Undeclared := fun _ _ => False
  Stray := fun property => property ∈ [PropertyIdentifier.highLimit, .lowLimit, .deadband]
  sharedSet_eq_ok_iff := AnalogState.sharedSet_eq_ok_iff
  sharedSet_atomic := AnalogState.sharedSet_atomic
  sharedGet_readable_iff := AnalogState.sharedGet_readable_iff
  presentValue_mem_listed := fun _ => AnalogState.mem_sharedPropertyList_nil.mpr (by simp)
  typeProperties_not_listed := AnalogState.typeProperties_not_listed
  written_not_typeProperty := fun h => AnalogState.writable_not_typeProperty h.writable
  writable_not_typeProperty := AnalogState.writable_not_typeProperty
  written_writable := fun h _ => h.writable
  written_listed := fun h _ hstray => h.listed hstray
  written_readBack := fun h _ hvalue => h.readBack hvalue _
  written_frame := fun h hq hcomputed => h.frame hq hcomputed _
  written_of_read := fun hwritable hread hstorable =>
    AnalogWritten.of_read hwritable hread hstorable.1 hstorable.2
  sharedGet_presentValue := fun s t => ⟨s.effectivePresentValue, @AnalogState.sharedGet_effective s t⟩
  sharedGet_setPresentValue := fun {_ _ t} h => @AnalogState.sharedGet_presentValue _ t h
  setPresentValue_frame := AnalogState.sharedGet_presentValue_frame
  convert_eq_ok := by
    intro s commandable value x h
    rcases commandableReal_eq_ok_iff.mp h with ⟨_, hx⟩ | ⟨y, rfl, hx⟩
    · cases hx
    · cases hx
      rfl

end BacnetRs.Object
