/-
  BacnetRs.Object.Intrinsic — intrinsic reporting (`object/intrinsic.rs`).

  An object with event detection configured carries the state every event
  algorithm shares, and with it eight properties.  Two of them are kept by the
  event algorithm and refuse every write.

    * `intrinsicGet_eq_none_iff` — which properties these are.
    * `intrinsicSet_eq_ok_iff`   — what writing one of them does
                                   (`IntrinsicWritten`).

  What caused each transition is kept with its time stamp and reported when it
  is acknowledged; nothing here reads it.
-/
import BacnetRs.Object.Common

namespace BacnetRs.Object

open BacnetRs.Encoding BacnetRs.Property

/-! ## §1. Transition bits and notify types -/

/-- `EventTransition`: the three transitions that are told apart. -/
inductive EventTransition where
  | toOffnormal
  | toFault
  | toNormal
  deriving Repr, DecidableEq

namespace EventTransition

/-- `for_state`: the transition into a state. -/
def forState (state : EventState) : EventTransition :=
  if state = .normal then .toNormal else if state = .fault then .toFault else .toOffnormal

/-- `bit_index`. -/
def bitIndex : EventTransition → Fin 3
  | toOffnormal => 0
  | toFault => 1
  | toNormal => 2

theorem bitIndex_injective : Function.Injective bitIndex := by
  intro x y h
  cases x <;> cases y <;> first | rfl | cases h

end EventTransition

/-- `EventTransitionBits`: to-offnormal, to-fault, to-normal. -/
structure EventTransitionBits where
  toOffnormal : Bool
  toFault : Bool
  toNormal : Bool
  deriving Repr, DecidableEq

namespace EventTransitionBits

/-- All three transitions set. -/
def all : EventTransitionBits := ⟨true, true, true⟩

/-- No transitions set. -/
def none : EventTransitionBits := ⟨false, false, false⟩

/-- `contains`. -/
def contains (self : EventTransitionBits) : EventTransition → Bool
  | .toOffnormal => self.toOffnormal
  | .toFault => self.toFault
  | .toNormal => self.toNormal

/-- `set`: set or clear a transition. -/
def set (self : EventTransitionBits) (transition : EventTransition) (value : Bool) :
    EventTransitionBits :=
  match transition with
  | .toOffnormal => { self with toOffnormal := value }
  | .toFault => { self with toFault := value }
  | .toNormal => { self with toNormal := value }

theorem contains_set (self : EventTransitionBits) (transition other : EventTransition)
    (value : Bool) : (self.set transition value).contains other
      = if other = transition then value else self.contains other := by
  cases transition <;> cases other <;> rfl

/-- Setting a transition as it is. -/
theorem set_eq_self {self : EventTransitionBits} {transition : EventTransition} {value : Bool}
    (h : self.contains transition = value) : self.set transition value = self := by
  subst h
  cases transition <;> rfl

/-- The bit string in BACnet order. -/
def toBits (self : EventTransitionBits) : List Bool :=
  [self.toOffnormal, self.toFault, self.toNormal]

/-- Read the bit string in BACnet order.  Missing trailing bits read as `false`. -/
def fromBits (bits : List Bool) : EventTransitionBits :=
  ⟨bits[0]?.getD false, bits[1]?.getD false, bits[2]?.getD false⟩

end EventTransitionBits

/-- `BACnetNotifyType`. -/
inductive NotifyType where
  | alarm
  | event
  | ackNotification
  deriving Repr, DecidableEq

namespace NotifyType

def toUInt32 : NotifyType → UInt32
  | .alarm => 0
  | .event => 1
  | .ackNotification => 2

def tryFrom (value : UInt32) : Except ObjectError NotifyType :=
  if value = 0 then .ok .alarm
  else if value = 1 then .ok .event
  else if value = 2 then .ok .ackNotification
  else .error .invalidPropertyType

theorem tryFrom_eq_ok_iff {value : UInt32} {kind : NotifyType} :
    tryFrom value = .ok kind ↔ value = kind.toUInt32 := by
  unfold tryFrom toUInt32
  cases kind with
  | alarm => grind
  | event => grind
  | ackNotification => grind

end NotifyType

/-! ## §2. The shared state -/

/-- The time stamp for "no transition recorded yet". -/
def unspecifiedTimestamp : TimestampValue := .time ⟨255, 255, 255, 255⟩

/-- `IntrinsicReporting`. -/
structure IntrinsicReporting where
  /-- The notification class that routes notifications. -/
  notificationClass : UInt32
  /-- Seconds a condition must persist before leaving the normal state. -/
  timeDelay : UInt32
  /-- Seconds it must clear before returning; `none` means reuse `timeDelay`. -/
  timeDelayNormal : Option UInt32
  eventEnable : EventTransitionBits
  /-- A set bit means no acknowledgement is pending. -/
  ackedTransitions : EventTransitionBits
  notifyType : NotifyType
  eventDetectionEnable : Bool
  /-- Of the last to-offnormal, to-fault and to-normal transitions. -/
  eventTimeStamps : Vector TimestampValue 3
  deriving Repr, DecidableEq

/-- `IntrinsicReporting::new`. -/
def IntrinsicReporting.new (notificationClass : UInt32) : IntrinsicReporting :=
  { notificationClass
    timeDelay := 0
    timeDelayNormal := none
    eventEnable := .all
    ackedTransitions := .all
    notifyType := .alarm
    eventDetectionEnable := true
    eventTimeStamps := Vector.replicate 3 unspecifiedTimestamp }

/-- `intrinsic_property_list`. -/
def intrinsicPropertyList : List PropertyIdentifier :=
  [.notificationClass, .timeDelay, .timeDelayNormal, .eventEnable, .ackedTransitions,
    .notifyType, .eventDetectionEnable, .eventTimeStamps]

/-- `intrinsic_get`; `none` means the property is not an alarm property. -/
def intrinsicGet (reporting : IntrinsicReporting) (property : PropertyIdentifier) :
    Option (Except ObjectError PropertyValue) :=
  match property with
  | .notificationClass => some (.ok (.unsigned reporting.notificationClass.toUInt64))
  | .timeDelay => some (.ok (.unsigned reporting.timeDelay.toUInt64))
  | .timeDelayNormal =>
      some (.ok (.unsigned (reporting.timeDelayNormal.getD reporting.timeDelay).toUInt64))
  | .eventEnable => some (.ok (.bitString reporting.eventEnable.toBits))
  | .ackedTransitions => some (.ok (.bitString reporting.ackedTransitions.toBits))
  | .notifyType => some (.ok (.enumerated reporting.notifyType.toUInt32))
  | .eventDetectionEnable => some (.ok (.boolean reporting.eventDetectionEnable))
  | .eventTimeStamps => some (.ok (.array (reporting.eventTimeStamps.toList.map .timestamp)))
  | _ => none

/-- `expectUnsigned`, with Null for "unset". -/
def expectUnsignedOrNull : PropertyValue → Except ObjectError (Option UInt32)
  | .null => .ok none
  | value => (expectUnsigned value).map some

/-- Only alarm and event configure an object: one set to ack-notification would
emit notifications with no ack-required or from-state. -/
def expectNotifyType (value : PropertyValue) : Except ObjectError NotifyType := do
  match ← NotifyType.tryFrom (← expectEnumerated value) with
  | .ackNotification => throw (.invalidValue "Notify_Type must be alarm or event")
  | kind => return kind

/-- `intrinsic_set`; `none` means the property is not an alarm property. -/
def intrinsicSet (reporting : IntrinsicReporting) (property : PropertyIdentifier)
    (value : PropertyValue) : Option (Attempt ObjectError IntrinsicReporting) :=
  match property with
  | .notificationClass =>
      some (.store reporting (fun cls => { reporting with notificationClass := cls })
        (expectUnsigned value))
  | .timeDelay =>
      some (.store reporting (fun delay => { reporting with timeDelay := delay })
        (expectUnsigned value))
  | .timeDelayNormal =>
      some (.store reporting (fun delay => { reporting with timeDelayNormal := delay })
        (expectUnsignedOrNull value))
  | .eventEnable =>
      some (.store reporting (fun bits => { reporting with eventEnable := .fromBits bits })
        (expectBitString value))
  | .notifyType =>
      some (.store reporting (fun kind => { reporting with notifyType := kind })
        (expectNotifyType value))
  | .eventDetectionEnable =>
      some (.store reporting (fun enabled => { reporting with eventDetectionEnable := enabled })
        (expectBoolean value))
  -- Maintained by the event algorithm, not by clients.
  | .ackedTransitions => some (.refused reporting .propertyNotWritable)
  | .eventTimeStamps => some (.refused reporting .propertyNotWritable)
  | _ => none

/-- The alarm properties that are written. -/
def intrinsicWritable : List PropertyIdentifier :=
  [.notificationClass, .timeDelay, .timeDelayNormal, .eventEnable, .notifyType,
    .eventDetectionEnable]

/-! ## §3. What a read finds and a write leaves -/

theorem intrinsicGet_eq_none_iff {reporting : IntrinsicReporting} {property : PropertyIdentifier} :
    intrinsicGet reporting property = none ↔ property ∉ intrinsicPropertyList := by
  unfold intrinsicGet intrinsicPropertyList
  split <;> simp_all

/-- Every alarm property is there. -/
theorem intrinsicGet_readable_iff {reporting : IntrinsicReporting}
    {property : PropertyIdentifier} :
    (∃ v, intrinsicGet reporting property = some (.ok v)) ↔ property ∈ intrinsicPropertyList := by
  unfold intrinsicGet intrinsicPropertyList
  split <;> simp_all

/-- What a write of an alarm property leaves. -/
inductive IntrinsicWritten (r : IntrinsicReporting) :
    PropertyIdentifier → PropertyValue → IntrinsicReporting → Prop
  | notificationClass (cls : UInt32) :
      IntrinsicWritten r .notificationClass (.unsigned cls.toUInt64)
        { r with notificationClass := cls }
  | timeDelay (delay : UInt32) :
      IntrinsicWritten r .timeDelay (.unsigned delay.toUInt64) { r with timeDelay := delay }
  | timeDelayNormal (delay : UInt32) :
      IntrinsicWritten r .timeDelayNormal (.unsigned delay.toUInt64)
        { r with timeDelayNormal := some delay }
  | timeDelayNormalUnset :
      IntrinsicWritten r .timeDelayNormal .null { r with timeDelayNormal := none }
  | eventEnable (bits : List Bool) :
      IntrinsicWritten r .eventEnable (.bitString bits) { r with eventEnable := .fromBits bits }
  | notifyType (kind : NotifyType) (h : kind ≠ .ackNotification) :
      IntrinsicWritten r .notifyType (.enumerated kind.toUInt32) { r with notifyType := kind }
  | eventDetectionEnable (enabled : Bool) :
      IntrinsicWritten r .eventDetectionEnable (.boolean enabled)
        { r with eventDetectionEnable := enabled }

theorem expectUnsignedOrNull_eq_ok_iff {value : PropertyValue} {delay : Option UInt32} :
    expectUnsignedOrNull value = .ok delay
      ↔ (value = .null ∧ delay = none)
        ∨ ∃ d : UInt32, value = .unsigned d.toUInt64 ∧ delay = some d := by
  by_cases hnull : value = .null
  · subst hnull
    simp [expectUnsignedOrNull, eq_comm]
  · have hvalue : expectUnsignedOrNull value = (expectUnsigned value).map some := by
      unfold expectUnsignedOrNull
      split
      · exact absurd rfl hnull
      · rfl
    rw [hvalue]
    constructor
    · intro h
      cases hread : expectUnsigned value with
      | error e =>
          rw [hread] at h
          cases h
      | ok d =>
          rw [hread] at h
          cases h
          exact .inr ⟨d, expectUnsigned_eq_ok_iff.mp hread, rfl⟩
    · rintro (⟨h, _⟩ | ⟨d, hd, rfl⟩)
      · exact absurd h hnull
      · rw [expectUnsigned_eq_ok_iff.mpr hd]
        rfl

theorem expectNotifyType_eq_ok_iff {value : PropertyValue} {kind : NotifyType} :
    expectNotifyType value = .ok kind
      ↔ value = .enumerated kind.toUInt32 ∧ kind ≠ .ackNotification := by
  constructor
  · intro h
    unfold expectNotifyType at h
    cases hraw : expectEnumerated value with
    | error e =>
        rw [hraw] at h
        cases h
    | ok raw =>
        rw [hraw] at h
        rw [expectEnumerated_eq_ok_iff.mp hraw]
        replace h : (NotifyType.tryFrom raw >>= fun kind =>
          match kind with
          | .ackNotification => throw (.invalidValue "Notify_Type must be alarm or event")
          | kind => pure kind) = .ok kind := h
        cases hkind : NotifyType.tryFrom raw with
        | error e =>
            rw [hkind] at h
            cases h
        | ok k =>
            rw [hkind] at h
            rw [NotifyType.tryFrom_eq_ok_iff.mp hkind]
            cases k with
            | alarm =>
                cases h
                exact ⟨rfl, by decide⟩
            | event =>
                cases h
                exact ⟨rfl, by decide⟩
            | ackNotification => cases h
  · rintro ⟨rfl, hkind⟩
    cases kind with
    | alarm => rfl
    | event => rfl
    | ackNotification => exact absurd rfl hkind

/-- **What writing an alarm property does.** -/
theorem intrinsicSet_eq_ok_iff {r r' : IntrinsicReporting} {property : PropertyIdentifier}
    {value : PropertyValue} :
    intrinsicSet r property value = some (r', .ok ()) ↔ IntrinsicWritten r property value r' := by
  constructor
  · intro h
    unfold intrinsicSet at h
    -- The arms in the order of the source; the last three write nothing.
    split at h
    · obtain ⟨cls, hcls, rfl⟩ := Attempt.store_eq_ok_iff.mp (Option.some.inj h)
      rw [expectUnsigned_eq_ok_iff.mp hcls]
      exact .notificationClass cls
    · obtain ⟨delay, hdelay, rfl⟩ := Attempt.store_eq_ok_iff.mp (Option.some.inj h)
      rw [expectUnsigned_eq_ok_iff.mp hdelay]
      exact .timeDelay delay
    · obtain ⟨delay, hdelay, rfl⟩ := Attempt.store_eq_ok_iff.mp (Option.some.inj h)
      rcases expectUnsignedOrNull_eq_ok_iff.mp hdelay with ⟨rfl, rfl⟩ | ⟨d, rfl, rfl⟩
      · exact .timeDelayNormalUnset
      · exact .timeDelayNormal d
    · obtain ⟨bits, hbits, rfl⟩ := Attempt.store_eq_ok_iff.mp (Option.some.inj h)
      rw [expectBitString_eq_ok_iff.mp hbits]
      exact .eventEnable bits
    · obtain ⟨kind, hkind, rfl⟩ := Attempt.store_eq_ok_iff.mp (Option.some.inj h)
      obtain ⟨rfl, hack⟩ := expectNotifyType_eq_ok_iff.mp hkind
      exact .notifyType kind hack
    · obtain ⟨enabled, henabled, rfl⟩ := Attempt.store_eq_ok_iff.mp (Option.some.inj h)
      rw [expectBoolean_eq_ok_iff.mp henabled]
      exact .eventDetectionEnable enabled
    · exact absurd (Option.some.inj h) Attempt.refused_ne_ok
    · exact absurd (Option.some.inj h) Attempt.refused_ne_ok
    · cases h
  · intro h
    cases h with
    | notificationClass cls =>
        exact congrArg some (Attempt.store_of_ok (expectUnsigned_eq_ok_iff.mpr rfl))
    | timeDelay delay =>
        exact congrArg some (Attempt.store_of_ok (expectUnsigned_eq_ok_iff.mpr rfl))
    | timeDelayNormal delay =>
        exact congrArg some (Attempt.store_of_ok
          (expectUnsignedOrNull_eq_ok_iff.mpr (.inr ⟨delay, rfl, rfl⟩)))
    | timeDelayNormalUnset => rfl
    | eventEnable bits => rfl
    | notifyType kind hack =>
        exact congrArg some (Attempt.store_of_ok (expectNotifyType_eq_ok_iff.mpr ⟨rfl, hack⟩))
    | eventDetectionEnable enabled => rfl

/-- A refused write of an alarm property changes nothing. -/
theorem intrinsicSet_atomic {r : IntrinsicReporting} {property : PropertyIdentifier}
    {value : PropertyValue} {attempt : Attempt ObjectError IntrinsicReporting}
    (h : intrinsicSet r property value = some attempt) : attempt.Atomic r := by
  unfold intrinsicSet at h
  split at h
  all_goals cases h
  all_goals first
    | exact Attempt.atomic_store r _ _
    | exact Attempt.atomic_refused r _

/-- Whether a property is computed from another: Status_Flags, Limit_Enable, and
Time_Delay_Normal while it is unset. -/
def ComputedFrom (reporting : Option IntrinsicReporting)
    (computed property : PropertyIdentifier) : Prop :=
  (computed = .statusFlags ∧ (property = .reliability ∨ property = .outOfService))
    ∨ (computed = .limitEnable ∧ (property = .highLimit ∨ property = .lowLimit))
    ∨ (computed = .timeDelayNormal ∧ property = .timeDelay
        ∧ ∀ r, reporting = some r → r.timeDelayNormal = none)

/-- A value of a property's own datatype, where the setter takes others: not Null, a
list given as a list and an array as an array. -/
structure OwnDatatype (property : PropertyIdentifier) (value : PropertyValue) : Prop where
  notNull : value ≠ .null
  alarmValue : property = .alarmValue → ∃ raw, value = .enumerated raw
  period : property = .effectivePeriod → ∃ range, value = .dateRange range
  list : property ∈ [PropertyIdentifier.alarmValues, .listOfObjectPropertyReferences,
    .recipientList] → ∃ values, value = .list values
  dateList : property = .dateList →
    ∃ entries : List CalendarEntryValue, value = .list (entries.map .calendarEntry)
  array : property ∈ [PropertyIdentifier.priority, .weeklySchedule, .exceptionSchedule] →
    ∃ values, value = .array values

/-- What is kept of a value: of the transition bits of Event_Enable and Ack_Required
the first three, and `false` for one that is missing. -/
def asStored (property : PropertyIdentifier) (value : PropertyValue) : PropertyValue :=
  match value with
  | .bitString bits =>
      if property = .eventEnable ∨ property = .ackRequired then
        .bitString (EventTransitionBits.fromBits bits).toBits
      else value
  | _ => value

/-- Every other value is kept as it is. -/
theorem asStored_of_ne {property : PropertyIdentifier} {value : PropertyValue}
    (henable : property ≠ .eventEnable) (hack : property ≠ .ackRequired) :
    asStored property value = value := by
  unfold asStored
  split
  · rw [if_neg (not_or.mpr ⟨henable, hack⟩)]
  · rfl

theorem CommonWritten.asStored_eq {s s' : CommonState} {property : PropertyIdentifier}
    {value : PropertyValue} (h : CommonWritten s property value s') :
    asStored property value = value := by
  cases h <;> rfl

namespace IntrinsicWritten

variable {r r' : IntrinsicReporting} {property : PropertyIdentifier} {value : PropertyValue}

theorem writable (h : IntrinsicWritten r property value r') : property ∈ intrinsicWritable := by
  cases h <;> simp [intrinsicWritable]

/-- The value written is the value read; a Null unsets, and Event_Enable has three bits. -/
theorem readBack (h : IntrinsicWritten r property value r') (hnull : value ≠ .null) :
    intrinsicGet r' property = some (.ok (asStored property value)) := by
  cases h with
  | notificationClass cls => rfl
  | timeDelay delay => rfl
  | timeDelayNormal delay => rfl
  | timeDelayNormalUnset => exact absurd rfl hnull
  | eventEnable bits => rfl
  | notifyType kind hack => rfl
  | eventDetectionEnable enabled => rfl

/-- Every property not written or computed from it reads as before. -/
theorem frame (h : IntrinsicWritten r property value r') {q : PropertyIdentifier}
    (hq : q ≠ property) (hcomputed : ¬ ComputedFrom (some r) q property) :
    intrinsicGet r' q = intrinsicGet r q := by
  by_cases hlisted : q ∈ intrinsicPropertyList
  · simp only [intrinsicPropertyList, List.mem_cons, List.not_mem_nil, or_false] at hlisted
    rcases hlisted with rfl | rfl | rfl | rfl | rfl | rfl | rfl | rfl
    all_goals cases h
    all_goals first
      | rfl
      | exact absurd rfl hq
      | skip
    -- What is left is a write of Time_Delay, seen through Time_Delay_Normal.
    have hset : r.timeDelayNormal ≠ none := by
      intro hunset
      apply hcomputed
      right
      right
      exact ⟨rfl, rfl, fun _ hr => by cases hr; exact hunset⟩
    obtain ⟨delay, hdelay⟩ := Option.ne_none_iff_exists'.mp hset
    simp [intrinsicGet, hdelay]
  · rw [intrinsicGet_eq_none_iff.mpr hlisted, intrinsicGet_eq_none_iff.mpr hlisted]

/-- A value read of a writable property can be written back, unless the object is
configured to notify of acknowledgements. -/
theorem of_read (hproperty : property ∈ intrinsicWritable)
    (hkind : property = .notifyType → value ≠ .enumerated NotifyType.ackNotification.toUInt32)
    (hread : intrinsicGet r property = some (.ok value)) :
    ∃ r', IntrinsicWritten r property value r' := by
  simp only [intrinsicWritable, List.mem_cons, List.not_mem_nil, or_false] at hproperty
  rcases hproperty with rfl | rfl | rfl | rfl | rfl | rfl
  all_goals cases hread
  · exact ⟨_, .notificationClass r.notificationClass⟩
  · exact ⟨_, .timeDelay r.timeDelay⟩
  · exact ⟨_, .timeDelayNormal (r.timeDelayNormal.getD r.timeDelay)⟩
  · exact ⟨_, .eventEnable r.eventEnable.toBits⟩
  · exact ⟨_, .notifyType r.notifyType (fun h => hkind rfl (by rw [h]))⟩
  · exact ⟨_, .eventDetectionEnable r.eventDetectionEnable⟩

end IntrinsicWritten

end BacnetRs.Object
