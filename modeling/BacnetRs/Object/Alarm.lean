/-
  BacnetRs.Object.Alarm — what an object's event algorithm demands
  (`object/intrinsic.rs`, `object/analog.rs`, `object/binary.rs`,
  `object/multistate.rs`).

  An alarm-capable object says which event state its value calls for; when that
  becomes a transition is the event engine's to decide, and what the object
  then keeps of it is here as well.

    * `LawfulAlarm.configured` — only an object with event detection enabled
                            demands anything.
    * `LawfulAlarm.intrinsic_applyEventState`, `intrinsic_setIntrinsic`
                          — what the transition's bookkeeping is kept in.
    * `LawfulAlarm.unrouted` — and no object that reports routes notifications.
-/
import BacnetRs.Object.Effects

namespace BacnetRs.Object

open BacnetRs.Encoding BacnetRs.Property

/-! ## §1. The algorithms -/

def EventState.offnormal : EventState := ⟨2⟩
def EventState.highLimit : EventState := ⟨3⟩
def EventState.lowLimit : EventState := ⟨4⟩

instance : Sub F32 := ⟨fun x y => ⟨(x.toFloat - y.toFloat).toBits⟩⟩
instance : Add F32 := ⟨fun x y => ⟨(x.toFloat + y.toFloat).toBits⟩⟩
instance : LT F32 := ⟨fun x y => x.toFloat < y.toFloat⟩
instance : DecidableLT F32 := fun x y => inferInstanceAs (Decidable (x.toFloat < y.toFloat))

/-- `AlarmTrigger`: what an event algorithm observed. -/
inductive AlarmTrigger (α : Type) where
  | multistateChange (newState : UInt32)
  | binaryChange (active : Bool)
  | outOfRange (exceedingValue exceededLimit deadband : α)
  | reliabilityChange (reliability : Reliability)
  deriving Repr, DecidableEq

/-- `AlarmEvaluation`. -/
structure AlarmEvaluation (α : Type) where
  /-- The event state the algorithm demands. -/
  desiredState : EventState
  trigger : AlarmTrigger α
  deriving Repr, DecidableEq

/-- Whether event detection is configured and enabled. -/
def detects (alarm : Option IntrinsicReporting) : Bool :=
  alarm.any IntrinsicReporting.eventDetectionEnable

/-- `evaluate_analog`: OUT_OF_RANGE, or CHANGE_OF_RELIABILITY when no limits are
configured. -/
def evaluateAnalog {α : Type} [Sub α] [Add α] [LT α] [DecidableLT α] (presentValue : α)
    (highLimit lowLimit : Option α) (deadband : α) (reliability : Reliability)
    (currentState : EventState) (alarm : Option IntrinsicReporting) :
    Option (AlarmEvaluation α) :=
  let highTripped (limit : α) : Bool :=
    if currentState = .highLimit then decide (limit - deadband < presentValue)
    else decide (limit < presentValue)
  let lowTripped (limit : α) : Bool :=
    if currentState = .lowLimit then decide (presentValue < limit + deadband)
    else decide (presentValue < limit)
  if detects alarm = false then none
  else if reliability ≠ .noFaultDetected then some ⟨.fault, .reliabilityChange reliability⟩
  else if highLimit.isNone ∧ lowLimit.isNone then some ⟨.normal, .reliabilityChange reliability⟩
  else
    match highLimit.filter highTripped with
    | some limit => some ⟨.highLimit, .outOfRange presentValue limit deadband⟩
    | none =>
        match lowLimit.filter lowTripped with
        | some limit => some ⟨.lowLimit, .outOfRange presentValue limit deadband⟩
        | none =>
            -- Back in range: the limit reported is the one the object returns from.
            let breached :=
              if currentState = .lowLimit then lowLimit.or highLimit else highLimit.or lowLimit
            some ⟨.normal, .outOfRange presentValue (breached.getD presentValue) deadband⟩

/-- `evaluate_binary`: CHANGE_OF_STATE. -/
def evaluateBinary {α : Type} (presentValue alarmValue : BinaryPV) (reliability : Reliability)
    (alarm : Option IntrinsicReporting) : Option (AlarmEvaluation α) :=
  if detects alarm = false then none
  else if reliability ≠ .noFaultDetected then some ⟨.fault, .reliabilityChange reliability⟩
  else
    some ⟨if presentValue = alarmValue then .offnormal else .normal,
      .binaryChange (presentValue == .active)⟩

/-- `evaluate_multistate`: CHANGE_OF_STATE. -/
def evaluateMultistate {α : Type} (presentValue : UInt32) (alarmValues : List UInt32)
    (reliability : Reliability) (alarm : Option IntrinsicReporting) : Option (AlarmEvaluation α) :=
  if detects alarm = false then none
  else if reliability ≠ .noFaultDetected then some ⟨.fault, .reliabilityChange reliability⟩
  else
    some ⟨if presentValue ∈ alarmValues then .offnormal else .normal, .multistateChange presentValue⟩

def AnalogState.evaluateAlarm (self : AnalogState) : Option (AlarmEvaluation F32) :=
  evaluateAnalog self.effectivePresentValue self.highLimit self.lowLimit self.deadband
    self.reliability self.eventState self.alarm

def BinaryState.evaluateAlarm (self : BinaryState) : Option (AlarmEvaluation F32) :=
  evaluateBinary self.effectivePresentValue self.alarmValue self.reliability self.alarm

def MultistateState.evaluateAlarm (self : MultistateState) : Option (AlarmEvaluation F32) :=
  evaluateMultistate self.effectivePresentValue self.alarmValues self.reliability self.alarm

/-! ## §2. What a transition leaves in the bookkeeping -/

namespace IntrinsicReporting

/-- `dwell_for`: seconds the condition must hold before the transition. -/
def dwellFor (self : IntrinsicReporting) (state : EventState) : UInt32 :=
  if state = .normal then self.timeDelayNormal.getD self.timeDelay else self.timeDelay

/-- `record_transition`. -/
def recordTransition (self : IntrinsicReporting) (state : EventState) (timestamp : TimestampValue) :
    IntrinsicReporting :=
  { self with
    eventTimeStamps := self.eventTimeStamps.set (EventTransition.forState state).bitIndex timestamp }

/-- `await_acknowledgement`. -/
def awaitAcknowledgement (self : IntrinsicReporting) (state : EventState) : IntrinsicReporting :=
  { self with ackedTransitions := self.ackedTransitions.set (.forState state) false }

/-- `notifies`. -/
def notifies (self : IntrinsicReporting) (state : EventState) : Bool :=
  self.eventDetectionEnable && self.eventEnable.contains (.forState state)

end IntrinsicReporting

/-! ## §3. The rest of the trait -/

/-- What of the trait `BacnetObject` the event engine calls. -/
class AlarmCapable (ω : Type) where
  evaluateAlarm : ω → Option (AlarmEvaluation F32) := fun _ => none
  applyEventState : ω → EventState → ω := fun self _ => self
  isOutOfService : ω → Bool := fun _ => false

instance : AlarmCapable AnalogInput where
  evaluateAlarm := fun self => self.toAnalogState.evaluateAlarm
  applyEventState := fun self state => { self with eventState := state }
  isOutOfService := fun self => self.outOfService

instance : AlarmCapable AnalogOutput where
  evaluateAlarm := fun self => self.state.evaluateAlarm
  applyEventState := fun self state => { self with state := { self.state with eventState := state } }
  isOutOfService := fun self => self.state.outOfService

instance : AlarmCapable AnalogValue where
  evaluateAlarm := fun self => self.state.evaluateAlarm
  applyEventState := fun self state => { self with state := { self.state with eventState := state } }
  isOutOfService := fun self => self.state.outOfService

instance : AlarmCapable BinaryInput where
  evaluateAlarm := fun self => self.toBinaryState.evaluateAlarm
  applyEventState := fun self state => { self with eventState := state }
  isOutOfService := fun self => self.outOfService

instance : AlarmCapable BinaryOutput where
  evaluateAlarm := fun self => self.state.evaluateAlarm
  applyEventState := fun self state => { self with state := { self.state with eventState := state } }
  isOutOfService := fun self => self.state.outOfService

instance : AlarmCapable BinaryValue where
  evaluateAlarm := fun self => self.state.evaluateAlarm
  applyEventState := fun self state => { self with state := { self.state with eventState := state } }
  isOutOfService := fun self => self.state.outOfService

instance : AlarmCapable MultiStateInput where
  evaluateAlarm := fun self => self.toMultistateState.evaluateAlarm
  applyEventState := fun self state => { self with eventState := state }
  isOutOfService := fun self => self.outOfService

instance : AlarmCapable MultiStateOutput where
  evaluateAlarm := fun self => self.state.evaluateAlarm
  applyEventState := fun self state => { self with state := { self.state with eventState := state } }
  isOutOfService := fun self => self.state.outOfService

instance : AlarmCapable MultiStateValue where
  evaluateAlarm := fun self => self.state.evaluateAlarm
  applyEventState := fun self state => { self with state := { self.state with eventState := state } }
  isOutOfService := fun self => self.state.outOfService

instance : AlarmCapable Schedule where
  isOutOfService := fun self => self.outOfService

instance : AlarmCapable Device where
instance : AlarmCapable Calendar where
instance : AlarmCapable NotificationClass where
instance : AlarmCapable File where

/-! ## §4. The laws -/

/-- The properties a notification class is asked for by those it routes for. -/
def routingProperties : List PropertyIdentifier := [.recipientList, .priority, .ackRequired]

/-- The laws of the event engine's calls. -/
class LawfulAlarm (ω : Type) [BacnetObject ω] [AlarmCapable ω] : Prop where
  configured : ∀ {o : ω} {e}, AlarmCapable.evaluateAlarm o = some e →
    ∃ r, BacnetObject.intrinsic o = some r ∧ r.eventDetectionEnable = true
  intrinsic_applyEventState : ∀ {o : ω} {state},
    BacnetObject.intrinsic (AlarmCapable.applyEventState o state) = BacnetObject.intrinsic o
  intrinsic_setIntrinsic : ∀ {o : ω} {r r'}, BacnetObject.intrinsic o = some r →
    BacnetObject.intrinsic (BacnetObject.setIntrinsic o r') = some r'
  /-- Event_State reads what was applied. -/
  eventState : ∀ {o : ω} {r r' state}, BacnetObject.intrinsic o = some r →
    BacnetObject.getProperty
        (BacnetObject.setIntrinsic (AlarmCapable.applyEventState o state) r') .eventState
      = .ok (.enumerated state.value.toUInt32)
  /-- An object with reporting routes no notifications. -/
  unrouted : ∀ {o : ω} {r}, BacnetObject.intrinsic o = some r →
    ∀ property ∈ routingProperties, property ∉ BacnetObject.propertyList o

theorem detects_iff {alarm : Option IntrinsicReporting} :
    detects alarm = true ↔ ∃ r, alarm = some r ∧ r.eventDetectionEnable = true := by
  cases alarm <;> simp [detects]

theorem evaluateAnalog_detects {α : Type} [Sub α] [Add α] [LT α] [DecidableLT α]
    {presentValue deadband : α} {highLimit lowLimit : Option α} {reliability : Reliability}
    {currentState : EventState} {alarm : Option IntrinsicReporting} {e : AlarmEvaluation α}
    (h : evaluateAnalog presentValue highLimit lowLimit deadband reliability currentState alarm
      = some e) : ∃ r, alarm = some r ∧ r.eventDetectionEnable = true := by
  rw [← detects_iff]
  unfold evaluateAnalog at h
  by_contra hnone
  simp [hnone] at h

theorem evaluateBinary_detects {α : Type} {presentValue alarmValue : BinaryPV}
    {reliability : Reliability} {alarm : Option IntrinsicReporting} {e : AlarmEvaluation α}
    (h : evaluateBinary presentValue alarmValue reliability alarm = some e) :
    ∃ r, alarm = some r ∧ r.eventDetectionEnable = true := by
  rw [← detects_iff]
  unfold evaluateBinary at h
  by_contra hnone
  simp [hnone] at h

theorem evaluateMultistate_detects {α : Type} {presentValue : UInt32} {alarmValues : List UInt32}
    {reliability : Reliability} {alarm : Option IntrinsicReporting} {e : AlarmEvaluation α}
    (h : evaluateMultistate presentValue alarmValues reliability alarm = some e) :
    ∃ r, alarm = some r ∧ r.eventDetectionEnable = true := by
  rw [← detects_iff]
  unfold evaluateMultistate at h
  by_contra hnone
  simp [hnone] at h

theorem analog_unrouted {s : AnalogState} {deviceType : Bool} {trailing : List PropertyIdentifier}
    (h : trailing.Sublist [.priorityArray, .relinquishDefault]) :
    ∀ property ∈ routingProperties, property ∉ s.sharedPropertyList deviceType trailing := by
  intro property hproperty hmem
  have hlisted := (AnalogState.sharedPropertyList_sublist h).subset hmem
  clear hmem
  revert property
  decide +kernel

theorem binary_unrouted {s : BinaryState} {trailing : List PropertyIdentifier}
    (h : trailing.Sublist [.priorityArray, .relinquishDefault]) :
    ∀ property ∈ routingProperties, property ∉ s.sharedPropertyList trailing := by
  intro property hproperty hmem
  have hlisted := (BinaryState.sharedPropertyList_sublist h).subset hmem
  clear hmem
  revert property
  decide +kernel

theorem multistate_unrouted {s : MultistateState} {added : List PropertyIdentifier}
    (h : added.Sublist [.deviceType, .priorityArray, .relinquishDefault]) :
    ∀ property ∈ routingProperties, property ∉ s.sharedPropertyList ++ added := by
  intro property hproperty hmem
  have hlisted := (List.Sublist.append s.sharedPropertyList_sublist h).subset hmem
  clear hmem
  revert property
  decide +kernel

instance : LawfulAlarm AnalogInput where
  configured := evaluateAnalog_detects
  intrinsic_applyEventState := rfl
  intrinsic_setIntrinsic := fun _ => rfl
  eventState := fun _ => rfl
  unrouted := fun _ => analog_unrouted (List.nil_sublist _)

instance : LawfulAlarm AnalogOutput where
  configured := evaluateAnalog_detects
  intrinsic_applyEventState := rfl
  intrinsic_setIntrinsic := fun _ => rfl
  eventState := fun _ => rfl
  unrouted := fun _ => analog_unrouted (.refl _)

instance : LawfulAlarm AnalogValue where
  configured := evaluateAnalog_detects
  intrinsic_applyEventState := rfl
  intrinsic_setIntrinsic := fun _ => rfl
  eventState := fun _ => rfl
  unrouted := fun _ => analog_unrouted (ite_sublist _ _)

instance : LawfulAlarm BinaryInput where
  configured := evaluateBinary_detects
  intrinsic_applyEventState := rfl
  intrinsic_setIntrinsic := fun _ => rfl
  eventState := fun _ => rfl
  unrouted := fun _ => binary_unrouted (List.nil_sublist _)

instance : LawfulAlarm BinaryOutput where
  configured := evaluateBinary_detects
  intrinsic_applyEventState := rfl
  intrinsic_setIntrinsic := fun _ => rfl
  eventState := fun _ => rfl
  unrouted := fun _ => binary_unrouted (.refl _)

instance : LawfulAlarm BinaryValue where
  configured := evaluateBinary_detects
  intrinsic_applyEventState := rfl
  intrinsic_setIntrinsic := fun _ => rfl
  eventState := fun _ => rfl
  unrouted := fun _ => binary_unrouted (ite_sublist _ _)

instance : LawfulAlarm MultiStateInput where
  configured := evaluateMultistate_detects
  intrinsic_applyEventState := rfl
  intrinsic_setIntrinsic := fun _ => rfl
  eventState := fun _ => rfl
  unrouted := fun _ => multistate_unrouted (by simp)

instance : LawfulAlarm MultiStateOutput where
  configured := evaluateMultistate_detects
  intrinsic_applyEventState := rfl
  intrinsic_setIntrinsic := fun _ => rfl
  eventState := fun _ => rfl
  unrouted := fun _ => multistate_unrouted (.refl _)

instance : LawfulAlarm MultiStateValue where
  configured := evaluateMultistate_detects
  intrinsic_applyEventState := rfl
  intrinsic_setIntrinsic := fun _ => rfl
  eventState := fun _ => rfl
  unrouted := fun _ => multistate_unrouted ((ite_sublist _ _).trans (List.sublist_cons_self _ _))

/-- A type without reporting demands nothing. -/
theorem lawfulAlarm_of_none {ω : Type} [BacnetObject ω] [AlarmCapable ω]
    (hintrinsic : ∀ o : ω, BacnetObject.intrinsic o = none)
    (hevaluate : ∀ o : ω, AlarmCapable.evaluateAlarm o = none) : LawfulAlarm ω where
  configured := by
    intro o e h
    rw [hevaluate] at h
    cases h
  intrinsic_applyEventState := by
    intro o state
    rw [hintrinsic, hintrinsic]
  intrinsic_setIntrinsic := by
    intro o r r' h
    rw [hintrinsic] at h
    cases h
  eventState := by
    intro o r r' state h
    rw [hintrinsic] at h
    cases h
  unrouted := by
    intro o r h
    rw [hintrinsic] at h
    cases h

instance : LawfulAlarm Device := lawfulAlarm_of_none (fun _ => rfl) (fun _ => rfl)
instance : LawfulAlarm Schedule := lawfulAlarm_of_none (fun _ => rfl) (fun _ => rfl)
instance : LawfulAlarm Calendar := lawfulAlarm_of_none (fun _ => rfl) (fun _ => rfl)
instance : LawfulAlarm NotificationClass := lawfulAlarm_of_none (fun _ => rfl) (fun _ => rfl)
instance : LawfulAlarm File := lawfulAlarm_of_none (fun _ => rfl) (fun _ => rfl)

/-! ## §5. Objects of any type -/

namespace ObjectClass

instance instAlarmCapable : ∀ c : ObjectClass, AlarmCapable c.State
  | device => inferInstanceAs (AlarmCapable Device)
  | analogInput => inferInstanceAs (AlarmCapable AnalogInput)
  | analogOutput => inferInstanceAs (AlarmCapable AnalogOutput)
  | analogValue => inferInstanceAs (AlarmCapable AnalogValue)
  | binaryInput => inferInstanceAs (AlarmCapable BinaryInput)
  | binaryOutput => inferInstanceAs (AlarmCapable BinaryOutput)
  | binaryValue => inferInstanceAs (AlarmCapable BinaryValue)
  | multiStateInput => inferInstanceAs (AlarmCapable MultiStateInput)
  | multiStateOutput => inferInstanceAs (AlarmCapable MultiStateOutput)
  | multiStateValue => inferInstanceAs (AlarmCapable MultiStateValue)
  | schedule => inferInstanceAs (AlarmCapable Schedule)
  | calendar => inferInstanceAs (AlarmCapable Calendar)
  | notificationClass => inferInstanceAs (AlarmCapable NotificationClass)
  | file => inferInstanceAs (AlarmCapable File)

instance instLawfulAlarm : ∀ c : ObjectClass, LawfulAlarm c.State
  | device => inferInstanceAs (LawfulAlarm Device)
  | analogInput => inferInstanceAs (LawfulAlarm AnalogInput)
  | analogOutput => inferInstanceAs (LawfulAlarm AnalogOutput)
  | analogValue => inferInstanceAs (LawfulAlarm AnalogValue)
  | binaryInput => inferInstanceAs (LawfulAlarm BinaryInput)
  | binaryOutput => inferInstanceAs (LawfulAlarm BinaryOutput)
  | binaryValue => inferInstanceAs (LawfulAlarm BinaryValue)
  | multiStateInput => inferInstanceAs (LawfulAlarm MultiStateInput)
  | multiStateOutput => inferInstanceAs (LawfulAlarm MultiStateOutput)
  | multiStateValue => inferInstanceAs (LawfulAlarm MultiStateValue)
  | schedule => inferInstanceAs (LawfulAlarm Schedule)
  | calendar => inferInstanceAs (LawfulAlarm Calendar)
  | notificationClass => inferInstanceAs (LawfulAlarm NotificationClass)
  | file => inferInstanceAs (LawfulAlarm File)

end ObjectClass

instance : AlarmCapable HostedObject where
  evaluateAlarm := fun self => AlarmCapable.evaluateAlarm self.state
  applyEventState := fun self state => self.withState (AlarmCapable.applyEventState self.state state)
  isOutOfService := fun self => AlarmCapable.isOutOfService self.state

instance : LawfulAlarm HostedObject where
  configured := fun {o _} h => @LawfulAlarm.configured o.cls.State _ _ _ _ _ h
  intrinsic_applyEventState := fun {o _} =>
    @LawfulAlarm.intrinsic_applyEventState o.cls.State _ _ _ _ _
  intrinsic_setIntrinsic := fun {o _ _} h =>
    @LawfulAlarm.intrinsic_setIntrinsic o.cls.State _ _ _ _ _ _ h
  eventState := fun {o _ _ _} h => @LawfulAlarm.eventState o.cls.State _ _ _ _ _ _ _ h
  unrouted := fun {o _} h => @LawfulAlarm.unrouted o.cls.State _ _ _ _ _ h

/-- What is set last is all that is kept of what was set. -/
theorem HostedObject.setIntrinsic_setIntrinsic (object : HostedObject)
    (first last : IntrinsicReporting) :
    BacnetObject.setIntrinsic (BacnetObject.setIntrinsic object first) last
      = BacnetObject.setIntrinsic object last := by
  obtain ⟨cls, state⟩ := object
  cases cls <;> rfl

/-- Setting what is there already changes nothing. -/
theorem ObjectClass.setIntrinsic_self {c : ObjectClass} {state : c.State} {r : IntrinsicReporting}
    (h : BacnetObject.intrinsic state = some r) : BacnetObject.setIntrinsic state r = state := by
  have hput (put : Option IntrinsicReporting → c.State)
      (hsome : BacnetObject.setIntrinsic state r = put (some r))
      (hself : put (BacnetObject.intrinsic state) = state) :
      BacnetObject.setIntrinsic state r = state := by
    rw [hsome, ← h, hself]
  cases c with
  | analogInput => exact hput (fun alarm => { (state : AnalogInput) with alarm := alarm }) rfl rfl
  | binaryInput => exact hput (fun alarm => { (state : BinaryInput) with alarm := alarm }) rfl rfl
  | multiStateInput =>
      exact hput (fun alarm => { (state : MultiStateInput) with alarm := alarm }) rfl rfl
  | analogOutput =>
      exact hput (fun alarm => { (state : AnalogOutput) with state.alarm := alarm }) rfl rfl
  | analogValue =>
      exact hput (fun alarm => { (state : AnalogValue) with state.alarm := alarm }) rfl rfl
  | binaryOutput =>
      exact hput (fun alarm => { (state : BinaryOutput) with state.alarm := alarm }) rfl rfl
  | binaryValue =>
      exact hput (fun alarm => { (state : BinaryValue) with state.alarm := alarm }) rfl rfl
  | multiStateOutput =>
      exact hput (fun alarm => { (state : MultiStateOutput) with state.alarm := alarm }) rfl rfl
  | multiStateValue =>
      exact hput (fun alarm => { (state : MultiStateValue) with state.alarm := alarm }) rfl rfl
  | device | schedule | calendar | notificationClass | file => cases h

end BacnetRs.Object
