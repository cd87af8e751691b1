/-
  BacnetRs.Event.Engine — when a demand becomes a transition (`event/mod.rs`).

  The engine goes through every object once a tick.  What an object demands must
  hold for its Time_Delay before the transition is committed; a committed one is
  recorded with the object, and told to the recipients its notification class
  lists for it.

    * `evaluateObject_spec` — evaluating one object: what it waits for
                             (`waiting`), what it becomes (`transitioned`) and
                             what is told (`told`), each from the state before.
    * `tick_at`            — a tick does the same to each object, as if there
                             were no other.
-/
import BacnetRs.Object.Alarm
import BacnetRs.Object.Indices
import BacnetRs.Service.EventNotification

namespace BacnetRs.Event

open BacnetRs.Encoding BacnetRs.Object BacnetRs.Property BacnetRs.Service

/-! ## §1. Routing -/

/-- `notification_class_recipients`: the Recipient_List entries that subscribe to a
transition. -/
def notificationClassRecipients (database : ObjectDatabase) (instance_ : UInt32)
    (transition : EventTransition) : List DestinationValue :=
  match database.getProperty ⟨.notificationClass, instance_⟩ .recipientList with
  | .ok (.list entries) =>
      (entries.filterMap (fun entry =>
        match entry with
        | .destination destination => some destination
        | _ => none)).filter (fun destination =>
          destination.transitions[transition.bitIndex.val]?.getD false)
  | _ => []

/-- `DEFAULT_PRIORITY`. -/
def defaultPriority : UInt32 := 255

/-- `notification_class_settings`: the priority of a transition, and whether it is to be
acknowledged. -/
def notificationClassSettings (database : ObjectDatabase) (instance_ : UInt32)
    (transition : EventTransition) : UInt32 × Bool :=
  let identifier : ObjectIdentifier := ⟨.notificationClass, instance_⟩
  -- A class that is not there, or names no priority, gets the default.
  let priority :=
    match database.getProperty identifier .priority with
    | .ok (.array entries) =>
        match entries[transition.bitIndex.val]? with
        | some (.unsigned priority) => priority.toUInt32
        | _ => defaultPriority
    | _ => defaultPriority
  let ackRequired :=
    match database.getProperty identifier .ackRequired with
    | .ok (.bitString bits) => bits[transition.bitIndex.val]?.getD false
    | _ => false
  (priority, ackRequired)

/-- `parameters_for`. -/
def parametersFor (trigger : AlarmTrigger F32) (statusFlags : StatusFlags) :
    NotificationParameters :=
  match trigger with
  | .multistateChange newState => .changeOfState (.unsignedValue newState) statusFlags
  | .binaryChange active => .changeOfState (.binaryValue active) statusFlags
  | .outOfRange exceedingValue exceededLimit deadband =>
      .outOfRange exceedingValue statusFlags deadband exceededLimit
  | .reliabilityChange reliability => .changeOfReliability reliability statusFlags

/-! ## §2. The engine -/

/-- A transition whose condition is waiting out its dwell time. -/
structure Pending where
  /-- The state the algorithm wants to move to. -/
  target : EventState
  /-- When the condition first held, in seconds. -/
  since : Nat
  deriving Repr, DecidableEq

/-- `EventEngine`. -/
structure EventEngine where
  /-- The device reported as initiating. -/
  device : ObjectIdentifier
  /-- Conditions still waiting out their dwell time. -/
  pending : KeyedTable ObjectIdentifier Pending

/-- `EventEngine::new`. -/
def EventEngine.new (deviceInstance : UInt32) : EventEngine := ⟨⟨.device, deviceInstance⟩, ∅⟩

/-- `AddressedNotification`. -/
structure AddressedNotification where
  notification : EventNotification
  /-- The Recipient_List entry that asked for it. -/
  destination : DestinationValue
  deriving Repr, DecidableEq

/-- What the engine reads of an object before it decides. -/
structure Observation where
  evaluation : AlarmEvaluation F32
  currentState : EventState
  dwell : UInt32
  outOfService : Bool
  notificationClass : UInt32
  notifyType : NotifyType

/-- Event_State, as the engine reads it. -/
def currentStateOf (object : HostedObject) : EventState :=
  match BacnetObject.getProperty object .eventState with
  | .ok (.enumerated raw) => ⟨raw.toUInt16⟩
  | _ => .normal

/-- What is read of an object, if it demands anything. -/
def observe (object : HostedObject) : Option Observation := do
  let evaluation ← AlarmCapable.evaluateAlarm object
  let reporting ← BacnetObject.intrinsic object
  return {
    evaluation
    currentState := currentStateOf object
    dwell := reporting.dwellFor evaluation.desiredState
    outOfService := AlarmCapable.isOutOfService object
    notificationClass := reporting.notificationClass
    notifyType := reporting.notifyType }

/-- The transition itself, and its bookkeeping. -/
def commitTransition {ω : Type} [BacnetObject ω] [AlarmCapable ω] (desired : EventState)
    (timestamp : TimestampValue) (object : ω) : ω :=
  let applied := AlarmCapable.applyEventState object desired
  match BacnetObject.intrinsic applied with
  | some reporting => BacnetObject.setIntrinsic applied (reporting.recordTransition desired timestamp)
  | none => applied

/-- The acknowledgement that is now outstanding. -/
def awaitAcknowledgement {ω : Type} [BacnetObject ω] (desired : EventState) (object : ω) : ω :=
  match BacnetObject.intrinsic object with
  | some reporting => BacnetObject.setIntrinsic object (reporting.awaitAcknowledgement desired)
  | none => object

namespace EventEngine

/-- The end of `evaluate_object`: commit the transition and address its notifications. -/
def commit (self : EventEngine) (database : ObjectDatabase) (identifier : ObjectIdentifier)
    (timestamp : TimestampValue) (observation : Observation) :
    ObjectDatabase × List AddressedNotification :=
  let desired := observation.evaluation.desiredState
  let transition := EventTransition.forState desired
  let (priority, ackRequired) :=
    notificationClassSettings database observation.notificationClass transition
  -- Event_State and the time stamp follow the transition, whether or not anyone is told.
  let committed := database.withObjectMut identifier
    (fun _ state => commitTransition desired timestamp state)
  let notifies := (committed.objects.lookup identifier).bind (fun object =>
    (BacnetObject.intrinsic object).map (fun reporting => reporting.notifies desired))
  if notifies ≠ some true then (committed, [])
  else
    let recipients :=
      notificationClassRecipients committed observation.notificationClass transition
    let base : EventNotification :=
      { processIdentifier := 0
        initiatingDevice := self.device
        eventObject := identifier
        timestamp
        notificationClass := observation.notificationClass
        priority
        notifyType := observation.notifyType
        ackRequired
        fromState := observation.currentState
        toState := desired
        messageText := none
        parameters := parametersFor observation.evaluation.trigger
          (.forEventState desired observation.outOfService) }
    -- With no recipients nothing is sent and no acknowledgement is outstanding.
    let awaiting :=
      if ackRequired = true ∧ recipients ≠ [] then
        committed.withObjectMut identifier (fun _ state => awaitAcknowledgement desired state)
      else committed
    (awaiting, recipients.map (fun destination =>
      ⟨{ base with processIdentifier := destination.processIdentifier }, destination⟩))

/-- `evaluate_object`: evaluate one object, committing a transition if its dwell has
elapsed. -/
def evaluateObject (self : EventEngine) (database : ObjectDatabase) (identifier : ObjectIdentifier)
    (nowSeconds : Nat) (timestamp : TimestampValue) :
    EventEngine × ObjectDatabase × List AddressedNotification :=
  match (database.objects.lookup identifier).bind observe with
  -- What was pending stays so.
  | none => (self, database, [])
  | some observation =>
      let desired := observation.evaluation.desiredState
      if desired = observation.currentState then
        ({ self with pending := self.pending.erase identifier }, database, [])
      else
        let pending : Pending :=
          match self.pending.lookup identifier with
          | some pending => if pending.target ≠ desired then ⟨desired, nowSeconds⟩ else pending
          | none => ⟨desired, nowSeconds⟩
        if nowSeconds - pending.since < observation.dwell.toNat then
          ({ self with pending := self.pending.insert identifier pending }, database, [])
        else
          ({ self with pending := (self.pending.insert identifier pending).erase identifier },
            self.commit database identifier timestamp observation)

/-- Evaluate the objects in order. -/
def evaluateAll (nowSeconds : Nat) (timestamp : TimestampValue) :
    EventEngine → ObjectDatabase → List ObjectIdentifier →
      EventEngine × ObjectDatabase × List AddressedNotification
  | self, database, [] => (self, database, [])
  | self, database, identifier :: rest =>
      let (engine, evaluated, notifications) :=
        self.evaluateObject database identifier nowSeconds timestamp
      let (final, last, more) := evaluateAll nowSeconds timestamp engine evaluated rest
      (final, last, notifications ++ more)

/-- `tick`. -/
def tick (self : EventEngine) (database : ObjectDatabase) (nowSeconds : Nat)
    (timestamp : TimestampValue) : EventEngine × ObjectDatabase × List AddressedNotification :=
  evaluateAll nowSeconds timestamp self database database.getAllObjects

/-- A tick, its objects sorted by insertion. -/
def sortedTick (self : EventEngine) (database : ObjectDatabase) (nowSeconds : Nat)
    (timestamp : TimestampValue) : EventEngine × ObjectDatabase × List AddressedNotification :=
  evaluateAll nowSeconds timestamp self database
    (database.objects.keys.insertionSort ObjectDatabase.Precedes)

theorem tick_eq_sortedTick : tick = sortedTick := by
  funext self database nowSeconds timestamp
  unfold tick sortedTick
  rw [ObjectDatabase.getAllObjects_eq]

end EventEngine

/-! ## §3. What routing depends on -/

/-- Databases of the same objects, but for some that report themselves. -/
structure SameRouting (before after : ObjectDatabase) : Prop where
  objects : ∀ identifier, after.objects.lookup identifier = before.objects.lookup identifier
    ∨ ∃ o o', before.objects.lookup identifier = some o ∧ after.objects.lookup identifier = some o'
        ∧ (BacnetObject.intrinsic o).isSome = true ∧ (BacnetObject.intrinsic o').isSome = true

theorem SameRouting.refl (database : ObjectDatabase) : SameRouting database database :=
  ⟨fun _ => .inl rfl⟩

theorem SameRouting.trans {x y z : ObjectDatabase} (hxy : SameRouting x y)
    (hyz : SameRouting y z) : SameRouting x z := by
  constructor
  intro identifier
  rcases hyz.objects identifier with hsame | ⟨o, o', ho, ho', hsome, hsome'⟩
  · rw [hsame]
    exact hxy.objects identifier
  · rcases hxy.objects identifier with hsame | ⟨p, p', hp, hp', hsomep, _⟩
    · exact .inr ⟨o, o', by rw [← hsame, ho], ho', hsome, hsome'⟩
    · exact .inr ⟨p, o', hp, ho', hsomep, hsome'⟩

/-- An object that reports answers nothing that routes. -/
theorem unrouted_error {object : HostedObject} (h : (BacnetObject.intrinsic object).isSome = true)
    {property : PropertyIdentifier} (hproperty : property ∈ routingProperties) :
    ∃ e, BacnetObject.getProperty object property = .error e := by
  obtain ⟨r, hr⟩ := Option.isSome_iff_exists.mp h
  have hunlisted : ¬ Unlisted object property := by
    intro hread
    rcases hread.2 with rfl | rfl <;> exact absurd hproperty (by decide)
  have hunreadable : ¬ ∃ v, BacnetObject.getProperty object property = .ok v := by
    rw [LawfulObject.readable_iff]
    exact not_or.mpr ⟨LawfulAlarm.unrouted hr property hproperty, hunlisted⟩
  cases hread : BacnetObject.getProperty object property with
  | ok v => exact absurd ⟨v, hread⟩ hunreadable
  | error e => exact ⟨e, rfl⟩

/-- **What routes is read alike.** -/
theorem SameRouting.reads {before after : ObjectDatabase} (h : SameRouting before after)
    {property : PropertyIdentifier} (hproperty : property ∈ routingProperties)
    (identifier : ObjectIdentifier) :
    after.getProperty identifier property = before.getProperty identifier property
      ∨ ((∃ e, before.getProperty identifier property = .error e)
          ∧ ∃ e, after.getProperty identifier property = .error e) := by
  have hstored : property ∉ ObjectDatabase.answeredProperties ∧ property.value < firstProprietary := by
    simp only [routingProperties, List.mem_cons, List.not_mem_nil, or_false] at hproperty
    rcases hproperty with rfl | rfl | rfl <;> decide
  rw [ObjectDatabase.getProperty_stored hstored.1 hstored.2,
    ObjectDatabase.getProperty_stored hstored.1 hstored.2]
  unfold ObjectDatabase.getStoredProperty
  rcases h.objects identifier with hsame | ⟨o, o', ho, ho', hsome, hsome'⟩
  · rw [hsame]
    exact .inl rfl
  · rw [ho, ho']
    exact .inr ⟨unrouted_error hsome hproperty, unrouted_error hsome' hproperty⟩

theorem SameRouting.recipients {before after : ObjectDatabase} (h : SameRouting before after)
    (instance_ : UInt32) (transition : EventTransition) :
    notificationClassRecipients after instance_ transition
      = notificationClassRecipients before instance_ transition := by
  unfold notificationClassRecipients
  have hread := @SameRouting.reads before after h .recipientList (by decide)
    ⟨.notificationClass, instance_⟩
  rcases hread with hsame | ⟨⟨e, he⟩, ⟨e', he'⟩⟩
  · rw [hsame]
  · rw [he, he']

theorem SameRouting.settings {before after : ObjectDatabase} (h : SameRouting before after)
    (instance_ : UInt32) (transition : EventTransition) :
    notificationClassSettings after instance_ transition
      = notificationClassSettings before instance_ transition := by
  unfold notificationClassSettings
  have hpriority := @SameRouting.reads before after h .priority (by decide)
    ⟨.notificationClass, instance_⟩
  have hack := @SameRouting.reads before after h .ackRequired (by decide)
    ⟨.notificationClass, instance_⟩
  rcases hpriority with hsame | ⟨⟨e, he⟩, ⟨e', he'⟩⟩
  · rcases hack with hsame' | ⟨⟨e, he⟩, ⟨e', he'⟩⟩
    · simp only [hsame, hsame']
    · simp only [hsame, he, he']
  · rcases hack with hsame' | ⟨⟨f, hf⟩, ⟨f', hf'⟩⟩
    · simp only [he, he', hsame']
    · simp only [he, he', hf, hf']

/-! ## §4. One object -/

/-- What an object demands: a state that is not its own. -/
def demand (object : HostedObject) : Option Observation :=
  (observe object).filter (fun seen => seen.evaluation.desiredState ≠ seen.currentState)

/-- Since when the condition has held, with what is pending. -/
def heldSince (pending : Option Pending) (desired : EventState) (nowSeconds : Nat) : Nat :=
  match pending with
  | some pending => if pending.target = desired then pending.since else nowSeconds
  | none => nowSeconds

/-- The transition that is due. -/
def due (pending : Option Pending) (nowSeconds : Nat) (object : HostedObject) :
    Option Observation :=
  (demand object).filter (fun seen =>
    seen.dwell.toNat ≤ nowSeconds - heldSince pending seen.evaluation.desiredState nowSeconds)

/-- What an object that was evaluated waits for. -/
def waiting (pending : Option Pending) (nowSeconds : Nat) (object : HostedObject) :
    Option Pending :=
  match observe object with
  | none => pending
  | some _ =>
      match demand object with
      | none => none
      | some seen =>
          if (due pending nowSeconds object).isSome then none
          else
            some ⟨seen.evaluation.desiredState,
              heldSince pending seen.evaluation.desiredState nowSeconds⟩

/-- The recipients a transition is told to. -/
def recipientsOf (database : ObjectDatabase) (object : HostedObject) (seen : Observation) :
    List DestinationValue :=
  if (BacnetObject.intrinsic object).any (fun reporting =>
      reporting.notifies seen.evaluation.desiredState) then
    notificationClassRecipients database seen.notificationClass
      (.forState seen.evaluation.desiredState)
  else []

/-- Whether a transition is to be acknowledged, by those it is told to. -/
def ackRequiredOf (database : ObjectDatabase) (seen : Observation) : Bool :=
  (notificationClassSettings database seen.notificationClass
    (.forState seen.evaluation.desiredState)).2

/-- What becomes of an object that is evaluated. -/
def transitioned (database : ObjectDatabase) (pending : Option Pending) (nowSeconds : Nat)
    (timestamp : TimestampValue) (object : HostedObject) : HostedObject :=
  match due pending nowSeconds object with
  | none => object
  | some seen =>
      let desired := seen.evaluation.desiredState
      let committed := commitTransition desired timestamp object
      if ackRequiredOf database seen = true ∧ recipientsOf database object seen ≠ [] then
        awaitAcknowledgement desired committed
      else committed

/-- What becomes of the bookkeeping of an object with a transition due. -/
def recorded (database : ObjectDatabase) (transition : Option Observation)
    (timestamp : TimestampValue) (object : HostedObject) (reporting : IntrinsicReporting) :
    IntrinsicReporting :=
  match transition with
  | none => reporting
  | some seen =>
      let desired := seen.evaluation.desiredState
      let stamped := reporting.recordTransition desired timestamp
      if ackRequiredOf database seen = true ∧ recipientsOf database object seen ≠ [] then
        stamped.awaitAcknowledgement desired
      else stamped

/-- What is told of an object that is evaluated. -/
def told (device identifier : ObjectIdentifier) (database : ObjectDatabase)
    (pending : Option Pending) (nowSeconds : Nat) (timestamp : TimestampValue)
    (object : HostedObject) : List AddressedNotification :=
  match due pending nowSeconds object with
  | none => []
  | some seen =>
      let desired := seen.evaluation.desiredState
      let settings :=
        notificationClassSettings database seen.notificationClass (.forState desired)
      (recipientsOf database object seen).map (fun destination =>
        ⟨{ processIdentifier := destination.processIdentifier
           initiatingDevice := device
           eventObject := identifier
           timestamp
           notificationClass := seen.notificationClass
           priority := settings.1
           notifyType := seen.notifyType
           ackRequired := settings.2
           fromState := seen.currentState
           toState := desired
           messageText := none
           parameters := parametersFor seen.evaluation.trigger
             (.forEventState desired seen.outOfService) }, destination⟩)

section Objects

variable {desired : EventState} {timestamp : TimestampValue} {object : HostedObject}
  {r : IntrinsicReporting}

theorem commitTransition_eq (h : BacnetObject.intrinsic object = some r) :
    commitTransition desired timestamp object
      = BacnetObject.setIntrinsic (AlarmCapable.applyEventState object desired)
          (r.recordTransition desired timestamp) := by
  unfold commitTransition
  simp only [LawfulAlarm.intrinsic_applyEventState, h]

theorem intrinsic_commitTransition (h : BacnetObject.intrinsic object = some r) :
    BacnetObject.intrinsic (commitTransition desired timestamp object)
      = some (r.recordTransition desired timestamp) := by
  rw [commitTransition_eq h]
  apply LawfulAlarm.intrinsic_setIntrinsic (r := r)
  rw [LawfulAlarm.intrinsic_applyEventState, h]

theorem intrinsic_awaitAcknowledgement (h : BacnetObject.intrinsic object = some r) :
    BacnetObject.intrinsic (awaitAcknowledgement desired object)
      = some (r.awaitAcknowledgement desired) := by
  unfold awaitAcknowledgement
  rw [h]
  exact LawfulAlarm.intrinsic_setIntrinsic h

theorem awaitAcknowledgement_commitTransition (h : BacnetObject.intrinsic object = some r) :
    awaitAcknowledgement desired (commitTransition desired timestamp object)
      = BacnetObject.setIntrinsic (AlarmCapable.applyEventState object desired)
          ((r.recordTransition desired timestamp).awaitAcknowledgement desired) := by
  unfold awaitAcknowledgement
  rw [intrinsic_commitTransition h]
  dsimp only
  rw [commitTransition_eq h, HostedObject.setIntrinsic_setIntrinsic]

/-- An object's type has no part in its transition. -/
theorem commitTransition_state :
    object.withState (commitTransition desired timestamp object.state)
      = commitTransition desired timestamp object := by
  unfold commitTransition
  show HostedObject.withState object (match BacnetObject.intrinsic
      (AlarmCapable.applyEventState object.state desired) with | some reporting => _ | none => _)
    = match BacnetObject.intrinsic (AlarmCapable.applyEventState object.state desired) with
      | some reporting => _
      | none => _
  cases BacnetObject.intrinsic (AlarmCapable.applyEventState object.state desired) <;> rfl

theorem awaitAcknowledgement_state :
    object.withState (awaitAcknowledgement desired object.state)
      = awaitAcknowledgement desired object := by
  unfold awaitAcknowledgement
  show HostedObject.withState object (match BacnetObject.intrinsic object.state with
      | some reporting => _ | none => _)
    = match BacnetObject.intrinsic object.state with
      | some reporting => _
      | none => _
  cases BacnetObject.intrinsic object.state <;> rfl

/-- A transition that is due makes its own bit the awaited one, if it is to be acknowledged by
those it is told to. -/
theorem contains_recorded {database : ObjectDatabase} {seen : Observation}
    (transition : EventTransition) :
    (recorded database (some seen) timestamp object r).ackedTransitions.contains transition
      = if transition = .forState seen.evaluation.desiredState
            ∧ ackRequiredOf database seen = true ∧ recipientsOf database object seen ≠ [] then false
        else r.ackedTransitions.contains transition := by
  unfold recorded
  simp only
  by_cases hack : ackRequiredOf database seen = true ∧ recipientsOf database object seen ≠ []
  · rw [if_pos hack]
    show (r.ackedTransitions.set _ false).contains transition = _
    rw [EventTransitionBits.contains_set]
    by_cases htransition : transition = .forState seen.evaluation.desiredState
    · rw [if_pos htransition, if_pos ⟨htransition, hack⟩]
    · rw [if_neg htransition, if_neg (fun h => htransition h.1)]
  · rw [if_neg hack, if_neg (fun h => hack h.2)]
    rfl

/-- Its time stamp is the one that is stamped. -/
theorem timeStamp_recorded {database : ObjectDatabase} {seen : Observation}
    (transition : EventTransition) :
    (recorded database (some seen) timestamp object r).eventTimeStamps.get transition.bitIndex
      = if transition = .forState seen.evaluation.desiredState then timestamp
        else r.eventTimeStamps.get transition.bitIndex := by
  have hstamped : (r.recordTransition seen.evaluation.desiredState
      timestamp).eventTimeStamps.get transition.bitIndex
      = if transition = .forState seen.evaluation.desiredState then timestamp
        else r.eventTimeStamps.get transition.bitIndex := by
    show (r.eventTimeStamps.set _ timestamp)[transition.bitIndex.val] = _
    rw [Vector.getElem_set]
    by_cases htransition : transition = .forState seen.evaluation.desiredState
    · rw [if_pos htransition, if_pos (by rw [htransition])]
    · rw [if_neg htransition, if_neg (fun h => htransition
        (EventTransition.bitIndex_injective (Fin.ext h.symm)))]
      rfl
  unfold recorded
  simp only
  split
  · exact hstamped
  · exact hstamped

/-- Only an object with reporting configured is observed. -/
theorem observe_intrinsic {seen : Observation} (h : observe object = some seen) :
    ∃ r, BacnetObject.intrinsic object = some r ∧ r.eventDetectionEnable = true := by
  unfold observe at h
  cases he : AlarmCapable.evaluateAlarm object with
  | none =>
      rw [he] at h
      cases h
  | some e => exact LawfulAlarm.configured he

/-- The dwell time is that of the state the object is to move to. -/
theorem observe_dwell {seen : Observation} (h : observe object = some seen) :
    ∃ r, BacnetObject.intrinsic object = some r
      ∧ seen.dwell = r.dwellFor seen.evaluation.desiredState := by
  unfold observe at h
  obtain ⟨evaluation, _, h⟩ := Option.bind_eq_some_iff.mp h
  obtain ⟨r, hr, h⟩ := Option.bind_eq_some_iff.mp h
  cases h
  exact ⟨r, hr, rfl⟩

theorem demand_eq_some {seen : Observation} :
    demand object = some seen ↔ observe object = some seen
      ∧ seen.evaluation.desiredState ≠ seen.currentState := by
  unfold demand
  rw [Option.filter_eq_some_iff]
  simp

theorem due_eq_some {pending : Option Pending} {nowSeconds : Nat} {seen : Observation} :
    due pending nowSeconds object = some seen ↔ demand object = some seen
      ∧ seen.dwell.toNat
        ≤ nowSeconds - heldSince pending seen.evaluation.desiredState nowSeconds := by
  unfold due
  rw [Option.filter_eq_some_iff]
  simp

end Objects

/-- What evaluating one object does to the engine, the objects and the recipients. -/
structure Evaluated (engine : EventEngine) (database : ObjectDatabase) (identifier : ObjectIdentifier)
    (nowSeconds : Nat) (timestamp : TimestampValue) (object : HostedObject)
    (result : EventEngine × ObjectDatabase × List AddressedNotification) : Prop where
  device : result.1.device = engine.device
  pending : ∀ other, result.1.pending.lookup other
    = if other = identifier then waiting (engine.pending.lookup identifier) nowSeconds object
      else engine.pending.lookup other
  objects : ∀ other, result.2.1.objects.lookup other
    = if other = identifier then
        some (transitioned database (engine.pending.lookup identifier) nowSeconds timestamp object)
      else database.objects.lookup other
  notifications : result.2.2
    = told engine.device identifier database (engine.pending.lookup identifier) nowSeconds timestamp
        object

namespace EventEngine

variable {self : EventEngine} {database : ObjectDatabase} {identifier : ObjectIdentifier}
  {nowSeconds : Nat} {timestamp : TimestampValue} {object : HostedObject}

/-- The entry the engine starts or continues. -/
theorem pendingEntry_eq (pending : Option Pending) (desired : EventState) :
    (match pending with
      | some pending => if pending.target ≠ desired then ⟨desired, nowSeconds⟩ else pending
      | none => ⟨desired, nowSeconds⟩ : Pending)
      = ⟨desired, heldSince pending desired nowSeconds⟩ := by
  unfold heldSince
  cases pending with
  | none => rfl
  | some pending =>
      obtain ⟨target, since⟩ := pending
      by_cases h : target = desired
      · subst h
        simp
      · simp [h]

/-- The database once the transition is recorded. -/
theorem lookup_committed (hobject : database.objects.lookup identifier = some object)
    (desired : EventState) (other : ObjectIdentifier) :
    (database.withObjectMut identifier (fun _ state =>
        commitTransition desired timestamp state)).objects.lookup other
      = if other = identifier then some (commitTransition desired timestamp object)
        else database.objects.lookup other := by
  rw [ObjectDatabase.lookup_withObjectMut]
  split
  · next h =>
      rw [h, hobject]
      exact congrArg some commitTransition_state
  · rfl

/-- Recording a transition moves nothing that routes. -/
theorem committed_routing {r : IntrinsicReporting}
    (hobject : database.objects.lookup identifier = some object)
    (hr : BacnetObject.intrinsic object = some r) (desired : EventState) :
    SameRouting database (database.withObjectMut identifier (fun _ state =>
      commitTransition desired timestamp state)) := by
  constructor
  intro other
  rw [lookup_committed hobject]
  split
  · next h =>
      refine .inr ⟨object, _, by rw [h, hobject], rfl, by rw [hr]; rfl, ?_⟩
      rw [intrinsic_commitTransition hr]
      rfl
  · exact .inl rfl

theorem evaluateObject_missing (h : database.objects.lookup identifier = none) :
    self.evaluateObject database identifier nowSeconds timestamp = (self, database, []) := by
  unfold evaluateObject
  rw [h]
  rfl

/-- An object whose transition is not due stays as it is, and nothing is told. -/
theorem evaluated_of_not_due {pending : KeyedTable ObjectIdentifier Pending}
    (hobject : database.objects.lookup identifier = some object)
    (hdue : due (self.pending.lookup identifier) nowSeconds object = none)
    (hpending : ∀ other, pending.lookup other
      = if other = identifier then waiting (self.pending.lookup identifier) nowSeconds object
        else self.pending.lookup other) :
    Evaluated self database identifier nowSeconds timestamp object
      ({ self with pending := pending }, database, []) where
  device := rfl
  pending := hpending
  objects := by
    intro other
    unfold transitioned
    rw [hdue]
    split
    · next h => rw [h, hobject]
    · rfl
  notifications := by
    unfold told
    rw [hdue]

/-- **What committing a transition does**: the object is transitioned, and its recipients
are told. -/
theorem commit_spec {pending : Option Pending} {seen : Observation}
    (hobject : database.objects.lookup identifier = some object)
    (hdue : due pending nowSeconds object = some seen) :
    (∀ other, (self.commit database identifier timestamp seen).1.objects.lookup other
        = if other = identifier then
            some (transitioned database pending nowSeconds timestamp object)
          else database.objects.lookup other)
      ∧ (self.commit database identifier timestamp seen).2
          = told self.device identifier database pending nowSeconds timestamp object := by
  obtain ⟨r, hr, _⟩ := observe_intrinsic (demand_eq_some.mp (due_eq_some.mp hdue).1).1
  let after := database.withObjectMut identifier (fun _ state =>
    commitTransition seen.evaluation.desiredState timestamp state)
  have hcommitted (other : ObjectIdentifier) : after.objects.lookup other
      = if other = identifier then
          some (commitTransition seen.evaluation.desiredState timestamp object)
        else database.objects.lookup other :=
    lookup_committed hobject seen.evaluation.desiredState other
  -- A commit changes no notification class, so it leaves the recipients as they were.
  have hroute : SameRouting database after :=
    committed_routing hobject hr seen.evaluation.desiredState
  have hnotifies : ((database.withObjectMut identifier (fun _ state =>
      commitTransition seen.evaluation.desiredState timestamp state)).objects.lookup
        identifier).bind (fun object => (BacnetObject.intrinsic object).map
          (fun reporting => reporting.notifies seen.evaluation.desiredState))
      = some (r.notifies seen.evaluation.desiredState) := by
    rw [hcommitted, if_pos rfl, Option.bind_some, intrinsic_commitTransition hr]
    rfl
  unfold commit
  simp only
  rw [hnotifies]
  -- Only a transition that notifies has recipients, and only it can await an acknowledgement.
  by_cases htells : r.notifies seen.evaluation.desiredState = true
  · have hrecipients : recipientsOf database object seen
        = notificationClassRecipients database seen.notificationClass
            (.forState seen.evaluation.desiredState) := by
      unfold recipientsOf
      rw [hr]
      exact if_pos htells
    rw [if_neg (by simp [htells]), hroute.recipients, ← hrecipients]
    constructor
    · intro other
      unfold transitioned
      rw [hdue]
      simp only
      split
      · next hack =>
          rw [ObjectDatabase.lookup_withObjectMut, hcommitted]
          split
          · exact congrArg some (awaitAcknowledgement_state.trans (if_pos hack).symm)
          · rfl
      · next hack =>
          rw [hcommitted]
          split
          · exact congrArg some (if_neg hack).symm
          · rfl
    · unfold told
      rw [hdue]
  · have hrecipients : recipientsOf database object seen = [] := by
      unfold recipientsOf
      rw [hr]
      exact if_neg htells
    rw [if_pos (by simp [htells])]
    constructor
    · intro other
      unfold transitioned
      rw [hdue, hcommitted]
      simp [hrecipients]
    · unfold told
      rw [hdue]
      simp [hrecipients]

/-- **What evaluating an object does.** -/
theorem evaluateObject_spec (hobject : database.objects.lookup identifier = some object) :
    Evaluated self database identifier nowSeconds timestamp object
      (self.evaluateObject database identifier nowSeconds timestamp) := by
  have hbind : (database.objects.lookup identifier).bind observe = observe object := by
    rw [hobject]
    rfl
  unfold evaluateObject
  rw [hbind]
  cases hobserve : observe object with
  | none =>
      have hdemand : demand object = none := by
        unfold demand
        rw [hobserve]
        rfl
      have hdue : due (self.pending.lookup identifier) nowSeconds object = none := by
        unfold due
        rw [hdemand]
        rfl
      refine evaluated_of_not_due hobject hdue ?_
      intro other
      unfold waiting
      rw [hobserve]
      split
      · next h => rw [h]
      · rfl
  | some seen =>
      simp only
      split
      -- The state is already the one detected: the engine forgets what was pending.
      · next hsettled =>
          have hdemand : demand object = none := by
            unfold demand
            rw [hobserve]
            simp [Option.filter, hsettled]
          have hdue : due (self.pending.lookup identifier) nowSeconds object = none := by
            unfold due
            rw [hdemand]
            rfl
          refine evaluated_of_not_due hobject hdue ?_
          intro other
          unfold waiting
          rw [hobserve, hdemand]
          exact KeyedTable.lookup_erase_eq_ite _ _ _
      · next hunsettled =>
          have hdemand : demand object = some seen := demand_eq_some.mpr ⟨hobserve, hunsettled⟩
          rw [pendingEntry_eq]
          simp only
          split
          -- The state has not lasted its delay: the engine remembers since when.
          · next hdwelling =>
              have hdue : due (self.pending.lookup identifier) nowSeconds object = none := by
                unfold due
                rw [hdemand]
                simpa [Option.filter] using hdwelling
              refine evaluated_of_not_due hobject hdue ?_
              intro other
              unfold waiting
              rw [hobserve, hdemand, hdue]
              exact KeyedTable.lookup_insert_eq_ite _ _ _ _
          -- The state has lasted its delay: the transition is committed and nothing stays pending.
          · next helapsed =>
              have hdue : due (self.pending.lookup identifier) nowSeconds object = some seen :=
                due_eq_some.mpr ⟨hdemand, Nat.le_of_not_lt helapsed⟩
              refine ⟨rfl, ?_, (commit_spec hobject hdue).1, (commit_spec hobject hdue).2⟩
              intro other
              show ((self.pending.insert identifier _).erase identifier).lookup other = _
              rw [KeyedTable.erase_insert_self, KeyedTable.lookup_erase_eq_ite]
              unfold waiting
              rw [hobserve, hdemand, hdue]
              rfl

/-! ## §5. A tick -/

/-- An object without reporting has no transition. -/
theorem due_of_unreporting {pending : Option Pending}
    (h : BacnetObject.intrinsic object = none) : due pending nowSeconds object = none := by
  cases hdue : due pending nowSeconds object with
  | none => rfl
  | some seen =>
      obtain ⟨r, hr, _⟩ := observe_intrinsic (demand_eq_some.mp (due_eq_some.mp hdue).1).1
      rw [h] at hr
      cases hr

/-- **What a transition does to an object's bookkeeping.** -/
theorem intrinsic_transitioned (database : ObjectDatabase) (pending : Option Pending)
    (nowSeconds : Nat) (timestamp : TimestampValue) (object : HostedObject) :
    BacnetObject.intrinsic (transitioned database pending nowSeconds timestamp object)
      = (BacnetObject.intrinsic object).map
          (recorded database (due pending nowSeconds object) timestamp object) := by
  unfold transitioned recorded
  cases hr : BacnetObject.intrinsic object with
  | none =>
      rw [due_of_unreporting hr]
      exact hr
  | some r =>
      cases due pending nowSeconds object with
      | none => exact hr
      | some seen =>
          simp only [Option.map_some]
          split
          · exact intrinsic_awaitAcknowledgement (intrinsic_commitTransition hr)
          · exact intrinsic_commitTransition hr

/-- Evaluating an object moves nothing that routes. -/
theorem evaluated_routing {result : EventEngine × ObjectDatabase × List AddressedNotification}
    (hobject : database.objects.lookup identifier = some object)
    (h : Evaluated self database identifier nowSeconds timestamp object result) :
    SameRouting database result.2.1 := by
  constructor
  intro other
  rw [h.objects]
  split
  · next heq =>
      cases hr : BacnetObject.intrinsic object with
      | some r =>
          exact .inr ⟨object, _, by rw [heq, hobject], rfl, by rw [hr]; rfl,
            by rw [intrinsic_transitioned, hr]; rfl⟩
      | none =>
          left
          unfold transitioned
          rw [due_of_unreporting hr, heq, hobject]
  · exact .inl rfl

theorem recipientsOf_congr {before after : ObjectDatabase} (h : SameRouting before after)
    (seen : Observation) : recipientsOf after object seen = recipientsOf before object seen := by
  unfold recipientsOf
  rw [h.recipients]

theorem transitioned_congr {before after : ObjectDatabase} (h : SameRouting before after)
    (pending : Option Pending) :
    transitioned after pending nowSeconds timestamp object
      = transitioned before pending nowSeconds timestamp object := by
  unfold transitioned ackRequiredOf
  simp only [h.settings, recipientsOf_congr h]

theorem told_congr {before after : ObjectDatabase} (h : SameRouting before after)
    (device identifier : ObjectIdentifier) (pending : Option Pending) :
    told device identifier after pending nowSeconds timestamp object
      = told device identifier before pending nowSeconds timestamp object := by
  unfold told
  simp only [h.settings, recipientsOf_congr h]

/-- What going through some objects has done. -/
structure Ticked (engine : EventEngine) (database : ObjectDatabase)
    (evaluated : List ObjectIdentifier) (nowSeconds : Nat) (timestamp : TimestampValue)
    (result : EventEngine × ObjectDatabase × List AddressedNotification) : Prop where
  device : result.1.device = engine.device
  routing : SameRouting database result.2.1
  pending : ∀ identifier, result.1.pending.lookup identifier
    = match database.objects.lookup identifier with
      | some object =>
          if identifier ∈ evaluated then
            waiting (engine.pending.lookup identifier) nowSeconds object
          else engine.pending.lookup identifier
      | none => engine.pending.lookup identifier
  objects : ∀ identifier, result.2.1.objects.lookup identifier
    = if identifier ∈ evaluated then
        (database.objects.lookup identifier).map
          (transitioned database (engine.pending.lookup identifier) nowSeconds timestamp)
      else database.objects.lookup identifier
  notifications : ∀ notification, notification ∈ result.2.2
    ↔ ∃ identifier object, identifier ∈ evaluated
        ∧ database.objects.lookup identifier = some object
        ∧ notification ∈ told engine.device identifier database (engine.pending.lookup identifier)
            nowSeconds timestamp object

section Consed

variable {first : ObjectIdentifier} {rest : List ObjectIdentifier}

/-- An identifier without an object adds nothing. -/
theorem Ticked.cons_missing
    {result : EventEngine × ObjectDatabase × List AddressedNotification}
    (hobject : database.objects.lookup first = none)
    (h : Ticked self database rest nowSeconds timestamp result) :
    Ticked self database (first :: rest) nowSeconds timestamp result := by
  refine ⟨h.device, h.routing, ?_, ?_, ?_⟩
  · intro identifier
    refine (h.pending identifier).trans ?_
    by_cases hid : identifier = first
    · rw [hid, hobject]
    · simp [hid]
  · intro identifier
    refine (h.objects identifier).trans ?_
    by_cases hid : identifier = first
    · subst hid
      simp [hobject]
    · simp [hid]
  · intro notification
    refine (h.notifications notification).trans ?_
    constructor
    · rintro ⟨identifier, object, hmem, hlookup, htold⟩
      exact ⟨identifier, object, List.mem_cons_of_mem _ hmem, hlookup, htold⟩
    · rintro ⟨identifier, object, hmem, hlookup, htold⟩
      rcases List.mem_cons.mp hmem with rfl | hmem
      · rw [hobject] at hlookup
        cases hlookup
      · exact ⟨identifier, object, hmem, hlookup, htold⟩

/-- An object that is evaluated leaves those behind it as they were. -/
theorem Ticked.cons_evaluated {engine final : EventEngine} {evaluated last : ObjectDatabase}
    {notifications more : List AddressedNotification}
    (hobject : database.objects.lookup first = some object) (hfirst : first ∉ rest)
    (hspec : Evaluated self database first nowSeconds timestamp object
      (engine, evaluated, notifications))
    (htail : Ticked engine evaluated rest nowSeconds timestamp (final, last, more)) :
    Ticked self database (first :: rest) nowSeconds timestamp
      (final, last, notifications ++ more) := by
  have hroute : SameRouting database evaluated := evaluated_routing hobject hspec
  have hobjects : ∀ other, evaluated.objects.lookup other = _ := hspec.objects
  have hpending : ∀ other, engine.pending.lookup other = _ := hspec.pending
  have hdevice : engine.device = self.device := hspec.device
  have hnotifications : notifications = _ := hspec.notifications
  have hother : ∀ identifier, identifier ≠ first →
      evaluated.objects.lookup identifier = database.objects.lookup identifier
        ∧ engine.pending.lookup identifier = self.pending.lookup identifier := by
    intro identifier hid
    rw [hobjects, hpending, if_neg hid, if_neg hid]
    exact ⟨rfl, rfl⟩
  refine ⟨htail.device.trans hdevice, hroute.trans htail.routing, ?_, ?_, ?_⟩
  · intro identifier
    refine (htail.pending identifier).trans ?_
    by_cases hid : identifier = first
    · subst hid
      rw [hobjects, if_pos rfl, hpending, if_pos rfl, hobject]
      simp [hfirst]
    · obtain ⟨hsame, hwaits⟩ := hother identifier hid
      rw [hsame, hwaits]
      simp [hid]
  · intro identifier
    refine (htail.objects identifier).trans ?_
    by_cases hid : identifier = first
    · subst hid
      rw [if_neg hfirst, hobjects, if_pos rfl, hobject]
      simp
    · obtain ⟨hsame, hwaits⟩ := hother identifier hid
      rw [hsame, hwaits]
      simp only [List.mem_cons, hid, false_or]
      -- What is asked of the database is its routing, and that has not moved.
      congr 2
      funext x
      exact transitioned_congr hroute _
  · intro notification
    show notification ∈ notifications ++ _ ↔ _
    rw [List.mem_append, htail.notifications, hnotifications]
    constructor
    · rintro (htold | ⟨identifier, x, hmem, hlookup, htold⟩)
      · exact ⟨first, object, List.mem_cons_self, hobject, htold⟩
      · have hid : identifier ≠ first := by
          rintro rfl
          exact hfirst hmem
        obtain ⟨hsame, hwaits⟩ := hother identifier hid
        rw [hsame] at hlookup
        rw [hdevice, hwaits, told_congr hroute] at htold
        exact ⟨identifier, x, List.mem_cons_of_mem _ hmem, hlookup, htold⟩
    · rintro ⟨identifier, x, hmem, hlookup, htold⟩
      rcases List.mem_cons.mp hmem with rfl | hrestmem
      · rw [hobject] at hlookup
        cases hlookup
        exact .inl htold
      · have hid : identifier ≠ first := by
          rintro rfl
          exact hfirst hrestmem
        obtain ⟨hsame, hwaits⟩ := hother identifier hid
        refine .inr ⟨identifier, x, hrestmem, by rw [hsame, hlookup], ?_⟩
        rw [hdevice, hwaits, told_congr hroute]
        exact htold

end Consed

/-- Each object is evaluated on its own; induction on those that are. -/
theorem evaluateAll_ticked (identifiers : List ObjectIdentifier) (hnodup : identifiers.Nodup) :
    Ticked self database identifiers nowSeconds timestamp
      (evaluateAll nowSeconds timestamp self database identifiers) := by
  induction identifiers generalizing self database with
  | nil =>
      refine ⟨rfl, .refl _, ?_, ?_, ?_⟩
      · intro identifier
        show self.pending.lookup identifier = _
        cases database.objects.lookup identifier <;> simp
      · intro identifier
        simp [evaluateAll]
      · intro notification
        simp [evaluateAll]
  | cons first rest ih =>
      obtain ⟨hfirst, hrest⟩ := List.nodup_cons.mp hnodup
      show Ticked self database (first :: rest) nowSeconds timestamp
        (let (engine, evaluated, notifications) :=
            self.evaluateObject database first nowSeconds timestamp
          let (final, last, more) := evaluateAll nowSeconds timestamp engine evaluated rest
          (final, last, notifications ++ more))
      cases hobject : database.objects.lookup first with
      | none =>
          rw [evaluateObject_missing hobject]
          exact .cons_missing hobject (ih hrest)
      | some object =>
          exact .cons_evaluated hobject hfirst (evaluateObject_spec hobject) (ih hrest)

/-- **A tick does to each object what it would do were there no other.** -/
theorem tick_at (self : EventEngine) (database : ObjectDatabase) (nowSeconds : Nat)
    (timestamp : TimestampValue) :
    Ticked self database database.getAllObjects nowSeconds timestamp
      (self.tick database nowSeconds timestamp) :=
  evaluateAll_ticked _ database.getAllObjects_nodup

/-- What a tick leaves of an object. -/
theorem lookup_tick (self : EventEngine) (database : ObjectDatabase) (nowSeconds : Nat)
    (timestamp : TimestampValue) (identifier : ObjectIdentifier) :
    (self.tick database nowSeconds timestamp).2.1.objects.lookup identifier
      = (database.objects.lookup identifier).map
          (transitioned database (self.pending.lookup identifier) nowSeconds timestamp) := by
  rw [(tick_at self database nowSeconds timestamp).objects]
  split
  · rfl
  · next hmem =>
      rw [ObjectDatabase.mem_getAllObjects] at hmem
      cases hlookup : database.objects.lookup identifier with
      | none => rfl
      | some object => simp [hlookup] at hmem

/-- What a tick leaves waiting. -/
theorem pending_tick (self : EventEngine) (database : ObjectDatabase) (nowSeconds : Nat)
    (timestamp : TimestampValue) (identifier : ObjectIdentifier) :
    (self.tick database nowSeconds timestamp).1.pending.lookup identifier
      = match database.objects.lookup identifier with
        | some object => waiting (self.pending.lookup identifier) nowSeconds object
        | none => self.pending.lookup identifier := by
  rw [(tick_at self database nowSeconds timestamp).pending]
  cases hlookup : database.objects.lookup identifier with
  | none => rfl
  | some object =>
      have hmem : identifier ∈ database.getAllObjects := by
        rw [ObjectDatabase.mem_getAllObjects, hlookup]
        rfl
      simp [hmem]

/-- What a tick tells. -/
theorem mem_tick {notification : AddressedNotification} :
    notification ∈ (self.tick database nowSeconds timestamp).2.2
      ↔ ∃ identifier object, database.objects.lookup identifier = some object
          ∧ notification ∈ told self.device identifier database (self.pending.lookup identifier)
              nowSeconds timestamp object := by
  rw [(tick_at self database nowSeconds timestamp).notifications]
  constructor
  · rintro ⟨identifier, object, _, h⟩
    exact ⟨identifier, object, h⟩
  · rintro ⟨identifier, object, hlookup, htold⟩
    refine ⟨identifier, object, ?_, hlookup, htold⟩
    rw [ObjectDatabase.mem_getAllObjects, hlookup]
    rfl

end EventEngine

end BacnetRs.Event
