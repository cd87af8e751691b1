/-
  BacnetRs.Server.Acknowledging — alarms, and their acknowledgements.

  Three parties share an object's Acked_Transitions and Event_Time_Stamps: the
  event engine, which commits transitions; operators, who acknowledge them; and
  the application, which takes what was acknowledged and writes properties.  Each
  call of theirs is one happening, in any order.

    * `acknowledgements_announced` — a request is queued exactly when it names a
                              transition that is awaited; what is queued is taken
                              once, and there is one for each time a transition
                              comes to be awaited, at most.
    * `awaited_told`        — as long as no transition that is awaited is
                              superseded by one that nobody is told of, what is
                              awaited has the time stamp of a notification.
    * `superseded_untold`   — and otherwise it need not.
-/
import BacnetRs.Event.Engine
import BacnetRs.Library.Machine
import BacnetRs.Server.Serving

namespace BacnetRs.Server

open BacnetRs.Encoding BacnetRs.Object BacnetRs.Property BacnetRs.Service BacnetRs.Event

/-! ## §1. What is awaited -/

/-- The alarm bookkeeping of an object, if it has any. -/
def reportingOf (database : ObjectDatabase) (identifier : ObjectIdentifier) :
    Option IntrinsicReporting :=
  (database.objects.lookup identifier).bind BacnetObject.intrinsic

/-- A transition awaits acknowledgement: its bit is clear. -/
def Awaits (database : ObjectDatabase) (identifier : ObjectIdentifier)
    (transition : EventTransition) : Prop :=
  ∃ r, reportingOf database identifier = some r
    ∧ r.ackedTransitions.contains transition = false

instance (database : ObjectDatabase) (identifier : ObjectIdentifier)
    (transition : EventTransition) : Decidable (Awaits database identifier transition) :=
  decidable_of_iff ((reportingOf database identifier).any (fun r =>
    !r.ackedTransitions.contains transition) = true) (by simp [Awaits, Option.any_eq_true])

namespace ObjectService

/-- `take_acknowledgements`. -/
def takeAcknowledgements (self : ObjectService) : ObjectService × List Acknowledgement :=
  ({ self with acknowledgements := [] }, self.acknowledgements)

/-- A request names a transition by the time stamp it has, and that is awaited. -/
def Announces (self : ObjectService) (request : AcknowledgeAlarmRequest) : Prop :=
  ∃ r, reportingOf self.database request.eventObjectIdentifier = some r
    ∧ r.eventTimeStamps.get (EventTransition.forState request.eventStateAcknowledged).bitIndex
        = request.timeStamp
    ∧ r.ackedTransitions.contains (.forState request.eventStateAcknowledged) = false

instance (self : ObjectService) (request : AcknowledgeAlarmRequest) :
    Decidable (self.Announces request) :=
  decidable_of_iff ((reportingOf self.database request.eventObjectIdentifier).any (fun r =>
      decide (r.eventTimeStamps.get (EventTransition.forState
          request.eventStateAcknowledged).bitIndex = request.timeStamp)
        && !r.ackedTransitions.contains (.forState request.eventStateAcknowledged)) = true)
    (by simp [Announces, Option.any_eq_true])

/-- The bookkeeping once a transition is acknowledged. -/
def acknowledged (r : IntrinsicReporting) (transition : EventTransition) : IntrinsicReporting :=
  { r with ackedTransitions := r.ackedTransitions.set transition true }

/-- What is announced of a request. -/
def announcement (request : AcknowledgeAlarmRequest) : Acknowledgement :=
  ⟨request.eventObjectIdentifier, request.eventStateAcknowledged⟩

variable {self : ObjectService} {request : AcknowledgeAlarmRequest}

/-- **A request that names an awaited transition** succeeds: the transition is acknowledged
and queued, and nothing else changes. -/
theorem acknowledgeAlarm_announces (h : self.Announces request) :
    ∃ after, self.acknowledgeAlarm request = .done after
      ∧ after.acknowledgements = self.acknowledgements ++ [announcement request]
      ∧ ∀ identifier, reportingOf after.database identifier
          = if identifier = request.eventObjectIdentifier then
              (reportingOf self.database identifier).map
                (acknowledged · (.forState request.eventStateAcknowledged))
            else reportingOf self.database identifier := by
  obtain ⟨r, hr, htimestamp, hawaited⟩ := h
  obtain ⟨object, hobject, hintrinsic⟩ := Option.bind_eq_some_iff.mp hr
  unfold acknowledgeAlarm
  rw [hobject]
  simp only
  rw [hintrinsic]
  simp only [htimestamp, ne_eq, not_true_eq_false, if_false, hawaited, Bool.false_eq_true]
  refine ⟨_, rfl, rfl, ?_⟩
  intro identifier
  unfold reportingOf
  simp only [ObjectDatabase.lookup_withObjectMut]
  split
  · next hid =>
      rw [hid, hobject]
      show BacnetObject.intrinsic (BacnetObject.setIntrinsic object _)
        = (BacnetObject.intrinsic object).map _
      rw [hintrinsic]
      exact LawfulAlarm.intrinsic_setIntrinsic hintrinsic
  · rfl

/-- **Any other request changes nothing**, whether it is refused or the transition has been
acknowledged already. -/
theorem acknowledgeAlarm_unchanged (h : ¬ self.Announces request) :
    (self.acknowledgeAlarm request).1 = self := by
  unfold acknowledgeAlarm
  cases hobject : self.database.objects.lookup request.eventObjectIdentifier with
  | none => rfl
  | some object =>
      simp only
      cases hr : BacnetObject.intrinsic object with
      | none => rfl
      | some r =>
          simp only
          split
          · rfl
          · next htimestamp =>
              have hreporting : reportingOf self.database request.eventObjectIdentifier
                  = some r := by
                unfold reportingOf
                rw [hobject]
                exact hr
              have hacked : r.ackedTransitions.contains
                  (.forState request.eventStateAcknowledged) = true := by
                by_contra hawaited
                exact h ⟨r, hreporting, not_not.mp htimestamp,
                  Bool.eq_false_of_not_eq_true hawaited⟩
              -- The bit is set as it was.
              have hsame : acknowledged r (.forState request.eventStateAcknowledged) = r := by
                unfold acknowledged
                rw [EventTransitionBits.set_eq_self hacked]
              have hdatabase : self.database.withObjectMut request.eventObjectIdentifier
                  (fun _ state => BacnetObject.setIntrinsic state
                    (acknowledged r (.forState request.eventStateAcknowledged)))
                  = self.database := by
                apply ObjectDatabase.withObjectMut_eq_self
                intro x hx
                rw [hobject] at hx
                cases hx
                rw [hsame]
                exact ObjectClass.setIntrinsic_self hr
              unfold acknowledged at hdatabase
              rw [hdatabase, if_pos hacked]
              rfl

end ObjectService

/-! ## §2. Runs -/

/-- An engine, the service it shares its objects with, and what they gave out. -/
structure Watch where
  engine : EventEngine
  service : ObjectService
  /-- The acknowledgements that were taken. -/
  returned : List Acknowledgement
  /-- The notifications that were addressed. -/
  sent : List AddressedNotification

/-- What happens. -/
inductive Happening where
  | tick (nowSeconds : Nat) (timestamp : TimestampValue)
  | acknowledge (request : AcknowledgeAlarmRequest)
  | take
  | write (identifier : ObjectIdentifier) (property : PropertyIdentifier) (value : PropertyValue)
      (priority : Option UInt8)

namespace Watch

/-- Anything may happen at any time. -/
def step (w : Watch) : Happening → Option Watch
  | .tick nowSeconds timestamp =>
      let (engine, database, notifications) :=
        w.engine.tick w.service.database nowSeconds timestamp
      some { w with
        engine
        service := { w.service with database := database }
        sent := w.sent ++ notifications }
  | .acknowledge request => some { w with service := (w.service.acknowledgeAlarm request).1 }
  | .take =>
      let (service, acknowledgements) := w.service.takeAcknowledgements
      some { w with service, returned := w.returned ++ acknowledgements }
  | .write identifier property value priority =>
      some { w with service := { w.service with
        database := (w.service.database.setPropertyWithPriority identifier property value
          priority).1 } }

/-- What is acknowledged, whether it has been taken or not. -/
def acknowledgements (w : Watch) : List Acknowledgement :=
  w.returned ++ w.service.acknowledgements

/-- What a happening announces: the request that names an awaited transition. -/
def announced (w : Watch) : Happening → List Acknowledgement
  | .acknowledge request =>
      if w.service.Announces request then [ObjectService.announcement request] else []
  | _ => []

/-- What a run announces. -/
def announcedIn (w : Watch) : List Happening → List Acknowledgement
  | [] => []
  | happening :: rest =>
      w.announced happening
        ++ ((w.step happening).map (fun w' => w'.announcedIn rest)).getD []

/-- Whether a transition of an object is awaited. -/
def awaits (w : Watch) (identifier : ObjectIdentifier) (transition : EventTransition) : Bool :=
  decide (Awaits w.service.database identifier transition)

/-- A transition comes to be awaited. -/
def arms (identifier : ObjectIdentifier) (transition : EventTransition) (w : Watch)
    (_ : Happening) (w' : Watch) : Nat :=
  if w.awaits identifier transition = false ∧ w'.awaits identifier transition = true then 1 else 0

end Watch

/-- An acknowledgement of a transition of an object. -/
def Acknowledgement.isOf (identifier : ObjectIdentifier) (transition : EventTransition)
    (self : Acknowledgement) : Bool :=
  decide (self.object = identifier ∧ EventTransition.forState self.state = transition)

/-! ## §3. What each happening does -/

section Steps

variable {w w' : Watch} {identifier : ObjectIdentifier} {transition : EventTransition}
  {r' : IntrinsicReporting}

/-- The bookkeeping a tick leaves. -/
theorem reportingOf_tick {engine : EventEngine} {database : ObjectDatabase} {nowSeconds : Nat}
    {timestamp : TimestampValue} :
    reportingOf (engine.tick database nowSeconds timestamp).2.1 identifier = some r'
      ↔ ∃ object r, database.objects.lookup identifier = some object
          ∧ BacnetObject.intrinsic object = some r
          ∧ r' = recorded database (due (engine.pending.lookup identifier) nowSeconds object)
              timestamp object r := by
  unfold reportingOf
  rw [EventEngine.lookup_tick]
  cases hobject : database.objects.lookup identifier with
  | none => simp
  | some object =>
      rw [Option.map_some, Option.bind_some, EventEngine.intrinsic_transitioned, Option.map_eq_some_iff]
      constructor
      · rintro ⟨r, hr, hrecorded⟩
        exact ⟨object, r, rfl, hr, hrecorded.symm⟩
      · rintro ⟨_, r, hsame, hr, hrecorded⟩
        cases hsame
        exact ⟨r, hr, hrecorded.symm⟩

theorem reportingOf_eq_some {database : ObjectDatabase} {r : IntrinsicReporting} :
    reportingOf database identifier = some r
      ↔ ∃ object, database.objects.lookup identifier = some object
          ∧ BacnetObject.intrinsic object = some r :=
  Option.bind_eq_some_iff

/-- A tick acknowledges nothing. -/
theorem Awaits.tick {engine : EventEngine} {database : ObjectDatabase} (nowSeconds : Nat)
    (timestamp : TimestampValue) (h : Awaits database identifier transition) :
    Awaits (engine.tick database nowSeconds timestamp).2.1 identifier transition := by
  obtain ⟨r, hr, hawaited⟩ := h
  obtain ⟨object, hobject, hintrinsic⟩ := reportingOf_eq_some.mp hr
  refine ⟨_, reportingOf_tick.mpr ⟨object, r, hobject, hintrinsic, rfl⟩, ?_⟩
  cases due (engine.pending.lookup identifier) nowSeconds object with
  | none => exact hawaited
  | some seen =>
      rw [contains_recorded]
      split
      · rfl
      · exact hawaited

/-- A write leaves the bookkeeping as it was. -/
theorem bookkeeping_write {database : ObjectDatabase} {other : ObjectIdentifier}
    {property : PropertyIdentifier} {value : PropertyValue} {priority : Option UInt8} :
    (reportingOf (database.setPropertyWithPriority other property value priority).1
        identifier).map IntrinsicReporting.bookkeeping
      = (reportingOf database identifier).map IntrinsicReporting.bookkeeping := by
  obtain ⟨e, hrefused⟩ | hwritten :
      (∃ e, (database.setPropertyWithPriority other property value priority).2 = .error e)
        ∨ (database.setPropertyWithPriority other property value priority).2 = .ok () := by
    cases (database.setPropertyWithPriority other property value priority).2 with
    | error e => exact .inl ⟨e, rfl⟩
    | ok _ => exact .inr rfl
  · rw [ObjectDatabase.setPropertyWithPriority_atomic e hrefused]
  · obtain ⟨old, new, hold, hset, hobjects, _⟩ :=
      ObjectDatabase.setPropertyWithPriority_eq_ok (Prod.ext rfl hwritten)
    unfold reportingOf
    rw [hobjects]
    split
    · next hid =>
        rw [hid, hold]
        exact (HostedObject.writeEffect hset).bookkeeping
    · rfl

theorem awaits_iff_bookkeeping {database : ObjectDatabase} :
    Awaits database identifier transition
      ↔ ∃ b, (reportingOf database identifier).map IntrinsicReporting.bookkeeping = some b
          ∧ b.1.contains transition = false := by
  unfold Awaits
  constructor
  · rintro ⟨r, hr, hawaited⟩
    exact ⟨r.bookkeeping, by rw [hr]; rfl, hawaited⟩
  · rintro ⟨b, hb, hawaited⟩
    obtain ⟨r, hr, rfl⟩ := Option.map_eq_some_iff.mp hb
    exact ⟨r, hr, hawaited⟩

/-- A request that is announced leaves the transition it names acknowledged, and no other. -/
theorem awaits_acknowledged {service : ObjectService} {request : AcknowledgeAlarmRequest}
    (h : service.Announces request) :
    Awaits (service.acknowledgeAlarm request).1.database identifier transition
      ↔ Awaits service.database identifier transition
          ∧ ¬ (ObjectService.announcement request).isOf identifier transition = true := by
  obtain ⟨after, hdone, _, hreporting⟩ := ObjectService.acknowledgeAlarm_announces h
  rw [hdone]
  show Awaits after.database identifier transition ↔ _
  unfold Awaits
  rw [hreporting]
  by_cases hid : identifier = request.eventObjectIdentifier
  · subst hid
    rw [if_pos rfl]
    simp only [Option.map_eq_some_iff]
    constructor
    · rintro ⟨_, ⟨r, hr, rfl⟩, hawaited⟩
      unfold ObjectService.acknowledged at hawaited
      simp only [EventTransitionBits.contains_set] at hawaited
      split at hawaited
      · cases hawaited
      · next hother =>
          refine ⟨⟨r, hr, hawaited⟩, ?_⟩
          simp [Acknowledgement.isOf, ObjectService.announcement, Ne.symm hother]
    · rintro ⟨⟨r, hr, hawaited⟩, hother⟩
      refine ⟨_, ⟨r, hr, rfl⟩, ?_⟩
      have hne : transition ≠ .forState request.eventStateAcknowledged := by
        rintro rfl
        exact hother (by simp [Acknowledgement.isOf, ObjectService.announcement])
      unfold ObjectService.acknowledged
      rw [EventTransitionBits.contains_set, if_neg hne]
      exact hawaited
  · rw [if_neg hid]
    have hother : ¬ (ObjectService.announcement request).isOf identifier transition = true := by
      simp [Acknowledgement.isOf, ObjectService.announcement, Ne.symm hid]
    simp [hother]

theorem Watch.announced_acknowledge (request : AcknowledgeAlarmRequest) :
    w.announced (.acknowledge request)
      = if w.service.Announces request then [ObjectService.announcement request] else [] := rfl

/-- A request that is announced names a transition that was awaited. -/
theorem ObjectService.Announces.awaits {service : ObjectService} {request : AcknowledgeAlarmRequest}
    (h : service.Announces request)
    (hof : (ObjectService.announcement request).isOf identifier transition = true) :
    Awaits service.database identifier transition := by
  obtain ⟨rfl, rfl⟩ := of_decide_eq_true hof
  obtain ⟨r, hr, _, hawaited⟩ := h
  exact ⟨r, hr, hawaited⟩

/-- **What a happening announces is all that it queues**; taking loses nothing. -/
theorem Watch.step_acknowledgements {happening : Happening} (h : w.step happening = some w') :
    w'.acknowledgements = w.acknowledgements ++ w.announced happening := by
  cases happening with
  | tick nowSeconds timestamp =>
      cases h
      exact (List.append_nil _).symm
  | acknowledge request =>
      cases h
      show w.returned ++ (w.service.acknowledgeAlarm request).1.acknowledgements = _
      rw [Watch.announced_acknowledge]
      unfold Watch.acknowledgements
      by_cases hannounces : w.service.Announces request
      · obtain ⟨after, hdone, hqueue, _⟩ := ObjectService.acknowledgeAlarm_announces hannounces
        rw [hdone]
        show w.returned ++ after.acknowledgements = _
        rw [hqueue, if_pos hannounces, List.append_assoc]
      · rw [ObjectService.acknowledgeAlarm_unchanged hannounces, if_neg hannounces, List.append_nil]
  | take =>
      cases h
      show (w.returned ++ w.service.acknowledgements) ++ [] = _
      rfl
  | write identifier property value priority =>
      cases h
      exact (List.append_nil _).symm

/-- **A transition that comes to be awaited is announced, or is still awaited.** -/
theorem Watch.step_awaits {happening : Happening} (h : w.step happening = some w') :
    (w.announced happening).countP (Acknowledgement.isOf identifier transition)
        + (w'.awaits identifier transition).toNat
      = (w.awaits identifier transition).toNat + w.arms identifier transition happening w' := by
  -- Where nothing is announced, what was awaited must still be.
  have hkept (hmono : w.awaits identifier transition = true →
      w'.awaits identifier transition = true) :
      (w'.awaits identifier transition).toNat
        = (w.awaits identifier transition).toNat + w.arms identifier transition happening w' := by
    unfold Watch.arms
    cases hbefore : w.awaits identifier transition with
    | true => simp [hmono hbefore]
    | false => cases w'.awaits identifier transition <;> simp
  cases happening with
  | tick nowSeconds timestamp =>
      cases h
      rw [← hkept]
      · exact Nat.zero_add _
      · intro hawaits
        exact decide_eq_true (Awaits.tick nowSeconds timestamp (of_decide_eq_true hawaits))
  | acknowledge request =>
      cases h
      rw [Watch.announced_acknowledge]
      by_cases hannounces : w.service.Announces request
      · rw [if_pos hannounces, List.countP_singleton]
        by_cases hof : (ObjectService.announcement request).isOf identifier transition = true
        · -- The transition was awaited, and is acknowledged now.
          have hbefore : w.awaits identifier transition = true :=
            decide_eq_true (hannounces.awaits hof)
          have hafter : Watch.awaits { w with service := (w.service.acknowledgeAlarm request).1 }
              identifier transition = false :=
            decide_eq_false (fun hawaits => (awaits_acknowledged hannounces |>.mp hawaits).2 hof)
          unfold Watch.arms
          rw [if_pos hof, hbefore, hafter]
          rfl
        · rw [if_neg hof, ← hkept]
          · exact Nat.zero_add _
          · intro hawaits
            exact decide_eq_true ((awaits_acknowledged hannounces).mpr
              ⟨of_decide_eq_true hawaits, hof⟩)
      · have hsame : ({ w with service := (w.service.acknowledgeAlarm request).1 } : Watch) = w := by
          rw [ObjectService.acknowledgeAlarm_unchanged hannounces]
        rw [if_neg hannounces, ← hkept]
        · exact Nat.zero_add _
        · rw [hsame]
          exact id
  | take =>
      cases h
      rw [← hkept]
      · exact Nat.zero_add _
      · exact id
  | write other property value priority =>
      cases h
      rw [← hkept]
      · exact Nat.zero_add _
      · intro hawaits
        apply decide_eq_true
        rw [awaits_iff_bookkeeping, bookkeeping_write, ← awaits_iff_bookkeeping]
        exact of_decide_eq_true hawaits

end Steps

/-! ## §4. Every run -/

/-- A run announces what is acknowledged at its end and was not at its start. -/
theorem Watch.run_acknowledgements {w w' : Watch} {happenings : List Happening}
    (h : Machine.run Watch.step w happenings = some w') :
    w'.acknowledgements = w.acknowledgements ++ w.announcedIn happenings := by
  induction happenings generalizing w with
  | nil =>
      cases h
      exact (List.append_nil _).symm
  | cons happening rest ih =>
      obtain ⟨m, hm, hrest⟩ := Machine.run_cons_eq_some.mp h
      unfold Watch.announcedIn
      rw [ih hrest, Watch.step_acknowledgements hm, hm, List.append_assoc]
      rfl

/-- A run announces each transition once for each time it came to be awaited. -/
theorem Watch.run_awaits {identifier : ObjectIdentifier} {transition : EventTransition}
    {w w' : Watch} {happenings : List Happening}
    (h : Machine.run Watch.step w happenings = some w') :
    (w.announcedIn happenings).countP (Acknowledgement.isOf identifier transition)
        + (w'.awaits identifier transition).toNat
      = (w.awaits identifier transition).toNat
        + Machine.total Watch.step (Watch.arms identifier transition) w happenings := by
  induction happenings generalizing w with
  | nil =>
      cases h
      exact Nat.add_comm _ _
  | cons happening rest ih =>
      obtain ⟨m, hm, hrest⟩ := Machine.run_cons_eq_some.mp h
      have hstep : (w.announced happening).countP (Acknowledgement.isOf identifier transition)
          + (m.awaits identifier transition).toNat
          = (w.awaits identifier transition).toNat
            + w.arms identifier transition happening m :=
        Watch.step_awaits hm
      have htail := ih hrest
      unfold Watch.announcedIn Machine.total
      rw [hm]
      simp only [Option.map_some, Option.getD_some, List.countP_append]
      omega

/-- **Acknowledgements are announced once.**  A request is queued exactly when it names a
transition that is awaited, by the time stamp it has, and any other changes nothing; what a
run announces is what it gave out and what it still has queued, in order; and it announces as
many acknowledgements of a transition as there were times it came to be awaited, or one fewer
while it is. -/
theorem acknowledgements_announced {w w' : Watch} {happenings : List Happening}
    (h : Machine.run Watch.step w happenings = some w') :
    (∀ request,
        (w'.service.Announces request → ∃ after, w'.service.acknowledgeAlarm request = .done after
            ∧ after.acknowledgements
                = w'.service.acknowledgements ++ [ObjectService.announcement request])
          ∧ (¬ w'.service.Announces request → (w'.service.acknowledgeAlarm request).1 = w'.service))
      ∧ w'.returned ++ w'.service.acknowledgements
          = w.returned ++ w.service.acknowledgements ++ w.announcedIn happenings
      ∧ (∀ w'', w'.step .take = some w'' → w''.service.acknowledgements = []
          ∧ w''.returned = w'.returned ++ w'.service.acknowledgements)
      ∧ ∀ identifier transition,
          (w.announcedIn happenings).countP (Acknowledgement.isOf identifier transition)
              + (w'.awaits identifier transition).toNat
            = (w.awaits identifier transition).toNat
              + Machine.total Watch.step (Watch.arms identifier transition) w happenings := by
  refine ⟨?_, Watch.run_acknowledgements h, ?_, fun _ _ => Watch.run_awaits h⟩
  · intro request
    refine ⟨fun hannounces => ?_, ObjectService.acknowledgeAlarm_unchanged⟩
    obtain ⟨after, hdone, hqueue, _⟩ := ObjectService.acknowledgeAlarm_announces hannounces
    exact ⟨after, hdone, hqueue⟩
  · intro w'' htake
    cases htake
    exact ⟨rfl, rfl⟩

/-- A small device, with a value whose transitions are all awaited. -/
def awaitingDevice : ObjectDatabase :=
  (ObjectDatabase.new (.new 1 "Device")).perform
    [.addObject ⟨.analogValue,
      BacnetObject.setIntrinsic (ω := AnalogValue) (.new 1 "Level")
        { IntrinsicReporting.new 1 with ackedTransitions := .none }⟩]

/-- A request that acknowledges a fault of that value. -/
def acknowledgeFault (timeStamp : TimestampValue) : AcknowledgeAlarmRequest :=
  ⟨7, ⟨.analogValue, 1⟩, .fault, timeStamp, "Operator", .sequenceNumber 0⟩

/-- A fault that is acknowledged twice, and taken. -/
theorem acknowledgements_announced_fault :
    let start : Watch := ⟨.new 1, .new awaitingDevice, [], []⟩
    ∃ w', Machine.run Watch.step start
          [.acknowledge (acknowledgeFault unspecifiedTimestamp),
            .acknowledge (acknowledgeFault unspecifiedTimestamp), .take] = some w'
      ∧ w'.returned ++ w'.service.acknowledgements = [⟨⟨.analogValue, 1⟩, .fault⟩] := by
  intro start
  refine ⟨_, rfl, ?_⟩
  have hrun : Machine.run Watch.step start [.acknowledge (acknowledgeFault unspecifiedTimestamp),
      .acknowledge (acknowledgeFault unspecifiedTimestamp), .take] = some _ := rfl
  rw [(acknowledgements_announced hrun).2.1]
  decide +kernel

/-! ## §5. What is awaited was told -/

/-- What is awaited has the time stamp of a notification that was addressed to someone. -/
def Watch.Told (w : Watch) : Prop :=
  ∀ identifier transition r, reportingOf w.service.database identifier = some r →
    r.ackedTransitions.contains transition = false →
    ∃ addressed ∈ w.sent, addressed.notification.eventObject = identifier
      ∧ EventTransition.forState addressed.notification.toState = transition
      ∧ addressed.notification.timestamp = r.eventTimeStamps.get transition.bitIndex

/-- No tick commits a transition that nobody is told of while one of its kind is awaited. -/
def Watch.Transmits (w : Watch) : Happening → Prop
  | .tick nowSeconds _ =>
      ∀ identifier ∈ w.service.database.objects.keys,
        ∀ object ∈ w.service.database.objects.lookup identifier,
          ∀ seen ∈ due (w.engine.pending.lookup identifier) nowSeconds object,
            Awaits w.service.database identifier (.forState seen.evaluation.desiredState) →
              recipientsOf w.service.database object seen ≠ []
  | _ => True

instance : ∀ (w : Watch) (happening : Happening), Decidable (w.Transmits happening)
  | _, .tick _ _ => by
      unfold Watch.Transmits
      infer_instance
  | _, .acknowledge _ => .isTrue trivial
  | _, .take => .isTrue trivial
  | _, .write _ _ _ _ => .isTrue trivial

section Told

variable {w w' : Watch}

/-- Bookkeeping that is as it was, with nothing more awaited, is told of as before. -/
theorem Watch.Told.of_bookkeeping (h : w.Told) (hsent : ∀ n ∈ w.sent, n ∈ w'.sent)
    (hreporting : ∀ identifier r', reportingOf w'.service.database identifier = some r' →
      ∃ r, reportingOf w.service.database identifier = some r
        ∧ r'.eventTimeStamps = r.eventTimeStamps
        ∧ ∀ transition, r'.ackedTransitions.contains transition = false →
            r.ackedTransitions.contains transition = false) : w'.Told := by
  intro identifier transition r' hr' hawaited
  obtain ⟨r, hr, hstamps, hacked⟩ := hreporting identifier r' hr'
  obtain ⟨n, hn, hobject, hstate, htimestamp⟩ := h identifier transition r hr (hacked _ hawaited)
  exact ⟨n, hsent n hn, hobject, hstate, by rw [hstamps]; exact htimestamp⟩

/-- **What a tick commits and leaves awaited, it tells.** -/
theorem Watch.Told.tick (h : w.Told) {nowSeconds : Nat} {timestamp : TimestampValue}
    (hok : w.Transmits (.tick nowSeconds timestamp))
    (hstep : w.step (.tick nowSeconds timestamp) = some w') : w'.Told := by
  cases hstep
  intro identifier transition r' hr' hawaited
  obtain ⟨object, r, hobject, hintrinsic, rfl⟩ := reportingOf_tick.mp hr'
  have hr : reportingOf w.service.database identifier = some r :=
    reportingOf_eq_some.mpr ⟨object, hobject, hintrinsic⟩
  show ∃ addressed ∈ w.sent ++ _, _
  have hearlier (hbefore : r.ackedTransitions.contains transition = false) :=
    h identifier transition r hr hbefore
  cases hdue : due (w.engine.pending.lookup identifier) nowSeconds object with
  | none =>
      rw [hdue] at hawaited
      obtain ⟨n, hn, htold⟩ := hearlier hawaited
      exact ⟨n, List.mem_append_left _ hn, htold⟩
  | some seen =>
      rw [hdue, contains_recorded] at hawaited
      rw [timeStamp_recorded]
      by_cases htransition : transition = .forState seen.evaluation.desiredState
      · -- The transition that is committed: someone is told of it.
        subst htransition
        have hrecipients : recipientsOf w.service.database object seen ≠ [] := by
          split at hawaited
          · next hack => exact hack.2.2
          · exact hok identifier (by rw [← AList.mem_keys, ← AList.lookup_isSome, hobject]; rfl)
              object hobject seen hdue ⟨r, hr, hawaited⟩
        obtain ⟨destination, hdestination⟩ := List.exists_mem_of_ne_nil _ hrecipients
        have htold : ∃ n ∈ told w.engine.device identifier w.service.database
            (w.engine.pending.lookup identifier) nowSeconds timestamp object,
            n.notification.eventObject = identifier
              ∧ n.notification.toState = seen.evaluation.desiredState
              ∧ n.notification.timestamp = timestamp := by
          unfold told
          rw [hdue]
          exact ⟨_, List.mem_map_of_mem hdestination, rfl, rfl, rfl⟩
        obtain ⟨n, hn, hnobject, hnstate, hntimestamp⟩ := htold
        refine ⟨n, List.mem_append_right _ (EventEngine.mem_tick.mpr ⟨identifier, object, hobject, hn⟩),
          hnobject, by rw [hnstate], ?_⟩
        rw [if_pos rfl]
        exact hntimestamp
      · rw [if_neg (fun hcommitted => htransition hcommitted.1)] at hawaited
        rw [if_neg htransition]
        obtain ⟨n, hn, htold⟩ := hearlier hawaited
        exact ⟨n, List.mem_append_left _ hn, htold⟩

/-- **What is awaited stays told.** -/
theorem Watch.Told.next (happening : Happening) (hok : w.Transmits happening) (h : w.Told)
    (hstep : w.step happening = some w') : w'.Told := by
  cases happening with
  | tick nowSeconds timestamp => exact h.tick hok hstep
  | acknowledge request =>
      cases hstep
      by_cases hannounces : w.service.Announces request
      · obtain ⟨after, hdone, _, hreporting⟩ := ObjectService.acknowledgeAlarm_announces hannounces
        refine h.of_bookkeeping (fun _ hn => hn) ?_
        intro identifier r' hr'
        simp only [hdone] at hr'
        have hafter : reportingOf after.database identifier = some r' := hr'
        rw [hreporting] at hafter
        split at hafter
        · obtain ⟨r, hr, rfl⟩ := Option.map_eq_some_iff.mp hafter
          refine ⟨r, hr, rfl, ?_⟩
          intro transition hawaited
          unfold ObjectService.acknowledged at hawaited
          simp only [EventTransitionBits.contains_set] at hawaited
          split at hawaited
          · cases hawaited
          · exact hawaited
        · exact ⟨r', hafter, rfl, fun _ => id⟩
      · refine h.of_bookkeeping (fun _ hn => hn) ?_
        intro identifier r' hr'
        simp only [ObjectService.acknowledgeAlarm_unchanged hannounces] at hr'
        exact ⟨r', hr', rfl, fun _ => id⟩
  | take =>
      cases hstep
      exact h
  | write other property value priority =>
      cases hstep
      refine h.of_bookkeeping (fun _ hn => hn) ?_
      intro identifier r' hr'
      -- A write leaves the bits and the time stamps as they were.
      have hbookkeeping :
          (reportingOf (w.service.database.setPropertyWithPriority other property value
            priority).1 identifier).map IntrinsicReporting.bookkeeping
          = (reportingOf w.service.database identifier).map IntrinsicReporting.bookkeeping :=
        bookkeeping_write
      simp only at hr'
      rw [hr'] at hbookkeeping
      obtain ⟨r, hr, hsame⟩ := Option.map_eq_some_iff.mp hbookkeeping.symm
      obtain ⟨hacked, hstamps⟩ := Prod.mk.inj hsame
      refine ⟨r, hr, hstamps.symm, ?_⟩
      intro transition hawaited
      rw [hacked]
      exact hawaited

end Told

/-- **What is awaited was told**, in every run from a state where nothing is awaited whose ticks
tell of the transitions they commit while others of their kind are. -/
theorem awaited_told {w w' : Watch} {happenings : List Happening}
    (hstart : ∀ identifier transition, ¬ Awaits w.service.database identifier transition)
    (hok : Machine.Throughout Watch.step Watch.Transmits w happenings)
    (h : Machine.run Watch.step w happenings = some w') : w'.Told := by
  have htold : w.Told := by
    intro identifier transition r hr hawaited
    exact absurd ⟨r, hr, hawaited⟩ (hstart identifier transition)
  exact Machine.run_invariant_throughout
    (fun _ happening _ hok h hstep => h.next happening hok hstep) hok htold h

/-! ## §6. Transitions nobody is told of -/

/-- A step, with the objects of a tick sorted by insertion. -/
def Watch.sortedStep (w : Watch) : Happening → Option Watch
  | .tick nowSeconds timestamp =>
      let (engine, database, notifications) :=
        w.engine.sortedTick w.service.database nowSeconds timestamp
      some { w with
        engine
        service := { w.service with database := database }
        sent := w.sent ++ notifications }
  | happening => w.step happening

theorem Watch.step_eq_sortedStep : Watch.step = Watch.sortedStep := by
  funext w happening
  cases happening with
  | tick nowSeconds timestamp =>
      unfold step sortedStep
      rw [EventEngine.tick_eq_sortedTick]
  | _ => rfl

/-- A small device, with a value that reports through a notification class that has one
recipient, and wants every transition acknowledged. -/
def notifyingDevice : ObjectDatabase :=
  (ObjectDatabase.new (.new 1 "Device")).perform
    [.addObject ⟨.notificationClass,
        { identifier := ⟨.notificationClass, 1⟩
          objectName := "Alarms"
          description := ""
          priority := Vector.replicate 3 255
          ackRequired := .all
          recipientList :=
            [{ validDays := List.replicate 7 true
               fromTime := ⟨0, 0, 0, 0⟩
               toTime := ⟨23, 59, 59, 99⟩
               recipient := .device ⟨.device, 2⟩
               processIdentifier := 777
               issueConfirmedNotifications := false
               transitions := [true, true, true] }]
          recipientCapacity := none }⟩,
      .addObject ⟨.analogValue, (AnalogValue.new 1 "Level").withIntrinsicReporting 1⟩,
      .setProperty ⟨.analogValue, 1⟩ .outOfService (.boolean true)]

/-- The value is at fault, and recovers. -/
def writeReliability (reliability : UInt32) : Happening :=
  .write ⟨.analogValue, 1⟩ .reliability (.enumerated reliability) none

/-- A fault that is told, and a second one that is masked. -/
def maskedFault : List Happening :=
  [writeReliability 1, .tick 0 (.sequenceNumber 0),
    .write ⟨.analogValue, 1⟩ .eventEnable (.bitString [false, false, false]) none,
    writeReliability 0, .tick 1 (.sequenceNumber 1),
    writeReliability 1, .tick 2 (.sequenceNumber 2)]

/-- Nothing is awaited where every transition of every object is acknowledged. -/
theorem not_awaits_of_acknowledged {database : ObjectDatabase}
    (h : ∀ identifier ∈ database.objects.keys, ∀ r ∈ reportingOf database identifier,
      r.ackedTransitions = .all) (identifier : ObjectIdentifier) (transition : EventTransition) :
    ¬ Awaits database identifier transition := by
  rintro ⟨r, hr, hawaited⟩
  obtain ⟨object, hobject, _⟩ := reportingOf_eq_some.mp hr
  rw [h identifier (by rw [← AList.mem_keys, ← AList.lookup_isSome, hobject]; rfl) r hr] at hawaited
  cases transition <;> cases hawaited

/-- A new engine watching that device. -/
def notifyingWatch : Watch := ⟨.new 1, .new notifyingDevice, [], []⟩

theorem notifyingWatch_awaits_nothing (identifier : ObjectIdentifier)
    (transition : EventTransition) :
    ¬ Awaits notifyingWatch.service.database identifier transition :=
  not_awaits_of_acknowledged (by decide +kernel) identifier transition

/-- A fault that is told, and awaited. -/
theorem awaited_told_fault : ∃ w',
    Machine.run Watch.step notifyingWatch [writeReliability 1, .tick 0 (.sequenceNumber 0)] = some w'
      ∧ Awaits w'.service.database ⟨.analogValue, 1⟩ .toFault ∧ w'.Told := by
  have hrun : (Machine.run Watch.sortedStep notifyingWatch
      [writeReliability 1, .tick 0 (.sequenceNumber 0)]).any
        (fun w' => w'.awaits ⟨.analogValue, 1⟩ .toFault) = true := by decide +kernel
  have hok : Machine.Throughout Watch.step Watch.Transmits notifyingWatch
      [writeReliability 1, .tick 0 (.sequenceNumber 0)] := by
    rw [Watch.step_eq_sortedStep]
    decide +kernel
  rw [← Watch.step_eq_sortedStep] at hrun
  obtain ⟨w', hw', hawaits⟩ := (Option.any_eq_true _ _).mp hrun
  exact ⟨w', hw', of_decide_eq_true hawaits, awaited_told notifyingWatch_awaits_nothing hok hw'⟩

/-- **What is awaited need not have been told**: the second fault is told to nobody, but has its
time stamp recorded, and the first is awaited still. -/
theorem superseded_untold :
    (∀ identifier transition, ¬ Awaits notifyingWatch.service.database identifier transition)
      ∧ ∃ w', Machine.run Watch.step notifyingWatch maskedFault = some w' ∧ ¬ w'.Told := by
  refine ⟨notifyingWatch_awaits_nothing, ?_⟩
  have hrun : (Machine.run Watch.sortedStep notifyingWatch maskedFault).any (fun w' =>
      (reportingOf w'.service.database ⟨.analogValue, 1⟩).any (fun r =>
        !r.ackedTransitions.contains .toFault
          && w'.sent.all (fun addressed => decide (addressed.notification.timestamp
              ≠ r.eventTimeStamps[EventTransition.toFault.bitIndex])))) = true := by
    decide +kernel
  rw [← Watch.step_eq_sortedStep] at hrun
  obtain ⟨w', hw', hcheck⟩ := (Option.any_eq_true _ _).mp hrun
  refine ⟨w', hw', ?_⟩
  intro htold
  obtain ⟨r, hr, hcheck⟩ := (Option.any_eq_true _ _).mp hcheck
  obtain ⟨hawaited, hunsent⟩ := Bool.and_eq_true_iff.mp hcheck
  obtain ⟨n, hn, _, _, htimestamp⟩ :=
    htold ⟨.analogValue, 1⟩ .toFault r hr (by simpa using hawaited)
  exact of_decide_eq_true (List.all_eq_true.mp hunsent n hn) htimestamp

end BacnetRs.Server
