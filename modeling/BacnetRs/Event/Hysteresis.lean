/-
  BacnetRs.Event.Hysteresis — how an analog object crosses its limits
  (`object/analog.rs`, `event/mod.rs`).

  What OUT_OF_RANGE demands depends on the state the object is in, and that
  state follows what was demanded, a dwell later.  Here the two are put together
  for one object over any kind of number: the values change and the engine
  ticks, in any order, and each transition is recorded with the value it was
  made on.

    * `Level.engine_tick`  — at `F32` this is what the engine's tick does to an
                             analog object.
    * `Crossing.Judged`    — on which values a limit is crossed, and back.
    * `limits_hysteresis`  — every transition of every run is so judged, and
                             between two into one state there is one out of it.
-/
import BacnetRs.Event.Dwell
import Mathlib.Algebra.Order.Group.Int
import Mathlib.Data.List.Chain
import Mathlib.Order.Defs.LinearOrder

namespace BacnetRs.Event

open BacnetRs.Encoding BacnetRs.Object BacnetRs.Property

/-! ## §1. One object -/

/-- What the algorithm and the engine know of an analog object. -/
structure Level (α : Type) where
  presentValue : α
  highLimit : Option α
  lowLimit : Option α
  deadband : α
  reliability : Reliability
  eventState : EventState
  alarm : Option IntrinsicReporting
  /-- The condition waiting out its dwell time. -/
  pending : Option Pending
  deriving Repr, DecidableEq

/-- A transition, and the value it was made on. -/
structure Crossing (α : Type) where
  value : α
  fromState : EventState
  toState : EventState
  trigger : AlarmTrigger α
  deriving Repr, DecidableEq

namespace Level

variable {α : Type} [Sub α] [Add α] [LT α] [DecidableLT α]

/-- `evaluate_alarm`. -/
def evaluate (self : Level α) : Option (AlarmEvaluation α) :=
  evaluateAnalog self.presentValue self.highLimit self.lowLimit self.deadband self.reliability
    self.eventState self.alarm

/-- `evaluate_object`: the object after it, and the transition it makes.  Whether someone is to
acknowledge it depends on the rest of the database. -/
def tick (self : Level α) (nowSeconds : Nat) (timestamp : TimestampValue) (awaited : Bool) :
    Level α × Option (Crossing α) :=
  match self.evaluate, self.alarm with
  | some evaluation, some alarm =>
      let desired := evaluation.desiredState
      let since := heldSince self.pending desired nowSeconds
      if desired = self.eventState then ({ self with pending := none }, none)
      else if nowSeconds - since < (alarm.dwellFor desired).toNat then
        ({ self with pending := some ⟨desired, since⟩ }, none)
      else
        let stamped := alarm.recordTransition desired timestamp
        ({ self with
            eventState := desired
            alarm := some (if awaited then stamped.awaitAcknowledgement desired else stamped)
            pending := none },
          some ⟨self.presentValue, self.eventState, desired, evaluation.trigger⟩)
  | _, _ => (self, none)

section Tick

variable {self : Level α} {evaluation : AlarmEvaluation α} {alarm : IntrinsicReporting}
  {nowSeconds : Nat} {timestamp : TimestampValue} {awaited : Bool}

theorem tick_undemanding (h : self.evaluate = none) :
    self.tick nowSeconds timestamp awaited = (self, none) := by
  unfold tick
  rw [h]

theorem tick_settled (h : self.evaluate = some evaluation) (halarm : self.alarm = some alarm)
    (hsettled : evaluation.desiredState = self.eventState) :
    self.tick nowSeconds timestamp awaited = ({ self with pending := none }, none) := by
  unfold tick
  rw [h, halarm]
  exact if_pos hsettled

theorem tick_dwelling (h : self.evaluate = some evaluation) (halarm : self.alarm = some alarm)
    (hunsettled : evaluation.desiredState ≠ self.eventState)
    (hdwelling : nowSeconds - heldSince self.pending evaluation.desiredState nowSeconds
      < (alarm.dwellFor evaluation.desiredState).toNat) :
    self.tick nowSeconds timestamp awaited
      = ({ self with
            pending := some ⟨evaluation.desiredState,
              heldSince self.pending evaluation.desiredState nowSeconds⟩ }, none) := by
  unfold tick
  rw [h, halarm]
  exact (if_neg hunsettled).trans (if_pos hdwelling)

theorem tick_elapsed (h : self.evaluate = some evaluation) (halarm : self.alarm = some alarm)
    (hunsettled : evaluation.desiredState ≠ self.eventState)
    (helapsed : ¬ nowSeconds - heldSince self.pending evaluation.desiredState nowSeconds
      < (alarm.dwellFor evaluation.desiredState).toNat) :
    self.tick nowSeconds timestamp awaited
      = ({ self with
            eventState := evaluation.desiredState
            alarm := some (
              if awaited then
                (alarm.recordTransition evaluation.desiredState timestamp).awaitAcknowledgement
                  evaluation.desiredState
              else alarm.recordTransition evaluation.desiredState timestamp)
            pending := none },
          some ⟨self.presentValue, self.eventState, evaluation.desiredState,
            evaluation.trigger⟩) := by
  unfold tick
  rw [h, halarm]
  exact (if_neg hunsettled).trans (if_neg helapsed)

end Tick

end Level

/-! ## §2. It is what the engine does -/

/-- The analog object an object is. -/
def analogOf : HostedObject → Option AnalogState
  | ⟨.analogInput, self⟩ => some self.toAnalogState
  | ⟨.analogOutput, self⟩ => some self.state
  | ⟨.analogValue, self⟩ => some self.state
  | _ => none

namespace Level

/-- What there is to know of an analog object. -/
def ofAnalog (self : AnalogState) (pending : Option Pending) : Level F32 :=
  ⟨self.effectivePresentValue, self.highLimit, self.lowLimit, self.deadband, self.reliability,
    self.eventState, self.alarm, pending⟩

section Analog

variable {object : HostedObject} {self : AnalogState}

/-- What the engine reads of an analog object. -/
theorem read_analog (h : analogOf object = some self) :
    AlarmCapable.evaluateAlarm object = self.evaluateAlarm ∧
    BacnetObject.intrinsic object = self.alarm ∧
    currentStateOf object = self.eventState := by
  have hstate (state : EventState) : (⟨state.value.toUInt32.toUInt16⟩ : EventState) = state := by
    simp
  obtain ⟨cls, state⟩ := object
  cases cls <;> cases h
  · exact ⟨rfl, rfl, hstate _⟩
  · exact ⟨rfl, rfl, hstate _⟩
  · exact ⟨rfl, rfl, hstate _⟩

/-- What the engine changes in one. -/
theorem analogOf_changed (h : analogOf object = some self) (state : EventState)
    (reporting : IntrinsicReporting) :
    analogOf (BacnetObject.setIntrinsic (AlarmCapable.applyEventState object state) reporting)
      = some { self with eventState := state, alarm := some reporting } := by
  obtain ⟨cls, held⟩ := object
  cases cls <;> cases h
  · rfl
  · rfl
  · rfl

variable {pending : Option Pending} {nowSeconds : Nat} {timestamp : TimestampValue}

/-- Whether the transition that is due is to be acknowledged by someone. -/
def awaited (database : ObjectDatabase) (pending : Option Pending) (nowSeconds : Nat)
    (object : HostedObject) : Bool :=
  (due pending nowSeconds object).any (fun seen =>
    decide (ackRequiredOf database seen = true ∧ recipientsOf database object seen ≠ []))

/-- **Evaluating an analog object is a tick of its level.** -/
theorem tick_analog (database : ObjectDatabase) (pending : Option Pending) (nowSeconds : Nat)
    (timestamp : TimestampValue) (h : analogOf object = some self) :
    ∃ after, analogOf (transitioned database pending nowSeconds timestamp object) = some after ∧
      ofAnalog after (waiting pending nowSeconds object)
        = ((ofAnalog self pending).tick nowSeconds timestamp
            (awaited database pending nowSeconds object)).1 := by
  obtain ⟨hevaluate, hintrinsic, hcurrent⟩ := read_analog h
  -- The four ways of a tick: nothing detected, settled, dwelling, dwelled.
  cases hdemanded : self.evaluateAlarm with
  | none =>
      have hnone : observe object = none := by
        unfold observe
        rw [hevaluate, hdemanded]
        rfl
      rw [tick_undemanding (show (ofAnalog self pending).evaluate = none from hdemanded)]
      refine ⟨self, ?_, ?_⟩
      · unfold transitioned due demand
        rw [hnone]
        exact h
      · unfold waiting
        rw [hnone]
  | some evaluation =>
      obtain ⟨alarm, halarm, -⟩ := evaluateAnalog_detects hdemanded
      have hobserve : observe object = some ⟨evaluation, self.eventState,
          alarm.dwellFor evaluation.desiredState, AlarmCapable.isOutOfService object,
          alarm.notificationClass, alarm.notifyType⟩ := by
        unfold observe
        rw [hevaluate, hdemanded, hintrinsic, halarm, hcurrent]
        rfl
      have hlevel : (ofAnalog self pending).evaluate = some evaluation := hdemanded
      have hreporting : (ofAnalog self pending).alarm = some alarm := halarm
      by_cases hsettled : evaluation.desiredState = self.eventState
      · rw [tick_settled hlevel hreporting hsettled]
        have hdemand : demand object = none := by
          unfold demand
          rw [hobserve]
          simp [Option.filter, hsettled]
        refine ⟨self, ?_, ?_⟩
        · unfold transitioned due
          rw [hdemand]
          exact h
        · unfold waiting
          rw [hobserve, hdemand]
          rfl
      have hdemand := demand_eq_some.mpr ⟨hobserve, hsettled⟩
      by_cases hdwelling : nowSeconds - heldSince pending evaluation.desiredState nowSeconds
          < (alarm.dwellFor evaluation.desiredState).toNat
      · rw [tick_dwelling hlevel hreporting hsettled hdwelling]
        have hdue : due pending nowSeconds object = none := by
          unfold due
          rw [hdemand]
          simpa [Option.filter] using hdwelling
        refine ⟨self, ?_, ?_⟩
        · unfold transitioned
          rw [hdue]
          exact h
        · unfold waiting
          rw [hobserve, hdemand, hdue]
          rfl
      · rw [tick_elapsed hlevel hreporting hsettled hdwelling]
        have hdue := due_eq_some.mpr ⟨hdemand, Nat.le_of_not_lt hdwelling⟩
        have hintrinsic' : BacnetObject.intrinsic object = some alarm := hintrinsic.trans halarm
        unfold transitioned waiting awaited
        rw [hobserve, hdemand, hdue]
        dsimp only
        simp only [Option.any_some, decide_eq_true_eq]
        -- With an acknowledgement awaited or without, the object has taken the transition.
        split
        · rw [awaitAcknowledgement_commitTransition hintrinsic']
          exact ⟨_, analogOf_changed h _ _, rfl⟩
        · rw [commitTransition_eq hintrinsic']
          exact ⟨_, analogOf_changed h _ _, rfl⟩

/-- **So a tick of the engine is one of each analog object's level.** -/
theorem engine_tick (engine : EventEngine) (database : ObjectDatabase)
    {identifier : ObjectIdentifier} (hobject : database.objects.lookup identifier = some object)
    (h : analogOf object = some self) :
    ∃ object' after,
      (engine.tick database nowSeconds timestamp).2.1.objects.lookup identifier = some object' ∧
      analogOf object' = some after ∧
      ofAnalog after
          ((engine.tick database nowSeconds timestamp).1.pending.lookup identifier)
        = ((ofAnalog self (engine.pending.lookup identifier)).tick nowSeconds timestamp
            (awaited database (engine.pending.lookup identifier) nowSeconds object)).1 := by
  obtain ⟨after, hafter, hlevel⟩ := tick_analog database (engine.pending.lookup identifier)
    nowSeconds timestamp h
  refine ⟨_, after, ?_, hafter, ?_⟩
  · rw [EventEngine.lookup_tick, hobject]
    rfl
  · rw [EventEngine.pending_tick, hobject]
    exact hlevel

/-- An object at fault, when the engine first sees it. -/
theorem engine_tick_faultReporter :
    ∃ object self object' after,
      faultReporter.objects.lookup ⟨.analogValue, 1⟩ = some object ∧
      ((EventEngine.new 1).tick faultReporter 0 (.sequenceNumber 1)).2.1.objects.lookup
        ⟨.analogValue, 1⟩ = some object' ∧
      analogOf object' = some after ∧
      ofAnalog after (((EventEngine.new 1).tick faultReporter 0
          (.sequenceNumber 1)).1.pending.lookup ⟨.analogValue, 1⟩)
        = ((ofAnalog self ((EventEngine.new 1).pending.lookup ⟨.analogValue, 1⟩)).tick 0
            (.sequenceNumber 1) (awaited faultReporter
              ((EventEngine.new 1).pending.lookup ⟨.analogValue, 1⟩) 0 object)).1 := by
  have hsome : ((faultReporter.objects.lookup ⟨.analogValue, 1⟩).bind analogOf).isSome = true := by
    decide +kernel
  obtain ⟨self, hself⟩ := Option.isSome_iff_exists.mp hsome
  obtain ⟨object, hobject, h⟩ := Option.bind_eq_some_iff.mp hself
  obtain ⟨object', after, htick⟩ := engine_tick (EventEngine.new 1) faultReporter hobject h
  exact ⟨object, self, object', after, hobject, htick⟩

end Analog

end Level
/-! ## §3. On which values limits are crossed -/

section Judgement

variable {α : Type} [LinearOrder α] [Sub α] [Add α]

/-- What a transition's value says of the limits. -/
structure Crossing.Judged (highLimit lowLimit : Option α) (deadband : α) (crossing : Crossing α) :
    Prop where
  moved : crossing.fromState ≠ crossing.toState
  entersHigh : crossing.toState = .highLimit →
    ∃ limit, highLimit = some limit ∧ limit < crossing.value
  leavesHigh : crossing.fromState = .highLimit →
    ∀ limit, highLimit = some limit → crossing.value ≤ limit - deadband
  entersLow : crossing.toState = .lowLimit →
    ∃ limit, lowLimit = some limit ∧ crossing.value < limit
  /-- The high limit is looked at first, also on the way back from the low one. -/
  leavesLow : crossing.fromState = .lowLimit →
    ∀ limit, lowLimit = some limit → limit + deadband ≤ crossing.value
      ∨ crossing.toState = .highLimit ∧ ∃ high, highLimit = some high ∧ high < crossing.value
  recoversHigh : crossing.fromState = .highLimit → crossing.toState = .normal →
    ∀ limit, highLimit = some limit →
      crossing.trigger = .outOfRange crossing.value limit deadband
  recoversLow : crossing.fromState = .lowLimit → crossing.toState = .normal →
    ∀ limit, lowLimit = some limit →
      crossing.trigger = .outOfRange crossing.value limit deadband

/-- What is demanded of an object without a fault, from the state it is in. -/
theorem evaluateAnalog_judged {presentValue deadband : α} {highLimit lowLimit : Option α}
    {currentState : EventState} {alarm : Option IntrinsicReporting} {e : AlarmEvaluation α}
    (h : evaluateAnalog presentValue highLimit lowLimit deadband .noFaultDetected currentState alarm
      = some e) (hmoved : e.desiredState ≠ currentState) :
    Crossing.Judged highLimit lowLimit deadband
      ⟨presentValue, currentState, e.desiredState, e.trigger⟩ := by
  have hdetects : detects alarm ≠ false := by
    rw [detects_iff.mpr (evaluateAnalog_detects h)]
    decide
  unfold evaluateAnalog at h
  dsimp only at h
  rw [if_neg hdetects, if_neg (fun hfault => hfault rfl)] at h
  split at h
  · -- No limit is configured.
    next hnone =>
      cases h
      have hhigh : highLimit = none := Option.isNone_iff_eq_none.mp hnone.1
      have hlow : lowLimit = none := Option.isNone_iff_eq_none.mp hnone.2
      subst hhigh hlow
      refine ⟨Ne.symm hmoved, ?_, ?_, ?_, ?_, ?_, ?_⟩
      · intro hstate
        cases hstate
      · intro _ limit hlimit
        cases hlimit
      · intro hstate
        cases hstate
      · intro _ limit hlimit
        cases hlimit
      · intro _ _ limit hlimit
        cases hlimit
      · intro _ _ limit hlimit
        cases hlimit
  split at h
  · -- Above the high limit, from a state that is not High-Limit.
    next limit hhigh =>
      cases h
      obtain ⟨hlimit, htripped⟩ := Option.filter_eq_some_iff.mp hhigh
      rw [if_neg (Ne.symm hmoved)] at htripped
      have habove : limit < presentValue := of_decide_eq_true htripped
      refine ⟨Ne.symm hmoved, fun _ => ⟨limit, hlimit, habove⟩, ?_, ?_, ?_, ?_, ?_⟩
      · intro hstate
        exact absurd hstate (Ne.symm hmoved)
      · intro hstate
        cases hstate
      · intro _ low _
        exact .inr ⟨rfl, limit, hlimit, habove⟩
      · intro _ hstate
        cases hstate
      · intro _ hstate
        cases hstate
  · next hhigh =>
      have hbelow (hstate : currentState = .highLimit) (limit : α)
          (hlimit : highLimit = some limit) : presentValue ≤ limit - deadband := by
        have huntripped := Option.filter_eq_none_iff.mp hhigh limit hlimit
        rw [if_pos hstate] at huntripped
        exact not_lt.mp (fun htripped => huntripped (decide_eq_true htripped))
      split at h
      · -- Below the low limit, from a state that is not Low-Limit.
        next limit hlow =>
          cases h
          obtain ⟨hlimit, htripped⟩ := Option.filter_eq_some_iff.mp hlow
          rw [if_neg (Ne.symm hmoved)] at htripped
          refine ⟨Ne.symm hmoved, ?_, hbelow, ?_, ?_, ?_, ?_⟩
          · intro hstate
            cases hstate
          · intro _
            exact ⟨limit, hlimit, of_decide_eq_true htripped⟩
          · intro hstate
            exact absurd hstate (Ne.symm hmoved)
          · intro _ hstate
            cases hstate
          · intro _ hstate
            cases hstate
      · -- Back in range.
        next hlow =>
          cases h
          refine ⟨Ne.symm hmoved, ?_, hbelow, ?_, ?_, ?_, ?_⟩
          · intro hstate
            cases hstate
          · intro hstate
            cases hstate
          · intro hstate limit hlimit
            have huntripped := Option.filter_eq_none_iff.mp hlow limit hlimit
            rw [if_pos hstate] at huntripped
            exact .inl (not_lt.mp (fun htripped => huntripped (decide_eq_true htripped)))
          · intro hstate _ limit hlimit
            have hother : currentState ≠ .lowLimit := by
              rw [show currentState = .highLimit from hstate]
              decide
            dsimp only
            rw [if_neg hother, hlimit]
            rfl
          · intro hstate _ limit hlimit
            dsimp only
            rw [if_pos hstate, hlimit]
            rfl

end Judgement

/-! ## §4. Runs -/

/-- An object and the transitions it has made, the newest first. -/
structure Course (α : Type) where
  level : Level α
  crossings : List (Crossing α)

/-- What happens to it. -/
inductive Passing (α : Type) where
  /-- The value is another. -/
  | changed (presentValue : α)
  | ticked (nowSeconds : Nat) (timestamp : TimestampValue) (awaited : Bool)

namespace Course

variable {α : Type} [LinearOrder α] [Sub α] [Add α]

def step (course : Course α) : Passing α → Option (Course α)
  | .changed presentValue =>
      some { course with level := { course.level with presentValue := presentValue } }
  | .ticked nowSeconds timestamp awaited =>
      let (level, crossing) := course.level.tick nowSeconds timestamp awaited
      some ⟨level, crossing.toList ++ course.crossings⟩

/-- The configuration is the one it started with, each transition was judged by it, and each
begins where the one before it ended. -/
structure Traced (start : Level α) (course : Course α) : Prop where
  healthy : course.level.reliability = .noFaultDetected
  highLimit : course.level.highLimit = start.highLimit
  lowLimit : course.level.lowLimit = start.lowLimit
  deadband : course.level.deadband = start.deadband
  judged : ∀ crossing ∈ course.crossings,
    crossing.Judged start.highLimit start.lowLimit start.deadband
  chained : course.crossings.IsChain (fun newer older => newer.fromState = older.toState)
  current : ∀ crossing ∈ course.crossings.head?, crossing.toState = course.level.eventState

variable {start : Level α} {course after : Course α}

theorem traced_start (h : start.reliability = .noFaultDetected) : Traced start ⟨start, []⟩ where
  healthy := h
  highLimit := rfl
  lowLimit := rfl
  deadband := rfl
  judged := fun _ hmem => absurd hmem List.not_mem_nil
  chained := List.IsChain.nil
  current := fun _ hmem => nomatch hmem

/-- A tick keeps the trace. -/
theorem Traced.ticked (h : Traced start course) (nowSeconds : Nat) (timestamp : TimestampValue)
    (awaited : Bool) :
    Traced start ⟨(course.level.tick nowSeconds timestamp awaited).1,
      (course.level.tick nowSeconds timestamp awaited).2.toList ++ course.crossings⟩ := by
  cases hevaluate : course.level.evaluate with
  | none =>
      rw [Level.tick_undemanding hevaluate]
      exact h
  | some evaluation =>
      obtain ⟨alarm, halarm, -⟩ := evaluateAnalog_detects hevaluate
      -- Settled or dwelling, the tick crosses no limit.
      by_cases hsettled : evaluation.desiredState = course.level.eventState
      · rw [Level.tick_settled hevaluate halarm hsettled]
        exact ⟨h.healthy, h.highLimit, h.lowLimit, h.deadband, h.judged, h.chained, h.current⟩
      by_cases hdwelling : nowSeconds
          - heldSince course.level.pending evaluation.desiredState nowSeconds
            < (alarm.dwellFor evaluation.desiredState).toNat
      · rw [Level.tick_dwelling hevaluate halarm hsettled hdwelling]
        exact ⟨h.healthy, h.highLimit, h.lowLimit, h.deadband, h.judged, h.chained, h.current⟩
      · rw [Level.tick_elapsed hevaluate halarm hsettled hdwelling]
        unfold Level.evaluate at hevaluate
        rw [h.healthy] at hevaluate
        have hjudged := evaluateAnalog_judged hevaluate hsettled
        rw [h.highLimit, h.lowLimit, h.deadband] at hjudged
        -- The crossing is judged by the same limits, and leaves from where the last one led.
        refine ⟨h.healthy, h.highLimit, h.lowLimit, h.deadband, ?_, ?_, ?_⟩
        · intro crossing hmem
          rcases List.mem_cons.mp hmem with rfl | hmem
          · exact hjudged
          · exact h.judged crossing hmem
        · refine List.isChain_cons.mpr ⟨?_, h.chained⟩
          intro older holder
          exact (h.current older holder).symm
        · intro crossing hmem
          cases hmem
          rfl

/-- **Each step keeps the trace.** -/
theorem Traced.next (h : Traced start course) {passing : Passing α}
    (hstep : course.step passing = some after) : Traced start after := by
  cases passing with
  | changed presentValue =>
      cases hstep
      exact ⟨h.healthy, h.highLimit, h.lowLimit, h.deadband, h.judged, h.chained, h.current⟩
  | ticked nowSeconds timestamp awaited =>
      cases hstep
      exact h.ticked nowSeconds timestamp awaited

/-- Between two transitions into a state there is one out of it. -/
theorem Traced.left_between (h : Traced start course) {state : EventState}
    {newer between older : List (Crossing α)} {entry again : Crossing α}
    (hcrossings : course.crossings = newer ++ again :: (between ++ entry :: older))
    (hentry : entry.toState = state) (hagain : again.toState = state) :
    ∃ leaving ∈ between, leaving.fromState = state := by
  have hchained := h.chained
  rw [hcrossings] at hchained
  have hlast : (again :: (between ++ entry :: older)).IsChain
      (fun newer older => newer.fromState = older.toState) :=
    hchained.right_of_append
  cases hbetween : between.getLast? with
  | none =>
      -- Next to each other, the later one would not have moved.
      have hempty : between = [] := List.getLast?_eq_none_iff.mp hbetween
      subst hempty
      have hfrom : again.fromState = entry.toState :=
        (List.isChain_cons.mp hlast).1 entry rfl
      have hmem : again ∈ course.crossings := by
        rw [hcrossings]
        exact List.mem_append_right _ List.mem_cons_self
      exact absurd (hfrom.trans (hentry.trans hagain.symm)) (h.judged again hmem).moved
  | some leaving =>
      have hsplit := List.dropLast_append_getLast? leaving hbetween
      refine ⟨leaving, List.mem_of_getLast? hbetween, ?_⟩
      rw [← hsplit, List.append_assoc, ← List.cons_append] at hlast
      have hnext := (List.isChain_cons_cons.mp hlast.right_of_append).1
      exact hnext.trans hentry

/-- **Every transition of every run of an object without a fault crosses a limit, or comes back
past it by the deadband.**  High-Limit is entered above its limit and left at or below it less the
deadband; Low-Limit is entered below its limit and left at or above it with the deadband, or
straight into High-Limit above that limit; and who enters one of them again has left it so in
between. -/
theorem limits_hysteresis (hhealthy : start.reliability = .noFaultDetected)
    {passings : List (Passing α)} (hrun : Machine.run step ⟨start, []⟩ passings = some course) :
    (∀ crossing ∈ course.crossings,
      crossing.Judged start.highLimit start.lowLimit start.deadband) ∧
    ∀ newer again between entry older,
      course.crossings = newer ++ again :: (between ++ entry :: older) →
      (entry.toState = .highLimit → again.toState = .highLimit →
        ∃ leaving ∈ between, ∀ limit, start.highLimit = some limit →
          leaving.value ≤ limit - start.deadband) ∧
      (entry.toState = .lowLimit → again.toState = .lowLimit →
        ∃ leaving ∈ between, ∀ limit, start.lowLimit = some limit →
          limit + start.deadband ≤ leaving.value
            ∨ ∃ high, start.highLimit = some high ∧ high < leaving.value) := by
  have htraced : Traced start course :=
    Machine.run_invariant (fun _ _ _ h hstep => h.next hstep) (traced_start hhealthy) hrun
  refine ⟨htraced.judged, ?_⟩
  intro newer again between entry older hcrossings
  have hmem {leaving : Crossing α} (hbetween : leaving ∈ between) : leaving ∈ course.crossings := by
    rw [hcrossings]
    exact List.mem_append_right _ (List.mem_cons_of_mem _ (List.mem_append_left _ hbetween))
  constructor
  · intro hentry hagain
    obtain ⟨leaving, hbetween, hfrom⟩ := htraced.left_between hcrossings hentry hagain
    exact ⟨leaving, hbetween, (htraced.judged leaving (hmem hbetween)).leavesHigh hfrom⟩
  · intro hentry hagain
    obtain ⟨leaving, hbetween, hfrom⟩ := htraced.left_between hcrossings hentry hagain
    refine ⟨leaving, hbetween, fun limit hlimit => ?_⟩
    rcases (htraced.judged leaving (hmem hbetween)).leavesLow hfrom limit hlimit with
      hback | ⟨-, hover⟩
    · exact .inl hback
    · exact .inr hover

/-- An object with the limits 10 and 5, and no time delay. -/
def banded (deadband : Int) : Level Int where
  presentValue := 7
  highLimit := some 10
  lowLimit := some 5
  deadband := deadband
  reliability := .noFaultDetected
  eventState := .normal
  alarm := some (.new 1)
  pending := none

/-- Over the limit, back by the deadband, and over again. -/
def overAndBack : List (Passing Int) :=
  [.changed 12, .ticked 0 (.sequenceNumber 0) false, .changed 9,
    .ticked 1 (.sequenceNumber 1) false, .changed 11, .ticked 2 (.sequenceNumber 2) false]

theorem limits_hysteresis_banded :
    ∃ course, Machine.run step ⟨banded 1, []⟩ overAndBack = some course ∧
      course.crossings.map Crossing.value = [11, 9, 12] ∧
      ∀ crossing ∈ course.crossings, crossing.Judged (some 10) (some 5) 1 := by
  have hvalues : (Machine.run step ⟨banded 1, []⟩ overAndBack).map
      (fun course => course.crossings.map Crossing.value) = some [11, 9, 12] := by decide
  obtain ⟨course, hrun, hcrossings⟩ := Option.map_eq_some_iff.mp hvalues
  exact ⟨course, hrun, hcrossings, (limits_hysteresis rfl hrun).1⟩

/-- Below the low limit, and then over the high one. -/
def belowAndOver : List (Passing Int) :=
  [.changed 3, .ticked 0 (.sequenceNumber 0) false, .changed 12,
    .ticked 1 (.sequenceNumber 1) false]

/-- **Low-Limit is left below its limit with the deadband**, for High-Limit, where the deadband is
wider than what is between the limits. -/
theorem low_left_for_high :
    (Machine.run step ⟨banded 20, []⟩ belowAndOver).map (fun course =>
        course.crossings.map (fun crossing =>
          (crossing.value, crossing.fromState, crossing.toState)))
      = some [(12, .lowLimit, .highLimit), (3, .normal, .lowLimit)] ∧
    ¬ ∀ (start : Level Int) passings course, start.reliability = .noFaultDetected →
        Machine.run step ⟨start, []⟩ passings = some course →
        ∀ crossing ∈ course.crossings, crossing.fromState = .lowLimit →
          ∀ limit, start.lowLimit = some limit → limit + start.deadband ≤ crossing.value := by
  refine ⟨by decide, fun hall => ?_⟩
  have hcrossings : (Machine.run step ⟨banded 20, []⟩ belowAndOver).map Course.crossings
      = some [⟨12, .lowLimit, .highLimit, .outOfRange 12 10 20⟩,
          ⟨3, .normal, .lowLimit, .outOfRange 3 5 20⟩] := by decide
  obtain ⟨course, hrun, hcourse⟩ := Option.map_eq_some_iff.mp hcrossings
  have hleft := hall (banded 20) belowAndOver course rfl hrun _
    (by rw [hcourse]; exact List.mem_cons_self) rfl 5 rfl
  exact absurd hleft (by decide)

end Course

end BacnetRs.Event
