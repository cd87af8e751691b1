/-
  BacnetRs.Event.Dwell — how long a demand has held when it is committed.

  The engine keeps, for each object that demands a state, when the demand began.
  The entry is started, turned to another state or dropped when the object is
  evaluated; an object that is not evaluated (its event detection is off, or it
  has been removed) leaves it as it was.  So a demand may lapse in between, and
  what is committed need not have been demanded all along.

  A run is any order of writes, configuration changes, additions, removals and
  ticks.  Its history (`Moment`) is what each tick found demanded, and what was
  removed:

    * `Unlapsed`             — the steps that leave no entry behind.
    * `Waiting.next`         — after such steps each entry's state has been
                               demanded, without a break, since the entry says.
    * `transitions_dwelled`  — so what a tick commits was demanded throughout its
                               dwell time.
    * `lapsed_transition`    — and without the condition it need not have been.
-/
import BacnetRs.Library.Machine
import BacnetRs.Library.Since
import BacnetRs.Event.Engine

namespace BacnetRs.Event

open BacnetRs.Encoding BacnetRs.Object BacnetRs.Property
open History

/-! ## §1. Runs and their history -/

/-- What is remembered of a run. -/
inductive Moment where
  /-- A tick, and the state each object demanded at it. -/
  | ticked (time : Nat) (demanded : ObjectIdentifier → Option EventState)
  | removed (identifier : ObjectIdentifier)

/-- Not after a time. -/
def Moment.NotAfter (now : Nat) : Moment → Prop
  | .ticked time _ => time ≤ now
  | .removed _ => True

/-- Before a time. -/
def Moment.Before (now : Nat) : Moment → Prop
  | .ticked time _ => time < now
  | .removed _ => True

instance (now : Nat) : DecidablePred (Moment.NotAfter now)
  | .ticked time _ => inferInstanceAs (Decidable (time ≤ now))
  | .removed _ => .isTrue trivial

instance (now : Nat) : DecidablePred (Moment.Before now)
  | .ticked time _ => inferInstanceAs (Decidable (time < now))
  | .removed _ => .isTrue trivial

/-- The object is there, and at a tick it demands the state. -/
def Moment.Demands (identifier : ObjectIdentifier) (state : EventState) : Moment → Prop
  | .ticked _ demanded => demanded identifier = some state
  | .removed other => other ≠ identifier

/-- The state an object demands: what its algorithm wants, when that is not its Event_State. -/
def demandedAt (database : ObjectDatabase) (identifier : ObjectIdentifier) : Option EventState :=
  ((database.objects.lookup identifier).bind demand).map
    (fun seen => seen.evaluation.desiredState)

/-- An engine, the objects it watches and what there has been. -/
structure World where
  engine : EventEngine
  database : ObjectDatabase
  /-- The newest first. -/
  history : List Moment

/-- What happens. -/
inductive Happening where
  | operate (operation : ObjectDatabase.Operation)
  /-- The application changes an object. -/
  | configure (identifier : ObjectIdentifier) (change : ∀ c : ObjectClass, c.State → c.State)
  | tick (nowSeconds : Nat) (timestamp : TimestampValue)

/-- What an operation removes. -/
def removedBy (database : ObjectDatabase) : ObjectDatabase.Operation → Option ObjectIdentifier
  | .removeObject identifier =>
      match (database.removeObject identifier).2 with
      | .ok () => some identifier
      | .error _ => none
  | _ => none

namespace World

/-- A new engine. -/
def start (deviceInstance : UInt32) (database : ObjectDatabase) : World :=
  ⟨.new deviceInstance, database, []⟩

/-- Time does not run backwards; anything else may happen at any time. -/
def step (w : World) : Happening → Option World
  | .operate operation => some { w with
      database := (operation.attempt w.database).1
      history := ((removedBy w.database operation).map Moment.removed).toList ++ w.history }
  | .configure identifier change =>
      some { w with database := w.database.withObjectMut identifier change }
  | .tick nowSeconds timestamp =>
      if ∀ moment ∈ w.history, moment.NotAfter nowSeconds then
        let (engine, database, _) := w.engine.tick w.database nowSeconds timestamp
        some ⟨engine, database, .ticked nowSeconds (demandedAt w.database) :: w.history⟩
      else none

/-- A demand the engine has no entry for. -/
def Begins (w : World) (identifier : ObjectIdentifier) : Prop :=
  (demandedAt w.database identifier).isSome = true
    ∧ (w.engine.pending.lookup identifier).map Pending.target ≠ demandedAt w.database identifier

instance (w : World) (identifier : ObjectIdentifier) : Decidable (w.Begins identifier) :=
  inferInstanceAs (Decidable (_ ∧ _))

/-- No entry is left behind: what waits is not removed and is evaluated at each tick, and
what begins does so in a second that no earlier tick was in. -/
def Unlapsed (w : World) : Happening → Prop
  | .operate (.removeObject identifier) => w.engine.pending.lookup identifier = none
  | .operate _ => True
  | .configure _ _ => True
  | .tick nowSeconds _ =>
      (∀ identifier ∈ w.engine.pending.keys,
          ((w.database.objects.lookup identifier).bind observe).isSome = true)
        ∧ ∀ identifier ∈ w.database.objects.keys, w.Begins identifier →
            ∀ moment ∈ w.history, moment.Before nowSeconds

instance : ∀ (w : World) (happening : Happening), Decidable (w.Unlapsed happening)
  | w, .operate (.removeObject identifier) =>
      inferInstanceAs (Decidable (w.engine.pending.lookup identifier = none))
  | _, .operate (.addObject _) => .isTrue trivial
  | _, .operate (.setProperty _ _ _) => .isTrue trivial
  | _, .operate (.setPropertyWithPriority _ _ _ _) => .isTrue trivial
  | _, .configure _ _ => .isTrue trivial
  | _, .tick _ _ => inferInstanceAs (Decidable (_ ∧ _))

/-- A step, with the objects of a tick sorted by insertion. -/
def sortedStep (w : World) : Happening → Option World
  | .tick nowSeconds timestamp =>
      if ∀ moment ∈ w.history, moment.NotAfter nowSeconds then
        let (engine, database, _) := w.engine.sortedTick w.database nowSeconds timestamp
        some ⟨engine, database, .ticked nowSeconds (demandedAt w.database) :: w.history⟩
      else none
  | happening => w.step happening

theorem step_eq_sortedStep : step = sortedStep := by
  funext w happening
  cases happening with
  | tick nowSeconds timestamp =>
      unfold step sortedStep
      rw [EventEngine.tick_eq_sortedTick]
  | _ => rfl

end World

/-! ## §2. What each entry says -/

/-- A tick at a time, later than those before it, at which the object demanded the state. -/
def BeganAt (identifier : ObjectIdentifier) (state : EventState) (time : Nat) (moment : Moment)
    (past : List Moment) : Prop :=
  (∃ demanded, moment = .ticked time demanded ∧ demanded identifier = some state)
    ∧ ∀ m ∈ past, m.Before time

/-- The object has demanded the state since a time. -/
abbrev DemandedSince (identifier : ObjectIdentifier) (state : EventState) (time : Nat) :
    List Moment → Prop :=
  Since (Moment.Demands identifier state) (BeganAt identifier state time)

/-- Each entry is right about its object. -/
def Waiting (w : World) : Prop :=
  ∀ identifier pending, w.engine.pending.lookup identifier = some pending →
    DemandedSince identifier pending.target pending.since w.history

/-- A transition to a state at a time came after its dwell time. -/
structure Dwelled (history : List Moment) (identifier : ObjectIdentifier) (state : EventState)
    (time dwell : Nat) : Prop where
  /-- The demand began at some tick that far back, and has not lapsed. -/
  begun : Since (Moment.Demands identifier state)
    (fun moment _ => ∃ since demanded, moment = .ticked since demanded
      ∧ demanded identifier = some state ∧ since + dwell ≤ time) history
  /-- Every tick of the dwell time found the state demanded. -/
  throughout : ∀ t demanded, .ticked t demanded ∈ history → time ≤ t + dwell →
    demanded identifier = some state

variable {history : List Moment} {identifier : ObjectIdentifier} {state : EventState}
  {time dwell : Nat}

/-- A demand that began before the dwell time did is one that dwelled. -/
theorem DemandedSince.dwelled (h : DemandedSince identifier state time history) {now : Nat}
    (hdwell : time + dwell ≤ now) : Dwelled history identifier state now dwell := by
  constructor
  · refine h.mono (fun _ hm => hm) ?_
    rintro moment past ⟨⟨demanded, hmoment, hdemanded⟩, _⟩
    exact ⟨time, demanded, hmoment, hdemanded, hdwell⟩
  · intro t demanded hmem hlate
    have hall : ∀ m ∈ history, ∀ t demanded, m = .ticked t demanded → now ≤ t + dwell →
        demanded identifier = some state := by
      refine h.of_forall (R := fun m => ∀ t demanded, m = .ticked t demanded → now ≤ t + dwell →
        demanded identifier = some state) ?_ ?_
      · rintro m hm t demanded rfl _
        exact hm
      · rintro m past ⟨⟨began, rfl, hbegan⟩, hpast⟩ m hm t demanded rfl hlate
        rcases List.mem_cons.mp hm with heq | hm
        · cases heq
          exact hbegan
        · -- An earlier tick is out of the dwell time.
          have hearlier : t < time := hpast _ hm
          omega
    exact hall _ hmem t demanded rfl hlate

/-- The demand is not from the future. -/
theorem DemandedSince.notAfter (h : DemandedSince identifier state time history) {now : Nat}
    (hnow : ∀ m ∈ history, m.NotAfter now) : time ≤ now := by
  obtain ⟨after, moment, past, rfl, ⟨⟨demanded, rfl, _⟩, _⟩, _⟩ := since_iff_split.mp h
  exact hnow (.ticked time demanded) (List.mem_append_right _ List.mem_cons_self)

theorem demandedAt_of_lookup {database : ObjectDatabase} {object : HostedObject}
    (h : database.objects.lookup identifier = some object) :
    demandedAt database identifier
      = (demand object).map (fun seen => seen.evaluation.desiredState) := by
  unfold demandedAt
  rw [h]
  rfl

/-! ## §3. Steps -/

section Steps

variable {w w' : World} {object : HostedObject} {seen : Observation} {nowSeconds : Nat}
  {timestamp : TimestampValue}

/-- What a tick that is taken does. -/
theorem World.step_tick (h : w.step (.tick nowSeconds timestamp) = some w') :
    (∀ moment ∈ w.history, moment.NotAfter nowSeconds)
      ∧ w'.engine = (w.engine.tick w.database nowSeconds timestamp).1
      ∧ w'.database = (w.engine.tick w.database nowSeconds timestamp).2.1
      ∧ w'.history = .ticked nowSeconds (demandedAt w.database) :: w.history := by
  unfold World.step at h
  simp only at h
  split at h
  · next hclock =>
      cases h
      exact ⟨hclock, rfl, rfl, rfl⟩
  · cases h

/-- **An object's demand at a tick**, with when the engine says it began. -/
theorem Waiting.demanded (h : Waiting w) (hok : w.Unlapsed (.tick nowSeconds timestamp))
    (hobject : w.database.objects.lookup identifier = some object)
    (hdemand : demand object = some seen) :
    DemandedSince identifier seen.evaluation.desiredState
      (heldSince (w.engine.pending.lookup identifier) seen.evaluation.desiredState nowSeconds)
      (.ticked nowSeconds (demandedAt w.database) :: w.history) := by
  have hdemanded : demandedAt w.database identifier = some seen.evaluation.desiredState := by
    rw [demandedAt_of_lookup hobject, hdemand]
    rfl
  by_cases hcontinues : (w.engine.pending.lookup identifier).map Pending.target
      = some seen.evaluation.desiredState
  · -- The entry goes on: it was right, and the state is demanded again.
    obtain ⟨pending, hpending, htarget⟩ := Option.map_eq_some_iff.mp hcontinues
    have hsince := h identifier pending hpending
    rw [htarget] at hsince
    have hheld : heldSince (some pending) seen.evaluation.desiredState nowSeconds
        = pending.since := if_pos htarget
    rw [hpending, hheld]
    exact .later hdemanded hsince
  · -- It begins here, after every tick there was.
    have hheld : heldSince (w.engine.pending.lookup identifier) seen.evaluation.desiredState
        nowSeconds = nowSeconds := by
      unfold heldSince
      split
      · next pending hpending =>
          rw [hpending] at hcontinues
          exact if_neg (fun heq => hcontinues (congrArg some heq))
      · rfl
    have hkey : identifier ∈ w.database.objects.keys := by
      rw [← AList.mem_keys, ← AList.lookup_isSome, hobject]
      rfl
    have hbegins : w.Begins identifier := by
      refine ⟨by rw [hdemanded]; rfl, ?_⟩
      rw [hdemanded]
      exact hcontinues
    rw [hheld]
    exact .here ⟨⟨_, rfl, hdemanded⟩, hok.2 identifier hkey hbegins⟩

/-- What a run does between ticks leaves the entries right. -/
theorem Waiting.operate (h : Waiting w) {operation : ObjectDatabase.Operation}
    (hok : w.Unlapsed (.operate operation)) (hstep : w.step (.operate operation) = some w') :
    Waiting w' := by
  cases hstep
  intro identifier pending hpending
  have hsince := h identifier pending hpending
  show DemandedSince _ _ _ (((removedBy w.database operation).map Moment.removed).toList ++ _)
  cases hremoved : removedBy w.database operation with
  | none => exact hsince
  | some other =>
      refine .later ?_ hsince
      rintro rfl
      -- What was removed had no entry.
      have hnone : w.engine.pending.lookup other = none := by
        unfold removedBy at hremoved
        split at hremoved
        · split at hremoved
          · cases hremoved
            exact hok
          · cases hremoved
        · cases hremoved
      have hsome : w.engine.pending.lookup other = some pending := hpending
      rw [hnone] at hsome
      cases hsome

/-- A tick leaves the entries right. -/
theorem Waiting.tick (h : Waiting w) (hok : w.Unlapsed (.tick nowSeconds timestamp))
    (hstep : w.step (.tick nowSeconds timestamp) = some w') : Waiting w' := by
  obtain ⟨_, hengine, _, hhistory⟩ := World.step_tick hstep
  intro identifier pending hpending
  rw [hengine, EventEngine.pending_tick] at hpending
  rw [hhistory]
  -- What was waiting is evaluated.
  have hobserved : ∀ p, w.engine.pending.lookup identifier = some p →
      ((w.database.objects.lookup identifier).bind observe).isSome = true := by
    intro p hp
    apply hok.1
    rw [← AList.mem_keys, ← AList.lookup_isSome, hp]
    rfl
  cases hobject : w.database.objects.lookup identifier with
  | none =>
      rw [hobject] at hpending hobserved
      exact absurd (hobserved pending hpending) (by simp)
  | some object =>
      rw [hobject] at hpending hobserved
      simp only at hpending
      unfold waiting at hpending
      cases hobserve : observe object with
      | none =>
          rw [hobserve] at hpending
          have hnone := hobserved pending hpending
          rw [Option.bind_some, hobserve] at hnone
          cases hnone
      | some _ =>
          rw [hobserve] at hpending
          simp only at hpending
          split at hpending
          · cases hpending
          · next seen hdemand =>
              split at hpending
              · cases hpending
              · cases hpending
                exact h.demanded hok hobject hdemand

/-- **Each entry stays right**, as long as none is left behind. -/
theorem Waiting.next (happening : Happening) (hok : w.Unlapsed happening) (h : Waiting w)
    (hstep : w.step happening = some w') : Waiting w' := by
  cases happening with
  | operate operation => exact h.operate hok hstep
  | configure identifier change =>
      cases hstep
      exact h
  | tick nowSeconds timestamp => exact h.tick hok hstep

/-- A transition that is committed is one that was due. -/
theorem currentStateOf_transitioned {database : ObjectDatabase} {pending : Option Pending} :
    currentStateOf (transitioned database pending nowSeconds timestamp object)
      = match due pending nowSeconds object with
        | some seen => seen.evaluation.desiredState
        | none => currentStateOf object := by
  unfold transitioned
  cases hdue : due pending nowSeconds object with
  | none => rfl
  | some seen =>
      obtain ⟨r, hr, _⟩ := observe_intrinsic (demand_eq_some.mp (due_eq_some.mp hdue).1).1
      have hread : ∀ r', currentStateOf (BacnetObject.setIntrinsic
          (AlarmCapable.applyEventState object seen.evaluation.desiredState) r')
          = seen.evaluation.desiredState := by
        intro r'
        unfold currentStateOf
        rw [LawfulAlarm.eventState hr]
        simp
      simp only
      split
      · rw [awaitAcknowledgement_commitTransition hr]
        exact hread _
      · rw [commitTransition_eq hr]
        exact hread _

end Steps

/-! ## §4. Every run -/

/-- **What a tick commits was demanded throughout its dwell time**, in a run that leaves no
entry behind. -/
theorem transitions_dwelled {deviceInstance : UInt32} {database : ObjectDatabase}
    {happenings : List Happening} {w w' : World} {nowSeconds : Nat} {timestamp : TimestampValue}
    (hrun : Machine.run World.step (.start deviceInstance database) happenings = some w)
    (htick : w.step (.tick nowSeconds timestamp) = some w')
    (hok : Machine.Throughout World.step World.Unlapsed (.start deviceInstance database)
      (happenings ++ [.tick nowSeconds timestamp]))
    {object object' : HostedObject} (hobject : w.database.objects.lookup identifier = some object)
    (hobject' : w'.database.objects.lookup identifier = some object')
    (hcommitted : currentStateOf object' ≠ currentStateOf object) :
    ∃ r, BacnetObject.intrinsic object = some r
      ∧ Dwelled w'.history identifier (currentStateOf object') nowSeconds
          (r.dwellFor (currentStateOf object')).toNat := by
  obtain ⟨hbefore, hlast⟩ := Machine.throughout_append.mp hok
  have hstart : Waiting (.start deviceInstance database) := by
    intro identifier pending h
    simp [World.start, EventEngine.new] at h
  have hwaiting := Machine.run_invariant_throughout
    (fun _ happening _ hok h hstep => Waiting.next happening hok h hstep) hbefore hstart hrun
  obtain ⟨hclock, _, hdatabase, hhistory⟩ := World.step_tick htick
  rw [hdatabase, EventEngine.lookup_tick, hobject] at hobject'
  cases hobject'
  -- Only a transition that was due changes the state.
  rw [currentStateOf_transitioned] at hcommitted ⊢
  cases hdue : due (w.engine.pending.lookup identifier) nowSeconds object with
  | none =>
      rw [hdue] at hcommitted
      exact absurd rfl hcommitted
  | some seen =>
      obtain ⟨hdemand, helapsed⟩ := due_eq_some.mp hdue
      obtain ⟨r, hr, hdwell⟩ := observe_dwell (demand_eq_some.mp hdemand).1
      -- The engine has waited since the state was first seen, and no reading spoke against it.
      have hsince := hwaiting.demanded (hlast w hrun).1 hobject hdemand
      have hnotAfter := hsince.notAfter (List.forall_mem_cons.mpr ⟨Nat.le_refl _, hclock⟩)
      refine ⟨r, hr, ?_⟩
      rw [hhistory]
      apply hsince.dwelled
      rw [← hdwell]
      omega

/-- A small device, with a value that is out of service and at fault, and reports that after
ten seconds. -/
def faultReporter : ObjectDatabase :=
  (ObjectDatabase.new (.new 1 "Device")).perform
    [.addObject ⟨.analogValue, (AnalogValue.new 1 "Level").withIntrinsicReporting 1⟩,
      .setProperty ⟨.analogValue, 1⟩ .timeDelay (.unsigned 10),
      .setProperty ⟨.analogValue, 1⟩ .outOfService (.boolean true),
      .setProperty ⟨.analogValue, 1⟩ .reliability (.enumerated 1)]

/-- A run of `faultReporter`, and a tick after it that commits a transition of its value. -/
structure Commits (happenings : List Happening) (nowSeconds : Nat) (w w' : World)
    (object object' : HostedObject) : Prop where
  run : Machine.run World.step (.start 1 faultReporter) happenings = some w
  tick : w.step (.tick nowSeconds (.sequenceNumber 1)) = some w'
  before : w.database.objects.lookup ⟨.analogValue, 1⟩ = some object
  after : w'.database.objects.lookup ⟨.analogValue, 1⟩ = some object'
  committed : currentStateOf object' ≠ currentStateOf object

/-- Such a run is found by running it. -/
theorem exists_commits (happenings : List Happening) (nowSeconds : Nat)
    (check : World → HostedObject → HostedObject → Bool)
    (h : ((Machine.run World.sortedStep (.start 1 faultReporter) happenings).bind (fun w =>
      (w.sortedStep (.tick nowSeconds (.sequenceNumber 1))).bind (fun w' =>
        (w.database.objects.lookup ⟨.analogValue, 1⟩).bind (fun object =>
          (w'.database.objects.lookup ⟨.analogValue, 1⟩).map (fun object' =>
            decide (currentStateOf object' ≠ currentStateOf object) && check w' object object')))))
      = some true) :
    ∃ w w' object object', Commits happenings nowSeconds w w' object object'
      ∧ check w' object object' = true := by
  rw [← World.step_eq_sortedStep] at h
  obtain ⟨w, hrun, h⟩ := Option.bind_eq_some_iff.mp h
  obtain ⟨w', htick, h⟩ := Option.bind_eq_some_iff.mp h
  obtain ⟨object, hobject, h⟩ := Option.bind_eq_some_iff.mp h
  obtain ⟨object', hobject', h⟩ := Option.map_eq_some_iff.mp h
  obtain ⟨hcommitted, hcheck⟩ := Bool.and_eq_true_iff.mp h
  exact ⟨w, w', object, object', ⟨hrun, htick, hobject, hobject', of_decide_eq_true hcommitted⟩,
    hcheck⟩

/-- A fault that lasts from one tick to another, ten seconds later. -/
theorem transitions_dwelled_fault : ∃ w w' object object' r,
    Commits [.tick 0 (.sequenceNumber 0)] 10 w w' object object'
      ∧ BacnetObject.intrinsic object = some r
      ∧ Dwelled w'.history ⟨.analogValue, 1⟩ (currentStateOf object') 10
          (r.dwellFor (currentStateOf object')).toNat := by
  obtain ⟨w, w', object, object', h, _⟩ :=
    exists_commits [.tick 0 (.sequenceNumber 0)] 10 (fun _ _ _ => true) (by decide +kernel)
  have hok : Machine.Throughout World.step World.Unlapsed (.start 1 faultReporter)
      ([.tick 0 (.sequenceNumber 0)] ++ [.tick 10 (.sequenceNumber 1)]) := by
    rw [World.step_eq_sortedStep]
    decide +kernel
  obtain ⟨r, hr, hdwelled⟩ :=
    transitions_dwelled h.run h.tick hok h.before h.after h.committed
  exact ⟨w, w', object, object', r, h, hr, hdwelled⟩

/-- A tick of a dwell time that found another state demanded, or none. -/
def Moment.breaks (identifier : ObjectIdentifier) (state : EventState) (time dwell : Nat) :
    Moment → Bool
  | .ticked t demanded => decide (time ≤ t + dwell ∧ demanded identifier ≠ some state)
  | .removed _ => false

theorem not_dwelled_of_breaks (h : history.any (Moment.breaks identifier state time dwell) = true) :
    ¬ Dwelled history identifier state time dwell := by
  intro hdwelled
  obtain ⟨moment, hmem, hbreaks⟩ := List.any_eq_true.mp h
  cases moment with
  | ticked t demanded =>
      obtain ⟨hlate, hother⟩ := of_decide_eq_true hbreaks
      exact hother (hdwelled.throughout t demanded hmem hlate)
  | removed other => cases hbreaks

/-- Event detection is off for a while, with a tick in it. -/
def lapse : List Happening :=
  [.tick 0 (.sequenceNumber 0),
    .operate (.setProperty ⟨.analogValue, 1⟩ .eventDetectionEnable (.boolean false)),
    .tick 5 (.sequenceNumber 0),
    .operate (.setProperty ⟨.analogValue, 1⟩ .eventDetectionEnable (.boolean true))]

/-- **A demand that lapsed is committed**: nothing is demanded at the tick in between, and the
next commits the fault as if it had been there all along. -/
theorem lapsed_transition : ∃ w w' object object' r,
    Commits lapse 10 w w' object object'
      ∧ BacnetObject.intrinsic object = some r
      ∧ ¬ Dwelled w'.history ⟨.analogValue, 1⟩ (currentStateOf object') 10
          (r.dwellFor (currentStateOf object')).toNat := by
  obtain ⟨w, w', object, object', h, hcheck⟩ := exists_commits lapse 10
    (fun w' object object' => (BacnetObject.intrinsic object).any (fun r =>
      w'.history.any (Moment.breaks ⟨.analogValue, 1⟩ (currentStateOf object') 10
        (r.dwellFor (currentStateOf object')).toNat))) (by decide +kernel)
  obtain ⟨r, hr, hbreaks⟩ := (Option.any_eq_true _ _).mp hcheck
  exact ⟨w, w', object, object', r, h, hr, not_dwelled_of_breaks hbreaks⟩

end BacnetRs.Event
