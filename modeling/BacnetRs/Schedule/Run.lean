/-
  BacnetRs.Schedule.Run — runs of the schedule engine.

  A run is any order of operations and ticks, from a new engine and a Device
  object.  Its history is what was added and what the engine wrote.  Beside them
  a run keeps which objects are no longer what they were when the engine last
  drove them (`World.stale`); no step depends on it.

    * `World.step`         — a step, a tick being the engine's own.
    * `World.Undisturbed`  — the ticks at which a schedule that does not write was
                             left alone since it last did.
    * `step_tick`          — the steps of a tick, one schedule after another, make
                             up the tick.
-/
import BacnetRs.Library.Machine
import BacnetRs.Schedule.Engine

namespace BacnetRs.Scheduling

open BacnetRs.Encoding BacnetRs.Object BacnetRs.Property
open BacnetRs.Object.ObjectDatabase (Operation)

/-! ## §1. Runs and their history -/

/-- What is remembered of a run. -/
inductive Moment where
  | added (identifier : ObjectIdentifier)
  | wrote (write : ScheduledWrite)

/-- The value the engine last wrote for a schedule and a reference, since the object was
added.  The newest moment is the first. -/
def lastWrite (schedule : ObjectIdentifier) (target : ObjectPropertyReference) :
    List Moment → Option PropertyValue
  | [] => none
  | .added identifier :: past =>
      if identifier = schedule then none else lastWrite schedule target past
  | .wrote write :: past =>
      if write.schedule = schedule ∧ write.target = target then some write.value
      else lastWrite schedule target past

/-- An engine, the objects it drives and what there has been. -/
structure World where
  engine : ScheduleEngine
  database : ObjectDatabase
  /-- The newest first. -/
  history : List Moment
  /-- Objects that are not what they were when the engine last drove them: added since,
  parked on another value, or given another reference. -/
  stale : List ObjectIdentifier

/-- What happens. -/
inductive Happening where
  | operate (operation : Operation)
  | tick (date : DateValue) (time : TimeValue)

/-- What an operation adds. -/
def addedBy (database : ObjectDatabase) : Operation → Option ObjectIdentifier
  | .addObject object =>
      if (database.addObject object).2.isOk then some (BacnetObject.identifier object) else none
  | _ => none

/-- The references of a schedule; of another object, none. -/
def referencesAt (database : ObjectDatabase) (identifier : ObjectIdentifier) :
    List ObjectPropertyReference :=
  ((scheduleAt database identifier).map (fun s => s.listOfObjectPropertyReferences)).getD []

/-- Whether a write that was accepted parked its object or gave it another reference. -/
def disturbedBy (database : ObjectDatabase) (identifier : ObjectIdentifier)
    (property : PropertyIdentifier) (attempt : Attempt ObjectError ObjectDatabase) :
    Option ObjectIdentifier :=
  if attempt.2.isOk && (property == .presentValue
      || !(referencesAt attempt.1 identifier).all
        (fun target => (referencesAt database identifier).contains target)) then
    some identifier
  else none

/-- The object an operation leaves other than the engine drove it. -/
def disturbed (database : ObjectDatabase) : Operation → Option ObjectIdentifier
  | .addObject object => addedBy database (.addObject object)
  | .removeObject _ => none
  | .setProperty identifier property value =>
      disturbedBy database identifier property (database.setProperty identifier property value)
  | .setPropertyWithPriority identifier property value priority =>
      disturbedBy database identifier property
        (database.setPropertyWithPriority identifier property value priority)

namespace World

/-- A new engine, and the Device object. -/
def start (device : Device) : World := ⟨.new, .new device, [], []⟩

/-- An operation. -/
def operate (w : World) (operation : Operation) : World where
  engine := w.engine
  database := (operation.attempt w.database).1
  history := ((addedBy w.database operation).map Moment.added).toList ++ w.history
  stale := (disturbed w.database operation).toList ++ w.stale

/-- A write of the engine. -/
def write (w : World) (schedule : ObjectIdentifier) (value : PropertyValue) (priority : UInt8)
    (target : ObjectPropertyReference) : World :=
  let operation := Operation.setPropertyWithPriority target.objectIdentifier
    target.propertyIdentifier value (some priority)
  { w.operate operation with
    history := .wrote ⟨schedule, target, value, priority,
      (operation.attempt w.database).2.isOk⟩ :: w.history }

/-- A schedule takes a value, and from now on the engine drives it as it is. -/
def commit (w : World) (schedule : ObjectIdentifier) (value : PropertyValue) : World where
  engine := ⟨w.engine.primed.insert schedule⟩
  database := w.database.withObjectMut schedule (committing value)
  history := w.history
  stale := w.stale.filter (fun identifier => identifier ≠ schedule)

/-- One schedule is evaluated. -/
def evaluate (w : World) (date : DateValue) (time : TimeValue) (active : List ObjectIdentifier)
    (schedule : ObjectIdentifier) : World :=
  match w.engine.committed w.database schedule date time active with
  | none => w
  | some (value, targets, priority) =>
      targets.foldl (fun w target => w.write schedule value priority target)
        (w.commit schedule value)

/-- The calendars are refreshed. -/
def refresh (w : World) (date : DateValue) : World :=
  { w with database := (refreshCalendars w.database date).1 }

/-- Schedules in order, each evaluated. -/
def evaluateAll (date : DateValue) (time : TimeValue) (active : List ObjectIdentifier) (w : World)
    (schedules : List ObjectIdentifier) : World :=
  schedules.foldl (fun w schedule => w.evaluate date time active schedule) w

/-- The steps of a tick, one schedule after another. -/
def ticked (w : World) (date : DateValue) (time : TimeValue) : World :=
  evaluateAll date time (refreshCalendars w.database date).2 (w.refresh date)
    ((w.refresh date).database.getObjectsByType .schedule)

/-- The history with the writes of a tick. -/
def recorded (history : List Moment) (writes : List ScheduledWrite) : List Moment :=
  writes.foldl (fun history write => .wrote write :: history) history

/-- Anything may happen at any time. -/
def step (w : World) : Happening → Option World
  | .operate operation => some (w.operate operation)
  | .tick date time =>
      let (engine, database, writes) := w.engine.tick w.database date time
      some ⟨engine, database, recorded w.history writes, (w.ticked date time).stale⟩

/-! ## §2. The condition -/

/-- An evaluation of a schedule in service, after those of `evaluated`: what it writes goes
to no schedule that has been evaluated, and where it writes nothing its object is as the
engine left it. -/
def EvaluationOk (w : World) (date : DateValue) (time : TimeValue)
    (active evaluated : List ObjectIdentifier) (schedule : ObjectIdentifier) : Prop :=
  match w.engine.committed w.database schedule date time active with
  | some (_, targets, _) =>
      ∀ target ∈ targets, target.objectIdentifier ∉ schedule :: evaluated
  | none =>
      (scheduleAt w.database schedule).all (fun s => s.outOfService) = true
        ∨ schedule ∉ w.stale

instance (w : World) (date : DateValue) (time : TimeValue)
    (active evaluated : List ObjectIdentifier) (schedule : ObjectIdentifier) :
    Decidable (w.EvaluationOk date time active evaluated schedule) := by
  unfold EvaluationOk
  split <;> infer_instance

/-- Each of the evaluations, in order. -/
def EvaluationsOk (date : DateValue) (time : TimeValue) (active : List ObjectIdentifier) :
    World → List ObjectIdentifier → List ObjectIdentifier → Prop
  | _, _, [] => True
  | w, evaluated, schedule :: rest =>
      w.EvaluationOk date time active evaluated schedule
        ∧ EvaluationsOk date time active (w.evaluate date time active schedule)
            (schedule :: evaluated) rest

instance EvaluationsOk.decidable (date : DateValue) (time : TimeValue)
    (active : List ObjectIdentifier) : ∀ (schedules : List ObjectIdentifier) (w : World)
      (evaluated : List ObjectIdentifier),
      Decidable (EvaluationsOk date time active w evaluated schedules)
  | [], _, _ => .isTrue trivial
  | schedule :: rest, w, evaluated =>
      have := EvaluationsOk.decidable date time active rest
        (w.evaluate date time active schedule) (schedule :: evaluated)
      inferInstanceAs (Decidable (_ ∧ _))

/-- A tick at which what is not written is known already. -/
def Undisturbed (w : World) : Happening → Prop
  | .operate _ => True
  | .tick date time =>
      EvaluationsOk date time (refreshCalendars w.database date).2 (w.refresh date) []
        ((w.refresh date).database.getObjectsByType .schedule)

instance : ∀ (w : World) (happening : Happening), Decidable (w.Undisturbed happening)
  | _, .operate _ => .isTrue trivial
  | _, .tick _ _ => EvaluationsOk.decidable _ _ _ _ _ _

end World

/-! ## §3. The steps of a tick make up the tick -/

section Ticked

open World

variable {w : World} {schedule : ObjectIdentifier} {value : PropertyValue} {priority : UInt8}
  {date : DateValue} {time : TimeValue} {active : List ObjectIdentifier}

theorem recorded_append (history : List Moment) (writes more : List ScheduledWrite) :
    recorded history (writes ++ more) = recorded (recorded history writes) more :=
  List.foldl_append

/-- A world is where an engine has got to. -/
def At (w : World) (reached : ScheduleEngine × ObjectDatabase × List ScheduledWrite)
    (history : List Moment) : Prop :=
  w.engine = reached.1 ∧ w.database = reached.2.1 ∧ w.history = recorded history reached.2.2

theorem writes_at (targets : List ObjectPropertyReference) :
    At (targets.foldl (fun w target => w.write schedule value priority target) w)
      (w.engine, writeTargets schedule value priority w.database targets) w.history := by
  induction targets generalizing w with
  | nil => exact ⟨rfl, rfl, rfl⟩
  | cons target rest ih => exact @ih (w.write schedule value priority target)

theorem evaluate_at : At (w.evaluate date time active schedule)
    (w.engine.evaluateSchedule w.database schedule date time active) w.history := by
  unfold World.evaluate ScheduleEngine.evaluateSchedule
  cases w.engine.committed w.database schedule date time active with
  | none => exact ⟨rfl, rfl, rfl⟩
  | some committed =>
      obtain ⟨value, targets, priority⟩ := committed
      exact writes_at (w := w.commit schedule value) targets

theorem evaluateAll_at (schedules : List ObjectIdentifier) :
    At (evaluateAll date time active w schedules)
      (ScheduleEngine.evaluateAll date time active w.engine w.database schedules) w.history := by
  induction schedules generalizing w with
  | nil => exact ⟨rfl, rfl, rfl⟩
  | cons schedule rest ih =>
      obtain ⟨hengine, hdatabase, hhistory⟩ : At (w.evaluate date time active schedule)
          (w.engine.evaluateSchedule w.database schedule date time active) w.history :=
        evaluate_at
      have hrest := @ih (w.evaluate date time active schedule)
      rw [hengine, hdatabase, hhistory] at hrest
      exact ⟨hrest.1, hrest.2.1, hrest.2.2.trans (recorded_append _ _ _).symm⟩

/-- **The steps of a tick, one after another, make up the tick.** -/
theorem step_tick (w : World) (date : DateValue) (time : TimeValue) :
    w.step (.tick date time) = some (w.ticked date time) := by
  have hlisted : (w.refresh date).database.getObjectsByType .schedule
      = (refreshCalendars w.database date).1.getObjectsByType .schedule := rfl
  let active := (refreshCalendars w.database date).2
  let schedules := (w.refresh date).database.getObjectsByType .schedule
  obtain ⟨hengine, hdatabase, hhistory⟩ :
      At (evaluateAll date time active (w.refresh date) schedules)
        (ScheduleEngine.evaluateAll date time active w.engine (w.refresh date).database schedules)
        w.history :=
    evaluateAll_at schedules
  show some (World.mk (w.engine.tick w.database date time).1
    (w.engine.tick w.database date time).2.1
    (recorded w.history (w.engine.tick w.database date time).2.2) (w.ticked date time).stale) = _
  congr 1
  exact (World.mk.injEq ..).mpr ⟨hengine.symm, hdatabase.symm, hhistory.symm, rfl⟩

end Ticked

end BacnetRs.Scheduling
