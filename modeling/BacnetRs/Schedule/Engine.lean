/-
  BacnetRs.Schedule.Engine — the schedule engine (`schedule/mod.rs`).

  A schedule decides what it commands (`Schedule.valueAt`); the engine decides
  when to ask.  A tick refreshes the calendars, then evaluates each schedule in
  the order they were added, and writes a value that differs from the schedule's
  Present_Value to the references of the schedule.  The first time it drives an
  identifier it writes in any case.

    * `ScheduleEngine.tick`  — one tick, with the writes it issued.
    * `mem_active_iff`       — the calendars a tick finds active are those that
                               cover its date.
-/
import BacnetRs.Object.Indices
import BacnetRs.Object.Timetable

namespace BacnetRs.Scheduling

open BacnetRs.Encoding BacnetRs.Object BacnetRs.Property

/-! ## §1. The engine -/

/-- `ScheduledWrite`: one write a schedule issued to a target. -/
structure ScheduledWrite where
  schedule : ObjectIdentifier
  target : ObjectPropertyReference
  value : PropertyValue
  priority : UInt8
  /-- Whether the database accepted the write. -/
  applied : Bool

/-- `ScheduleEngine`. -/
structure ScheduleEngine where
  /-- Schedules that have written to their targets at least once. -/
  primed : List ObjectIdentifier
  deriving Repr, DecidableEq

/-- `ScheduleEngine::new`. -/
def ScheduleEngine.new : ScheduleEngine := ⟨[]⟩

/-- `schedule_mut`. -/
def scheduleMut : HostedObject → Option Schedule
  | ⟨.schedule, schedule⟩ => some schedule
  | _ => none

/-- `calendar_mut`. -/
def calendarMut : HostedObject → Option Calendar
  | ⟨.calendar, calendar⟩ => some calendar
  | _ => none

/-- The schedule that `with_object_mut` reaches. -/
def scheduleAt (database : ObjectDatabase) (identifier : ObjectIdentifier) : Option Schedule :=
  (database.objects.lookup identifier).bind scheduleMut

/-- The calendar that `with_object_mut` reaches. -/
def calendarAt (database : ObjectDatabase) (identifier : ObjectIdentifier) : Option Calendar :=
  (database.objects.lookup identifier).bind calendarMut

/-- What a tick does to an object that is a calendar. -/
def refreshed (date : DateValue) : ∀ c : ObjectClass, c.State → c.State
  | .calendar, calendar => Calendar.refresh calendar date
  | _, state => state

/-- What a commit does to an object that is a schedule. -/
def committing (value : PropertyValue) : ∀ c : ObjectClass, c.State → c.State
  | .schedule, schedule => { (schedule : Schedule) with presentValue := value }
  | _, state => state

/-- The calendars in order, each refreshed, and those of them that cover `date`. -/
def refreshAll (date : DateValue) :
    ObjectDatabase → List ObjectIdentifier → ObjectDatabase × List ObjectIdentifier
  | database, [] => (database, [])
  | database, identifier :: rest =>
      let database := database.withObjectMut identifier (refreshed date)
      let (last, active) := refreshAll date database rest
      if (calendarAt database identifier).any (fun calendar => calendar.presentValue) then
        (last, identifier :: active)
      else (last, active)

/-- `refresh_calendars`. -/
def refreshCalendars (database : ObjectDatabase) (date : DateValue) :
    ObjectDatabase × List ObjectIdentifier :=
  refreshAll date database (database.getObjectsByType .calendar)

/-- Write `value` to each target in order. -/
def writeTargets (schedule : ObjectIdentifier) (value : PropertyValue) (priority : UInt8) :
    ObjectDatabase → List ObjectPropertyReference → ObjectDatabase × List ScheduledWrite
  | database, [] => (database, [])
  | database, target :: rest =>
      let attempt := database.setPropertyWithPriority target.objectIdentifier
        target.propertyIdentifier value (some priority)
      let (last, writes) := writeTargets schedule value priority attempt.1 rest
      (last, ⟨schedule, target, value, priority, attempt.2.isOk⟩ :: writes)

namespace ScheduleEngine

/-- What `evaluate_schedule` commits: the value, its targets and the priority for them. -/
def committed (self : ScheduleEngine) (database : ObjectDatabase) (identifier : ObjectIdentifier)
    (date : DateValue) (time : TimeValue) (active : List ObjectIdentifier) :
    Option (PropertyValue × List ObjectPropertyReference × UInt8) :=
  match scheduleAt database identifier with
  | none => none
  | some schedule =>
      if schedule.outOfService then none
      else
        let value := schedule.valueAt date time (fun calendar => active.contains calendar)
        -- Unchanged, and not the first time this identifier is driven.
        if value.eq schedule.presentValue && self.primed.contains identifier then none
        else some (value, schedule.listOfObjectPropertyReferences, schedule.priorityForWriting)

/-- `evaluate_schedule`: commit a new value and distribute it. -/
def evaluateSchedule (self : ScheduleEngine) (database : ObjectDatabase)
    (identifier : ObjectIdentifier) (date : DateValue) (time : TimeValue)
    (active : List ObjectIdentifier) : ScheduleEngine × ObjectDatabase × List ScheduledWrite :=
  match self.committed database identifier date time active with
  | none => (self, database, [])
  | some (value, targets, priority) =>
      let database := database.withObjectMut identifier (committing value)
      let (database, writes) := writeTargets identifier value priority database targets
      (⟨self.primed.insert identifier⟩, database, writes)

/-- The schedules in order, each evaluated. -/
def evaluateAll (date : DateValue) (time : TimeValue) (active : List ObjectIdentifier) :
    ScheduleEngine → ObjectDatabase → List ObjectIdentifier →
      ScheduleEngine × ObjectDatabase × List ScheduledWrite
  | self, database, [] => (self, database, [])
  | self, database, identifier :: rest =>
      let (self, database, writes) :=
        self.evaluateSchedule database identifier date time active
      let (self, database, more) := evaluateAll date time active self database rest
      (self, database, writes ++ more)

/-- `tick`. -/
def tick (self : ScheduleEngine) (database : ObjectDatabase) (date : DateValue)
    (time : TimeValue) : ScheduleEngine × ObjectDatabase × List ScheduledWrite :=
  let (database, active) := refreshCalendars database date
  evaluateAll date time active self database (database.getObjectsByType .schedule)

end ScheduleEngine

/-! ## §2. What a tick finds active -/

variable {database : ObjectDatabase} {identifier : ObjectIdentifier} {date : DateValue}

/-- Whether a hosted calendar covers the date. -/
def covered (database : ObjectDatabase) (date : DateValue) (identifier : ObjectIdentifier) : Bool :=
  (calendarAt database identifier).any (fun calendar => calendar.covers date)

theorem scheduleMut_eq_some_iff {object : HostedObject} {schedule : Schedule} :
    scheduleMut object = some schedule ↔ object = ⟨.schedule, schedule⟩ := by
  constructor
  · intro h
    unfold scheduleMut at h
    split at h
    · cases h
      rfl
    · cases h
  · rintro rfl
    rfl

theorem scheduleAt_eq_some_iff {schedule : Schedule} :
    scheduleAt database identifier = some schedule
      ↔ database.objects.lookup identifier = some ⟨.schedule, schedule⟩ := by
  unfold scheduleAt
  rw [Option.bind_eq_some_iff]
  simp only [scheduleMut_eq_some_iff, exists_eq_right]

/-- A change that leaves schedules alone. -/
theorem scheduleAt_withObjectMut {change : ∀ c : ObjectClass, c.State → c.State}
    (hchange : ∀ schedule, change .schedule schedule = schedule) (other : ObjectIdentifier) :
    scheduleAt (database.withObjectMut identifier change) other = scheduleAt database other := by
  have hobject : ∀ object : HostedObject,
      scheduleMut (object.withState (change object.cls object.state)) = scheduleMut object := by
    rintro ⟨cls, state⟩
    cases cls with
    | schedule => exact congrArg some (hchange state)
    | _ => rfl
  unfold scheduleAt
  rw [ObjectDatabase.lookup_withObjectMut]
  split
  · cases database.objects.lookup other with
    | none => rfl
    | some object => exact hobject object
  · rfl

theorem calendarAt_refreshed (other : ObjectIdentifier) :
    calendarAt (database.withObjectMut identifier (refreshed date)) other
      = if other = identifier then
          (calendarAt database other).map (fun calendar => calendar.refresh date)
        else calendarAt database other := by
  unfold calendarAt
  rw [ObjectDatabase.lookup_withObjectMut]
  split
  · cases database.objects.lookup other with
    | none => rfl
    | some object =>
        obtain ⟨cls, state⟩ := object
        cases cls <;> rfl
  · rfl

/-- Refreshing moves no date list. -/
theorem covered_refreshed (other : ObjectIdentifier) :
    covered (database.withObjectMut identifier (refreshed date)) date other
      = covered database date other := by
  unfold covered
  rw [calendarAt_refreshed]
  split
  · cases calendarAt database other <;> rfl
  · rfl

theorem any_presentValue_refreshed :
    (calendarAt (database.withObjectMut identifier (refreshed date)) identifier).any
        (fun calendar => calendar.presentValue) = covered database date identifier := by
  unfold covered
  rw [calendarAt_refreshed, if_pos rfl]
  cases calendarAt database identifier <;> rfl

theorem mem_refreshAll {identifiers : List ObjectIdentifier} :
    identifier ∈ (refreshAll date database identifiers).2
      ↔ identifier ∈ identifiers ∧ covered database date identifier = true := by
  induction identifiers generalizing database with
  | nil => simp [refreshAll]
  | cons first rest ih =>
      unfold refreshAll
      simp only [any_presentValue_refreshed]
      split
      · next hfirst =>
          rw [List.mem_cons, ih, covered_refreshed, List.mem_cons]
          constructor
          · rintro (rfl | ⟨hrest, hcovered⟩)
            · exact ⟨.inl rfl, hfirst⟩
            · exact ⟨.inr hrest, hcovered⟩
          · rintro ⟨rfl | hrest, hcovered⟩
            · exact .inl rfl
            · exact .inr ⟨hrest, hcovered⟩
      · next hfirst =>
          rw [ih, covered_refreshed, List.mem_cons]
          constructor
          · rintro ⟨hrest, hcovered⟩
            exact ⟨.inr hrest, hcovered⟩
          · rintro ⟨rfl | hrest, hcovered⟩
            · exact absurd hcovered hfirst
            · exact ⟨hrest, hcovered⟩

/-- **The calendars a tick finds active** are the hosted ones that cover its date. -/
theorem mem_active_iff (h : database.Indexed) :
    identifier ∈ (refreshCalendars database date).2
      ↔ identifier.objectType = .calendar ∧ covered database date identifier = true := by
  unfold refreshCalendars
  rw [mem_refreshAll, h.mem_iff]
  constructor
  · rintro ⟨⟨htype, _⟩, hcovered⟩
    exact ⟨htype, hcovered⟩
  · rintro ⟨htype, hcovered⟩
    refine ⟨⟨htype, ?_⟩, hcovered⟩
    -- What covers a date is there.
    unfold covered calendarAt at hcovered
    cases hobject : database.objects.lookup identifier with
    | some object => rfl
    | none =>
        rw [hobject] at hcovered
        cases hcovered

/-- What refreshing the calendars leaves alone. -/
structure Refreshed (before after : ObjectDatabase) : Prop where
  schedules : ∀ identifier, scheduleAt after identifier = scheduleAt before identifier
  listed : ∀ objectType, after.getObjectsByType objectType = before.getObjectsByType objectType
  indexed : before.Indexed → after.Indexed

theorem refreshAll_refreshed (identifiers : List ObjectIdentifier) :
    Refreshed database (refreshAll date database identifiers).1 := by
  induction identifiers generalizing database with
  | nil => exact ⟨fun _ => rfl, fun _ => rfl, id⟩
  | cons first rest ih =>
      have hfirst : (refreshAll date database (first :: rest)).1
          = (refreshAll date (database.withObjectMut first (refreshed date)) rest).1 := by
        simp only [refreshAll]
        split <;> rfl
      have hrest := @ih (database.withObjectMut first (refreshed date))
      rw [hfirst]
      refine ⟨fun identifier => ?_, fun objectType => hrest.listed objectType, fun h => ?_⟩
      · rw [hrest.schedules]
        exact scheduleAt_withObjectMut (fun _ => rfl) identifier
      · apply hrest.indexed
        exact h.withObjectMut (fun c state => by cases c <;> rfl)

theorem refreshCalendars_refreshed : Refreshed database (refreshCalendars database date).1 :=
  refreshAll_refreshed _

end BacnetRs.Scheduling
