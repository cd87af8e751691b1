/-
  BacnetRs.Object.Schedule — the Schedule object (`object/schedule.rs`).

  A schedule keeps seven days and a list of dated exceptions in storage of
  limited size.  What commands its targets is left out: the object itself is
  read and written like any other, and its Present_Value may be written while
  it is out of service.

    * `Schedule.setProperty_eq_ok_iff` — a successful write is one of the
                            updates of `Written`.
-/
import BacnetRs.Object.Trait

namespace BacnetRs.Object

open BacnetRs.Encoding BacnetRs.Property

/-! ## §1. What a schedule holds -/

/-- `ScheduleCapacity`; `none` is unlimited. -/
structure ScheduleCapacity where
  /-- Entries in Exception_Schedule. -/
  exceptions : Option Nat
  /-- Time/value pairs in one day, of the weekly schedule or of an exception. -/
  timeValuesPerDay : Option Nat
  deriving Repr, DecidableEq

abbrev DailySchedule := DailyScheduleValue PropertyValue
abbrev SpecialEvent := SpecialEventValue PropertyValue

/-- `Schedule`. -/
structure Schedule where
  identifier : ObjectIdentifier
  objectName : String
  description : String
  /-- The value the schedule currently commands. -/
  presentValue : PropertyValue
  /-- The value used when nothing else applies. -/
  scheduleDefault : PropertyValue
  effectivePeriod : DateRangeValue
  /-- One day per weekday, Monday first. -/
  weeklySchedule : Vector DailySchedule 7
  exceptionSchedule : List SpecialEvent
  listOfObjectPropertyReferences : List ObjectPropertyReference
  priorityForWriting : UInt8
  reliability : Reliability
  outOfService : Bool
  capacity : ScheduleCapacity

/-- `always`. -/
def always : DateRangeValue := ⟨(255, 255, 255, 255), (255, 255, 255, 255)⟩

/-- `Schedule::new`: always in effect, it commands nothing and drives no targets. -/
def Schedule.new (instanceNumber : UInt32) (objectName : String) : Schedule where
  identifier := ⟨.schedule, instanceNumber⟩
  objectName := objectName
  description := ""
  presentValue := .null
  scheduleDefault := .null
  effectivePeriod := always
  weeklySchedule := .replicate 7 ⟨[]⟩
  exceptionSchedule := []
  listOfObjectPropertyReferences := []
  priorityForWriting := 16
  reliability := .noFaultDetected
  outOfService := false
  capacity := ⟨none, none⟩

/-- `Schedule::with_default`. -/
def Schedule.withDefault (schedule : Schedule) (value : PropertyValue) : Schedule :=
  { schedule with presentValue := value, scheduleDefault := value }

/-! ## §2. What a write carries -/

/-- A date range, or the two dates as plain application values. -/
def expectPeriod (value : PropertyValue) : Except ObjectError DateRangeValue :=
  let twoDates (dates : List PropertyValue) :=
    match dates with
    | [.date start, .date end_] => .ok ⟨start, end_⟩
    | _ => .error (.invalidValue "Effective_Period must be two dates")
  match value with
  | .dateRange period => .ok period
  | .list dates => twoDates dates
  | .array dates => twoDates dates
  | _ => .error .invalidPropertyType

def expectDailySchedule : PropertyValue → Except ObjectError DailySchedule
  | .dailySchedule day => .ok day
  | _ => .error .invalidPropertyType

def expectSpecialEvent : PropertyValue → Except ObjectError SpecialEvent
  | .specialEvent event => .ok event
  | _ => .error .invalidPropertyType

def expectReference : PropertyValue → Except ObjectError ObjectPropertyReference
  | .objectPropertyReference reference => .ok reference
  | _ => .error .invalidPropertyType

def expectReferences : PropertyValue → Except ObjectError (List ObjectPropertyReference)
  | .list references => references.mapM expectReference
  | .array references => references.mapM expectReference
  | _ => .error .invalidPropertyType

def expectPriorityForWriting : PropertyValue → Except ObjectError UInt8
  | .unsigned priority =>
      if 1 ≤ priority.toNat ∧ priority.toNat ≤ 16 then .ok priority.toUInt8
      else .error (.invalidValue "Priority_For_Writing must be 1-16")
  | _ => .error .invalidPropertyType

namespace Schedule

/-- Whether a day has room. -/
def dayFits (self : Schedule) (timeValues : List (TimeValueValue PropertyValue)) :
    Except ObjectError Unit :=
  withinCapacity timeValues.length self.capacity.timeValuesPerDay

/-- The seven days a Weekly_Schedule write carries, if there is room for them. -/
def expectWeek (self : Schedule) (value : PropertyValue) :
    Except ObjectError (Vector DailySchedule 7) :=
  let store (days : List PropertyValue) :=
    if h : days.length = 7 then do
      let week ← collectExact expectDailySchedule days h
      week.toList.forM (fun day => self.dayFits day.timeValues)
      return week
    else
      .error (.invalidValue "Weekly_Schedule must have exactly 7 days")
  match value with
  | .array days => store days
  | .list days => store days
  | _ => .error .invalidPropertyType

/-- A priority that a written event may have. -/
def priorityInRange (event : SpecialEvent) : Bool :=
  1 ≤ event.priority.toNat && event.priority.toNat ≤ 16

/-- Whether the events may be stored.  A device may hold other priorities of its own
making; one written to it is 1-16. -/
def checkEvents (self : Schedule) (events : List SpecialEvent) : Except ObjectError Unit := do
  withinCapacity events.length self.capacity.exceptions
  match events.find? (fun event => !priorityInRange event) with
  | some event => throw (.invalidValue s!"event priority {event.priority} is not 1-16")
  | none => events.forM (fun event => self.dayFits event.timeValues)

/-- The events an Exception_Schedule write carries, if there is room for them. -/
def expectEvents (self : Schedule) (value : PropertyValue) :
    Except ObjectError (List SpecialEvent) :=
  let store (events : List PropertyValue) := do
    let events ← events.mapM expectSpecialEvent
    self.checkEvents events
    return events
  match value with
  | .array events => store events
  | .list events => store events
  | _ => .error .invalidPropertyType

/-! ## §3. Its properties -/

/-- `status_flags`. -/
def statusFlags (self : Schedule) : List Bool :=
  [false, self.reliability != .noFaultDetected, false, self.outOfService]

def getProperty (self : Schedule) (property : PropertyIdentifier) :
    Except ObjectError PropertyValue :=
  match property with
  | .objectIdentifier => .ok (.objectIdentifier self.identifier)
  | .objectName => .ok (.characterString self.objectName)
  | .objectType => .ok (.enumerated ObjectType.schedule.value)
  | .description => .ok (.characterString self.description)
  | .presentValue => .ok self.presentValue
  | .scheduleDefault => .ok self.scheduleDefault
  | .effectivePeriod => .ok (.dateRange self.effectivePeriod)
  | .weeklySchedule => .ok (.array (self.weeklySchedule.toList.map .dailySchedule))
  | .exceptionSchedule => .ok (.array (self.exceptionSchedule.map .specialEvent))
  | .listOfObjectPropertyReferences =>
      .ok (.list (self.listOfObjectPropertyReferences.map .objectPropertyReference))
  | .priorityForWriting => .ok (.unsigned self.priorityForWriting.toUInt64)
  | .statusFlags => .ok (.bitString self.statusFlags)
  | .reliability => .ok (.enumerated self.reliability.value)
  | .outOfService => .ok (.boolean self.outOfService)
  | _ => .error .unknownProperty

def setProperty (self : Schedule) (property : PropertyIdentifier) (value : PropertyValue) :
    Attempt ObjectError Schedule :=
  match property with
  | .objectName => .store self (fun name => { self with objectName := name }) (expectString value)
  | .description => .store self (fun text => { self with description := text }) (expectString value)
  -- Writable only while decoupled, so an operator can park the schedule on a value.
  | .presentValue =>
      if self.outOfService then .done { self with presentValue := value }
      else .refused self .writeAccessDenied
  | .scheduleDefault => .done { self with scheduleDefault := value }
  | .effectivePeriod =>
      .store self (fun period => { self with effectivePeriod := period }) (expectPeriod value)
  | .weeklySchedule =>
      .store self (fun week => { self with weeklySchedule := week }) (self.expectWeek value)
  | .exceptionSchedule =>
      .store self (fun events => { self with exceptionSchedule := events }) (self.expectEvents value)
  | .listOfObjectPropertyReferences =>
      .store self (fun references => { self with listOfObjectPropertyReferences := references })
        (expectReferences value)
  | .priorityForWriting =>
      .store self (fun priority => { self with priorityForWriting := priority })
        (expectPriorityForWriting value)
  | .outOfService =>
      .store self (fun flag => { self with outOfService := flag }) (expectBoolean value)
  | .reliability =>
      .store self (fun raw => { self with reliability := ⟨raw⟩ }) (expectEnumerated value)
  | _ => .refused self .propertyNotWritable

def isPropertyWritable (self : Schedule) (property : PropertyIdentifier) : Bool :=
  match property with
  | .presentValue => self.outOfService
  | property =>
      [PropertyIdentifier.objectName, .description, .scheduleDefault, .effectivePeriod,
        .weeklySchedule, .exceptionSchedule, .listOfObjectPropertyReferences,
        .priorityForWriting, .outOfService, .reliability].contains property

def propertyList (_self : Schedule) : List PropertyIdentifier :=
  [.objectIdentifier, .objectName, .objectType, .description, .presentValue, .effectivePeriod,
    .weeklySchedule, .exceptionSchedule, .scheduleDefault, .listOfObjectPropertyReferences,
    .priorityForWriting, .statusFlags, .reliability, .outOfService]

/-! ## §4. What the conversions accept -/

/-- A day has room for what is scheduled. -/
def DayFits (self : Schedule) (timeValues : List (TimeValueValue PropertyValue)) : Prop :=
  ∀ c, self.capacity.timeValuesPerDay = some c → timeValues.length ≤ c

theorem dayFits_eq_ok_iff {s : Schedule} {timeValues : List (TimeValueValue PropertyValue)} :
    s.dayFits timeValues = .ok () ↔ s.DayFits timeValues := withinCapacity_eq_ok_iff

theorem expectWeek_array_eq_ok_iff {s : Schedule} {values : List PropertyValue}
    {week : Vector DailySchedule 7} :
    s.expectWeek (.array values) = .ok week
      ↔ values = week.toList.map .dailySchedule ∧ ∀ day ∈ week.toList, s.DayFits day.timeValues := by
  have hday : ∀ x y, expectDailySchedule x = .ok y ↔ x = .dailySchedule y := by
    intro x y
    cases x <;> simp [expectDailySchedule]
  simp only [expectWeek]
  by_cases hlength : values.length = 7
  · rw [dif_pos hlength]
    show (collectExact expectDailySchedule values hlength >>= fun week =>
      week.toList.forM (fun day => s.dayFits day.timeValues) >>= fun _ => pure week)
        = .ok week ↔ _
    rw [checked_eq_ok_iff, collectExact_eq_ok_iff, mapM_eq_ok_iff hday]
    simp only [forM_eq_ok_iff, dayFits_eq_ok_iff]
  · rw [dif_neg hlength]
    constructor
    · intro h
      cases h
    · rintro ⟨rfl, _⟩
      exact absurd (by simp) hlength

/-- Events that may be stored. -/
def EventsFit (self : Schedule) (events : List SpecialEvent) : Prop :=
  (∀ c, self.capacity.exceptions = some c → events.length ≤ c)
    ∧ ∀ event ∈ events, priorityInRange event = true ∧ self.DayFits event.timeValues

theorem checkEvents_eq_ok_iff {s : Schedule} {events : List SpecialEvent} :
    s.checkEvents events = .ok () ↔ s.EventsFit events := by
  unfold checkEvents EventsFit
  rw [← withinCapacity_eq_ok_iff]
  cases withinCapacity events.length s.capacity.exceptions with
  | error e => simp [bind, Except.bind]
  | ok u =>
      show (match events.find? (fun event => !priorityInRange event) with
        | some event =>
            throw (ObjectError.invalidValue s!"event priority {event.priority} is not 1-16")
        | none => events.forM (fun event => s.dayFits event.timeValues)) = .ok () ↔ _
      cases hfind : events.find? (fun event => !priorityInRange event) with
      | some event =>
          have hmem := List.mem_of_find?_eq_some hfind
          have hrange : priorityInRange event = false := by
            simpa using List.find?_some hfind
          constructor
          · intro h
            cases h
          · rintro ⟨_, hall⟩
            rw [(hall event hmem).1] at hrange
            cases hrange
      | none =>
          have hrange : ∀ event ∈ events, priorityInRange event = true := by
            simpa using hfind
          simp only [forM_eq_ok_iff, dayFits_eq_ok_iff]
          constructor
          · intro h
            exact ⟨trivial, fun event hmem => ⟨hrange event hmem, h event hmem⟩⟩
          · rintro ⟨_, h⟩ event hmem
            exact (h event hmem).2

theorem expectEvents_array_eq_ok_iff {s : Schedule} {values : List PropertyValue}
    {events : List SpecialEvent} :
    s.expectEvents (.array values) = .ok events
      ↔ values = events.map .specialEvent ∧ s.EventsFit events := by
  have hevent : ∀ x y, expectSpecialEvent x = .ok y ↔ x = .specialEvent y := by
    intro x y
    cases x <;> simp [expectSpecialEvent]
  show (values.mapM expectSpecialEvent >>= fun events =>
    s.checkEvents events >>= fun _ => pure events) = .ok events ↔ _
  rw [checked_eq_ok_iff, mapM_eq_ok_iff hevent, checkEvents_eq_ok_iff]

theorem expectReferences_list_eq_ok_iff {values : List PropertyValue}
    {references : List ObjectPropertyReference} :
    expectReferences (.list values) = .ok references
      ↔ values = references.map .objectPropertyReference := by
  apply mapM_eq_ok_iff
  intro x y
  cases x <;> simp [expectReference]

theorem expectPriorityForWriting_eq_ok_iff {value : PropertyValue} {priority : UInt8} :
    expectPriorityForWriting value = .ok priority
      ↔ value = .unsigned priority.toUInt64 ∧ 1 ≤ priority.toNat ∧ priority.toNat ≤ 16 := by
  cases value with
  | unsigned raw =>
      simp only [expectPriorityForWriting, PropertyValue.unsigned.injEq]
      constructor
      · intro h
        split at h
        · next hrange =>
            cases h
            have hraw : raw.toUInt8.toNat = raw.toNat := by
              rw [UInt64.toNat_toUInt8]
              omega
            refine ⟨UInt64.toNat_inj.mp ?_, by omega, by omega⟩
            rw [UInt8.toNat_toUInt64, hraw]
        · cases h
      · rintro ⟨rfl, hrange⟩
        rw [UInt8.toNat_toUInt64, if_pos hrange]
        congr 1
        apply UInt8.toNat_inj.mp
        simp
  | _ => simp [expectPriorityForWriting]

/-! ## §5. Its laws -/

/-- What a write of a property of a schedule leaves. -/
inductive Written (s : Schedule) : PropertyIdentifier → PropertyValue → Schedule → Prop
  | objectName (name : String) :
      Written s .objectName (.characterString name) { s with objectName := name }
  | description (text : String) :
      Written s .description (.characterString text) { s with description := text }
  | presentValue (h : s.outOfService = true) (value : PropertyValue) :
      Written s .presentValue value { s with presentValue := value }
  | scheduleDefault (value : PropertyValue) :
      Written s .scheduleDefault value { s with scheduleDefault := value }
  | effectivePeriod {value : PropertyValue} {period : DateRangeValue}
      (h : expectPeriod value = .ok period) :
      Written s .effectivePeriod value { s with effectivePeriod := period }
  | weeklySchedule {value : PropertyValue} {week : Vector DailySchedule 7}
      (h : s.expectWeek value = .ok week) :
      Written s .weeklySchedule value { s with weeklySchedule := week }
  | exceptionSchedule {value : PropertyValue} {events : List SpecialEvent}
      (h : s.expectEvents value = .ok events) :
      Written s .exceptionSchedule value { s with exceptionSchedule := events }
  | references {value : PropertyValue} {references : List ObjectPropertyReference}
      (h : expectReferences value = .ok references) :
      Written s .listOfObjectPropertyReferences value
        { s with listOfObjectPropertyReferences := references }
  | priorityForWriting {value : PropertyValue} {priority : UInt8}
      (h : expectPriorityForWriting value = .ok priority) :
      Written s .priorityForWriting value { s with priorityForWriting := priority }
  | outOfService (flag : Bool) :
      Written s .outOfService (.boolean flag) { s with outOfService := flag }
  | reliability (raw : UInt32) :
      Written s .reliability (.enumerated raw) { s with reliability := ⟨raw⟩ }

/-- **A successful write of a schedule is one of the updates.** -/
theorem setProperty_eq_ok_iff {s s' : Schedule} {property : PropertyIdentifier}
    {value : PropertyValue} :
    s.setProperty property value = (s', .ok ()) ↔ s.Written property value s' := by
  constructor
  · intro h
    unfold setProperty at h
    split at h
    · obtain ⟨name, hname, rfl⟩ := Attempt.store_eq_ok_iff.mp h
      rw [expectString_eq_ok_iff.mp hname]
      exact .objectName name
    · obtain ⟨text, htext, rfl⟩ := Attempt.store_eq_ok_iff.mp h
      rw [expectString_eq_ok_iff.mp htext]
      exact .description text
    -- The present value is written only out of service.
    · split at h
      · next hout =>
          cases h
          exact .presentValue hout value
      · exact absurd h Attempt.refused_ne_ok
    · cases h
      exact .scheduleDefault value
    · obtain ⟨period, hperiod, rfl⟩ := Attempt.store_eq_ok_iff.mp h
      exact .effectivePeriod hperiod
    · obtain ⟨week, hweek, rfl⟩ := Attempt.store_eq_ok_iff.mp h
      exact .weeklySchedule hweek
    · obtain ⟨events, hevents, rfl⟩ := Attempt.store_eq_ok_iff.mp h
      exact .exceptionSchedule hevents
    · obtain ⟨references, hreferences, rfl⟩ := Attempt.store_eq_ok_iff.mp h
      exact .references hreferences
    · obtain ⟨priority, hpriority, rfl⟩ := Attempt.store_eq_ok_iff.mp h
      exact .priorityForWriting hpriority
    · obtain ⟨flag, hflag, rfl⟩ := Attempt.store_eq_ok_iff.mp h
      rw [expectBoolean_eq_ok_iff.mp hflag]
      exact .outOfService flag
    · obtain ⟨raw, hraw, rfl⟩ := Attempt.store_eq_ok_iff.mp h
      rw [expectEnumerated_eq_ok_iff.mp hraw]
      exact .reliability raw
    · exact absurd h Attempt.refused_ne_ok
  · intro h
    cases h with
    | presentValue hout value => exact if_pos hout
    | effectivePeriod h => exact Attempt.store_of_ok h
    | weeklySchedule h => exact Attempt.store_of_ok h
    | exceptionSchedule h => exact Attempt.store_of_ok h
    | references h => exact Attempt.store_of_ok h
    | priorityForWriting h => exact Attempt.store_of_ok h
    | objectName name => rfl
    | description text => rfl
    | scheduleDefault value => rfl
    | outOfService flag => rfl
    | reliability raw => rfl

instance : BacnetObject Schedule where
  identifier := Schedule.identifier
  getProperty := getProperty
  setProperty := setProperty
  isPropertyWritable := isPropertyWritable
  propertyList := propertyList

instance : Described Schedule where
  Fits := fun self property =>
    (property = .weeklySchedule → ∀ day ∈ self.weeklySchedule.toList, self.DayFits day.timeValues)
      ∧ (property = .exceptionSchedule → self.EventsFit self.exceptionSchedule)
      ∧ (property = .priorityForWriting →
          1 ≤ self.priorityForWriting.toNat ∧ self.priorityForWriting.toNat ≤ 16)

/-- **A schedule keeps the laws.** -/
instance : LawfulObject Schedule where
  setProperty_eq := rfl
  atomic := by
    intro o property value priority
    show (setProperty o property value).Atomic o
    unfold setProperty
    split
    all_goals first
      | exact Attempt.atomic_store o _ _
      | exact Attempt.atomic_refused o _
      | exact Attempt.atomic_done o _
      | skip
    split
    · exact Attempt.atomic_done o _
    · exact Attempt.atomic_refused o _
  readable_iff := by
    intro o property
    show (∃ v, getProperty o property = .ok v) ↔ property ∈ propertyList o ∨ _
    unfold getProperty propertyList
    split <;> simp_all [Unlisted, Described.analog]
  nodup := fun o => by
    show (propertyList o).Nodup
    unfold propertyList
    decide
  set_writable := by
    intro o o' property value priority h _
    show isPropertyWritable o property = true
    cases setProperty_eq_ok_iff.mp h with
    | presentValue hout value => exact hout
    | _ => rfl
  set_listed := by
    intro o o' property value priority h _ _
    show property ∈ propertyList o
    cases setProperty_eq_ok_iff.mp h <;> simp [propertyList]
  set_of_read := by
    intro o property value hwritable hread hrewritable
    obtain ⟨hweek, hevents, hpriority⟩ := hrewritable.fits
    by_cases hpv : property = .presentValue
    · subst hpv
      exact ⟨_, setProperty_eq_ok_iff.mpr (.presentValue hwritable value)⟩
    · have hproperty : property ∈ [PropertyIdentifier.objectName, .description, .scheduleDefault,
          .effectivePeriod, .weeklySchedule, .exceptionSchedule, .listOfObjectPropertyReferences,
          .priorityForWriting, .outOfService, .reliability] := by
        simpa [BacnetObject.isPropertyWritable, isPropertyWritable, hpv] using hwritable
      simp only [List.mem_cons, List.not_mem_nil, or_false] at hproperty
      rcases hproperty with rfl | rfl | rfl | rfl | rfl | rfl | rfl | rfl | rfl | rfl
      all_goals cases hread
      · exact ⟨_, setProperty_eq_ok_iff.mpr (.objectName o.objectName)⟩
      · exact ⟨_, setProperty_eq_ok_iff.mpr (.description o.description)⟩
      · exact ⟨_, setProperty_eq_ok_iff.mpr (.scheduleDefault o.scheduleDefault)⟩
      · exact ⟨_, setProperty_eq_ok_iff.mpr (.effectivePeriod rfl)⟩
      · exact ⟨_, setProperty_eq_ok_iff.mpr
          (.weeklySchedule (expectWeek_array_eq_ok_iff.mpr ⟨rfl, hweek rfl⟩))⟩
      · exact ⟨_, setProperty_eq_ok_iff.mpr
          (.exceptionSchedule (expectEvents_array_eq_ok_iff.mpr ⟨rfl, hevents rfl⟩))⟩
      · exact ⟨_, setProperty_eq_ok_iff.mpr (.references (expectReferences_list_eq_ok_iff.mpr rfl))⟩
      · exact ⟨_, setProperty_eq_ok_iff.mpr
          (.priorityForWriting (expectPriorityForWriting_eq_ok_iff.mpr ⟨rfl, hpriority rfl⟩))⟩
      · exact ⟨_, setProperty_eq_ok_iff.mpr (.outOfService o.outOfService)⟩
      · exact ⟨_, setProperty_eq_ok_iff.mpr (.reliability o.reliability.value)⟩
  readBack := by
    intro o o' property value h _ _ _ hvalue
    show getProperty o' property = .ok (asStored property value)
    cases setProperty_eq_ok_iff.mp h with
    | presentValue hout value => rw [asStored_of_ne (by simp) (by simp)]; rfl
    | scheduleDefault value => rw [asStored_of_ne (by simp) (by simp)]; rfl
    | effectivePeriod hperiod =>
        obtain ⟨range, rfl⟩ := hvalue.period rfl
        cases hperiod
        rfl
    | weeklySchedule hweek =>
        obtain ⟨values, rfl⟩ := hvalue.array (by simp)
        rw [(expectWeek_array_eq_ok_iff.mp hweek).1]
        rfl
    | exceptionSchedule hevents =>
        obtain ⟨values, rfl⟩ := hvalue.array (by simp)
        rw [(expectEvents_array_eq_ok_iff.mp hevents).1]
        rfl
    | references hreferences =>
        obtain ⟨values, rfl⟩ := hvalue.list (by simp)
        rw [expectReferences_list_eq_ok_iff.mp hreferences]
        rfl
    | priorityForWriting hpriority =>
        rw [(expectPriorityForWriting_eq_ok_iff.mp hpriority).1]
        rfl
    | _ => rfl
  frame := by
    intro o o' property value q h _ hq hcomputed
    show getProperty o' q = getProperty o q
    have hstatus : q = .statusFlags → property ≠ .reliability ∧ property ≠ .outOfService := by
      intro hflags
      constructor
      · rintro rfl
        exact hcomputed (.inl ⟨hflags, .inl rfl⟩)
      · rintro rfl
        exact hcomputed (.inl ⟨hflags, .inr rfl⟩)
    unfold getProperty
    cases setProperty_eq_ok_iff.mp h
    all_goals split
    all_goals first
      | rfl
      | exact absurd rfl hq
      | exact absurd rfl (hstatus rfl).1
      | exact absurd rfl (hstatus rfl).2

end Schedule

end BacnetRs.Object
