/-
  BacnetRs.Object.Timetable — what a schedule commands, and when
  (`object/schedule.rs`, `object/calendar.rs`).

  Three sources are consulted in order: the exceptions that cover the date, the
  day of the week, and the default.  Outside its effective period a schedule
  does nothing but report its default.  Neither object reads a clock.
-/
import Mathlib.Data.List.Sort
import BacnetRs.Object.Calendar
import BacnetRs.Object.Schedule
import BacnetRs.Property.Recurrence

namespace BacnetRs.Object

open BacnetRs.Encoding BacnetRs.Property

/-! ## §1. Calendars -/

/-- `Calendar::covers`. -/
def Calendar.covers (self : Calendar) (date : DateValue) : Bool :=
  self.dateList.any (fun entry => entry.covers date)

/-- `Calendar::refresh`: recompute Present_Value for `date`. -/
def Calendar.refresh (self : Calendar) (date : DateValue) : Calendar :=
  { self with presentValue := self.covers date }

/-! ## §2. Times of day -/

/-- `<=` on times: by hour, then minute, then second, then hundredth. -/
def timeLe (x y : TimeValue) : Bool :=
  x.1 < y.1 || (x.1 == y.1
    && (x.2.1 < y.2.1 || (x.2.1 == y.2.1
      && (x.2.2.1 < y.2.2.1 || (x.2.2.1 == y.2.2.1 && x.2.2.2 ≤ y.2.2.2)))))

/-- `max_by_key` of the time: of entries at the same time, the last. -/
def latest : List (TimeValueValue PropertyValue) → Option (TimeValueValue PropertyValue)
  | [] => none
  | entry :: rest =>
      match latest rest with
      | none => some entry
      | some later => if timeLe entry.time later.time then some later else some entry

/-- `value_at_time`: of the latest entry at or before `time`, in whatever order they are. -/
def valueAtTime (values : List (TimeValueValue PropertyValue)) (time : TimeValue) :
    Option PropertyValue :=
  (latest (values.filter (fun entry => timeLe entry.time time))).map (fun entry => entry.value)

namespace Schedule

/-! ## §3. Schedules -/

/-- `active_exceptions`: those covering `date`, the most urgent first; of equal priority, in
the order they were written in. -/
def activeExceptions (self : Schedule) (date : DateValue)
    (calendarCovers : ObjectIdentifier → Bool) : List SpecialEvent :=
  (self.exceptionSchedule.filter (fun event =>
    match event.period with
    | .calendarEntry entry => entry.covers date
    | .calendarReference calendar => calendarCovers calendar)).insertionSort
      (fun x y => x.priority ≤ y.priority)

/-- `weekday`: none when the weekday is unspecified. -/
def weekday (self : Schedule) (date : DateValue) : Option DailySchedule :=
  let (_, _, _, weekday) := date
  if weekday = 0 then none else self.weeklySchedule.toList[weekday.toNat - 1]?

/-- `value_at`: what the schedule commands at `date` and `time`. -/
def valueAt (self : Schedule) (date : DateValue) (time : TimeValue)
    (calendarCovers : ObjectIdentifier → Bool) : PropertyValue :=
  if self.effectivePeriod.contains date then
    let levels := (self.activeExceptions date calendarCovers).map (fun event => event.timeValues)
      ++ ((self.weekday date).map (fun day => day.timeValues)).toList
    -- A level with nothing in effect, or a NULL, hands over to the next one down.
    let commanded := levels.findSome? (fun values =>
      (valueAtTime values time).filter (fun value => !value.eq .null))
    commanded.getD self.scheduleDefault
  else self.scheduleDefault

end Schedule

end BacnetRs.Object
