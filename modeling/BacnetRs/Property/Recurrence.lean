/-
  BacnetRs.Property.Recurrence — which dates a calendar entry covers
  (`property/complex.rs`).

  A date is (year, month, day, weekday), weekday 1 for Monday.  A pattern has
  wildcards in it, and numbers that stand for every odd or even month, for the
  last day of the month or for its last week.  A date with a wildcard of its own
  has no place in the order of dates, and no range contains it.
-/
import BacnetRs.Property.Value

namespace BacnetRs.Property

open BacnetRs.Encoding

/-- `ANY`: the wildcard of an octet-sized field. -/
def any : UInt8 := 255

/-- `UNSPECIFIED_YEAR`. -/
def unspecifiedYear : UInt16 := 255

/-- A date in the order of dates. -/
abbrev Ordinal := UInt16 × UInt8 × UInt8

/-- `<=` on ordinals: by year, then month, then day. -/
def Ordinal.le (x y : Ordinal) : Bool :=
  x.1 < y.1 || (x.1 == y.1 && (x.2.1 < y.2.1 || (x.2.1 == y.2.1 && x.2.2 ≤ y.2.2)))

/-- `calendar_ordinal`: none of a date with a wildcard in it. -/
def calendarOrdinal (date : DateValue) : Option Ordinal :=
  let (year, month, day, _) := date
  if year = unspecifiedYear ∨ month = any ∨ month > 12 ∨ day = any ∨ day > 31 then none
  else some (year, month, day)

/-- `DateRangeValue::contains`: an endpoint that has no place leaves its side open. -/
def DateRangeValue.contains (self : DateRangeValue) (date : DateValue) : Bool :=
  match calendarOrdinal date with
  | none => false
  | some day =>
      (calendarOrdinal self.start).all (fun start => start.le day)
        && (calendarOrdinal self.end_).all (fun end_ => day.le end_)

/-- `is_leap_year`. -/
def isLeapYear (year : UInt16) : Bool :=
  year != unspecifiedYear && year % 4 == 0 && (year % 100 != 0 || year % 400 == 0)

/-- `days_in_month`: an unspecified year is a common year. -/
def daysInMonth (year : UInt16) (month : UInt8) : UInt8 :=
  match month.toNat with
  | 1 | 3 | 5 | 7 | 8 | 10 | 12 => 31
  | 4 | 6 | 9 | 11 => 30
  | 2 => if isLeapYear year then 29 else 28
  | _ => 0

/-- `month_matches`: 13 is every odd month and 14 every even one. -/
def monthMatches (pattern month : UInt8) : Bool :=
  match pattern.toNat with
  | 255 => true
  | 13 => month % 2 == 1
  | 14 => month % 2 == 0
  | _ => pattern == month

/-- `date_pattern_matches`: day 32 is the last of the month, 33 every odd day and 34 every
even one. -/
def datePatternMatches (pattern date : DateValue) : Bool :=
  let (year, month, day, weekday) := pattern
  let (actualYear, actualMonth, actualDay, actualWeekday) := date
  let dayMatches :=
    match day.toNat with
    | 255 => true
    | 32 => actualDay == daysInMonth actualYear actualMonth
    | 33 => actualDay % 2 == 1
    | 34 => actualDay % 2 == 0
    | _ => day == actualDay
  (year == unspecifiedYear || year == actualYear)
    && monthMatches month actualMonth
    && dayMatches
    && (weekday == any || weekday == actualWeekday)

/-- `week_n_day_matches`: week 6 is the last seven days of the month. -/
def weekNDayMatches (pattern : WeekNDayValue) (date : DateValue) : Bool :=
  let (year, month, day, weekday) := date
  let weekMatches :=
    match pattern.weekOfMonth.toNat with
    | 255 => true
    | week =>
        -- A day that is none cannot be placed within the month.
        if ¬ (1 ≤ day.toNat ∧ day.toNat ≤ 31) then false
        else if week = 6 then (daysInMonth year month).toNat < day.toNat + 7
        else week == (day.toNat + 6) / 7
  monthMatches pattern.month month
    && weekMatches
    && (pattern.dayOfWeek == any || pattern.dayOfWeek == weekday)

/-- `CalendarEntryValue::matches`. -/
def CalendarEntryValue.covers (self : CalendarEntryValue) (date : DateValue) : Bool :=
  match self with
  | .date pattern => datePatternMatches pattern date
  | .dateRange range => range.contains date
  | .weekNDay week => weekNDayMatches week date

end BacnetRs.Property
