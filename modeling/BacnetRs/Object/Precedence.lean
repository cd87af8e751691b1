/-
  BacnetRs.Object.Precedence — what a schedule commands, said from the outside
  (`object/schedule.rs`, `property/complex.rs`).

  The value is the first in a line of levels: the exceptions that cover the
  date, by priority number, then the day of the week, then the default.  Here
  that line is written down on its own, with the dates that a period covers as
  conditions on numbers, and what `value_at` computes is compared with it.

    * `covers_iff`, `contains_iff` — which dates an entry covers.
    * `inEffect_iff`               — of a list in any order, the value in effect.
    * `Schedule.commands_iff`      — `value_at` returns what the line gives, and
                                     nothing else.
-/
import BacnetRs.Library.StableSort
import BacnetRs.Object.Timetable

namespace BacnetRs.Property

open BacnetRs.Encoding

/-! ## §1. Dates -/

/-- A date has a place in the order of dates: no wildcard, and no month or day past the last. -/
def Placed (date : DateValue) : Prop :=
  date.1.toNat ≠ 255 ∧ date.2.1.toNat ≤ 12 ∧ date.2.2.1.toNat ≤ 31

/-- Its place. -/
def place (date : DateValue) : Nat :=
  (date.1.toNat * 256 + date.2.1.toNat) * 256 + date.2.2.1.toNat

/-- The range holds the date; a side whose endpoint has no place is open. -/
def DateRangeValue.Holds (self : DateRangeValue) (date : DateValue) : Prop :=
  Placed date ∧ (Placed self.start → place self.start ≤ place date) ∧
    (Placed self.end_ → place date ≤ place self.end_)

/-- The month is one the pattern stands for. -/
def MonthFits (pattern month : UInt8) : Prop :=
  pattern = 255 ∨ (pattern = 13 ∧ month.toNat % 2 = 1) ∨ (pattern = 14 ∧ month.toNat % 2 = 0) ∨
    (pattern ≠ 13 ∧ pattern ≠ 14 ∧ pattern = month)

/-- The day of the month is one the pattern stands for. -/
def DayFits (pattern : UInt8) (date : DateValue) : Prop :=
  pattern = 255 ∨ (pattern = 32 ∧ date.2.2.1 = daysInMonth date.1 date.2.1) ∨
    (pattern = 33 ∧ date.2.2.1.toNat % 2 = 1) ∨ (pattern = 34 ∧ date.2.2.1.toNat % 2 = 0) ∨
    (pattern ≠ 32 ∧ pattern ≠ 33 ∧ pattern ≠ 34 ∧ pattern = date.2.2.1)

/-- The week of the month is one the pattern stands for: the sixth is the last seven days. -/
def WeekFits (pattern : UInt8) (date : DateValue) : Prop :=
  let day := date.2.2.1.toNat
  pattern = 255 ∨ (1 ≤ day ∧ day ≤ 31 ∧
    ((pattern = 6 ∧ (daysInMonth date.1 date.2.1).toNat < day + 7) ∨
      (pattern ≠ 6 ∧ day ≤ 7 * pattern.toNat ∧ 7 * pattern.toNat < day + 7)))

/-- The entry covers the date. -/
def CalendarEntryValue.Covering (self : CalendarEntryValue) (date : DateValue) : Prop :=
  match self with
  | .date pattern =>
      (pattern.1 = 255 ∨ pattern.1 = date.1) ∧ MonthFits pattern.2.1 date.2.1 ∧
        DayFits pattern.2.2.1 date ∧ (pattern.2.2.2 = 255 ∨ pattern.2.2.2 = date.2.2.2)
  | .dateRange range => range.Holds date
  | .weekNDay week =>
      MonthFits week.month date.2.1 ∧ WeekFits week.weekOfMonth date ∧
        (week.dayOfWeek = 255 ∨ week.dayOfWeek = date.2.2.2)

instance (date : DateValue) : Decidable (Placed date) := inferInstanceAs (Decidable (_ ∧ _))

instance (range : DateRangeValue) (date : DateValue) : Decidable (range.Holds date) :=
  inferInstanceAs (Decidable (_ ∧ _))

instance (pattern month : UInt8) : Decidable (MonthFits pattern month) :=
  inferInstanceAs (Decidable (_ ∨ _))

instance (pattern : UInt8) (date : DateValue) : Decidable (DayFits pattern date) :=
  inferInstanceAs (Decidable (_ ∨ _))

instance (pattern : UInt8) (date : DateValue) : Decidable (WeekFits pattern date) :=
  inferInstanceAs (Decidable (_ ∨ _))

instance : ∀ (entry : CalendarEntryValue) (date : DateValue), Decidable (entry.Covering date)
  | .date _, _ => inferInstanceAs (Decidable (_ ∧ _))
  | .dateRange range, date => inferInstanceAs (Decidable (range.Holds date))
  | .weekNDay _, _ => inferInstanceAs (Decidable (_ ∧ _))

/-- A date is in the order of dates exactly when it has a place. -/
theorem calendarOrdinal_eq (date : DateValue) :
    calendarOrdinal date
      = if Placed date then some (date.1, date.2.1, date.2.2.1) else none := by
  obtain ⟨year, month, day, weekday⟩ := date
  have hcode : (year = unspecifiedYear ∨ month = any ∨ month > 12 ∨ day = any ∨ day > 31)
      ↔ ¬ Placed (year, month, day, weekday) := by
    unfold Placed unspecifiedYear any
    simp only [gt_iff_lt, UInt8.lt_iff_toNat_lt, ← UInt8.toNat_inj, ← UInt16.toNat_inj,
      UInt8.reduceToNat, UInt16.reduceToNat]
    omega
  unfold calendarOrdinal
  dsimp only
  by_cases hplaced : Placed (year, month, day, weekday)
  · rw [if_neg (fun h => hcode.mp h hplaced), if_pos hplaced]
  · rw [if_pos (hcode.mpr hplaced), if_neg hplaced]

/-- The order of dates is that of their places. -/
theorem ordinal_le_iff (x y : DateValue) :
    Ordinal.le (x.1, x.2.1, x.2.2.1) (y.1, y.2.1, y.2.2.1) = true ↔ place x ≤ place y := by
  unfold Ordinal.le place
  have hmonth := x.2.1.toNat_lt
  have hmonth' := y.2.1.toNat_lt
  have hday := x.2.2.1.toNat_lt
  have hday' := y.2.2.1.toNat_lt
  simp only [Bool.or_eq_true, Bool.and_eq_true, decide_eq_true_eq, beq_iff_eq,
    UInt8.lt_iff_toNat_lt, UInt8.le_iff_toNat_le, UInt16.lt_iff_toNat_lt, ← UInt8.toNat_inj,
    ← UInt16.toNat_inj]
  omega

/-- **The dates a range contains.** -/
theorem contains_iff (range : DateRangeValue) (date : DateValue) :
    range.contains date = true ↔ range.Holds date := by
  unfold DateRangeValue.contains DateRangeValue.Holds
  rw [calendarOrdinal_eq, calendarOrdinal_eq, calendarOrdinal_eq]
  by_cases hplaced : Placed date
  · rw [if_pos hplaced]
    dsimp only
    rw [Bool.and_eq_true]
    by_cases hstart : Placed range.start <;> by_cases hend : Placed range.end_
      <;> simp [hplaced, hstart, hend, ordinal_le_iff]
  · rw [if_neg hplaced]
    simp [hplaced]

theorem monthMatches_iff (pattern month : UInt8) :
    monthMatches pattern month = true ↔ MonthFits pattern month := by
  unfold monthMatches MonthFits
  simp only [← UInt8.toNat_inj, UInt8.reduceToNat, ne_eq]
  split
  · exact iff_of_true rfl (.inl ‹_›)
  · rw [beq_iff_eq, ← UInt8.toNat_inj, UInt8.toNat_mod]
    simp only [UInt8.reduceToNat]
    omega
  · rw [beq_iff_eq, ← UInt8.toNat_inj, UInt8.toNat_mod]
    simp only [UInt8.reduceToNat]
    omega
  · rw [beq_iff_eq, ← UInt8.toNat_inj]
    grind

/-- **The dates a pattern matches.** -/
theorem datePatternMatches_iff (pattern date : DateValue) :
    datePatternMatches pattern date = true ↔ (CalendarEntryValue.date pattern).Covering date := by
  obtain ⟨year, month, day, weekday⟩ := pattern
  obtain ⟨actualYear, actualMonth, actualDay, actualWeekday⟩ := date
  unfold datePatternMatches CalendarEntryValue.Covering
  dsimp only
  rw [Bool.and_eq_true, Bool.and_eq_true, Bool.and_eq_true, Bool.or_eq_true, Bool.or_eq_true,
    beq_iff_eq, beq_iff_eq, beq_iff_eq, beq_iff_eq, monthMatches_iff, and_assoc, and_assoc]
  refine and_congr_right (fun _ => and_congr_right (fun _ => and_congr ?_ Iff.rfl))
  unfold DayFits
  simp only [← UInt8.toNat_inj, UInt8.reduceToNat, ne_eq]
  split
  · exact iff_of_true rfl (.inl ‹_›)
  · rw [beq_iff_eq, ← UInt8.toNat_inj]
    omega
  · rw [beq_iff_eq, ← UInt8.toNat_inj, UInt8.toNat_mod]
    simp only [UInt8.reduceToNat]
    omega
  · rw [beq_iff_eq, ← UInt8.toNat_inj, UInt8.toNat_mod]
    simp only [UInt8.reduceToNat]
    omega
  · rw [beq_iff_eq, ← UInt8.toNat_inj]
    grind

/-- **The dates a week of the month matches.** -/
theorem weekNDayMatches_iff (week : WeekNDayValue) (date : DateValue) :
    weekNDayMatches week date = true ↔ (CalendarEntryValue.weekNDay week).Covering date := by
  obtain ⟨month, weekOfMonth, dayOfWeek⟩ := week
  obtain ⟨year, actualMonth, day, weekday⟩ := date
  unfold weekNDayMatches CalendarEntryValue.Covering
  dsimp only
  rw [Bool.and_eq_true, Bool.and_eq_true, Bool.or_eq_true, beq_iff_eq, beq_iff_eq,
    monthMatches_iff, and_assoc]
  refine and_congr_right (fun _ => and_congr ?_ Iff.rfl)
  unfold WeekFits
  simp only [← UInt8.toNat_inj, UInt8.reduceToNat, ne_eq]
  split
  · exact iff_of_true rfl (.inl ‹_›)
  · next hany =>
      have hsome : weekOfMonth.toNat ≠ 255 := hany
      split
      · exact iff_of_false Bool.false_ne_true (by omega)
      split
      · rw [decide_eq_true_eq]
        omega
      · rw [beq_iff_eq]
        omega

/-- **The dates an entry covers.** -/
theorem covers_iff (entry : CalendarEntryValue) (date : DateValue) :
    entry.covers date = true ↔ entry.Covering date := by
  cases entry with
  | date pattern => exact datePatternMatches_iff pattern date
  | dateRange range => exact contains_iff range date
  | weekNDay week => exact weekNDayMatches_iff week date

end BacnetRs.Property

namespace BacnetRs.Object

open BacnetRs.Encoding BacnetRs.Property

/-! ## §2. Times -/

/-- A time's place in the order of times. -/
def timePlace (time : TimeValue) : Nat :=
  ((time.1.toNat * 256 + time.2.1.toNat) * 256 + time.2.2.1.toNat) * 256 + time.2.2.2.toNat

/-- The value is that of the latest entry not after the time, of equals the last. -/
def InEffect (values : List (TimeValueValue PropertyValue)) (time : TimeValue)
    (value : PropertyValue) : Prop :=
  ∃ before entry after, values = before ++ entry :: after ∧ entry.value = value ∧
    timePlace entry.time ≤ timePlace time ∧
    (∀ other ∈ before, timePlace other.time ≤ timePlace time →
      timePlace other.time ≤ timePlace entry.time) ∧
    ∀ other ∈ after, timePlace other.time ≤ timePlace time →
      timePlace other.time < timePlace entry.time

/-- The levels give the value: that of the first with one in effect that is not Null. -/
inductive Given (time : TimeValue) (otherwise : PropertyValue) :
    List (List (TimeValueValue PropertyValue)) → PropertyValue → Prop
  | found {values rest value} (h : InEffect values time value) (hvalue : value ≠ .null) :
      Given time otherwise (values :: rest) value
  | next {values rest value} (h : ∀ value, InEffect values time value → value = .null)
      (hrest : Given time otherwise rest value) : Given time otherwise (values :: rest) value
  | default : Given time otherwise [] otherwise

theorem timeLe_iff (x y : TimeValue) : timeLe x y = true ↔ timePlace x ≤ timePlace y := by
  unfold timeLe timePlace
  obtain ⟨hour, minute, second, hundredth⟩ := x
  obtain ⟨hour', minute', second', hundredth'⟩ := y
  have hminute := minute.toNat_lt
  have hminute' := minute'.toNat_lt
  have hsecond := second.toNat_lt
  have hsecond' := second'.toNat_lt
  have hhundredth := hundredth.toNat_lt
  have hhundredth' := hundredth'.toNat_lt
  simp only [Bool.or_eq_true, Bool.and_eq_true, decide_eq_true_eq, beq_iff_eq,
    UInt8.lt_iff_toNat_lt, UInt8.le_iff_toNat_le, ← UInt8.toNat_inj]
  omega

section Latest

variable {values : List (TimeValueValue PropertyValue)} {entry : TimeValueValue PropertyValue}

theorem latest_cons (first : TimeValueValue PropertyValue)
    (rest : List (TimeValueValue PropertyValue)) :
    latest (first :: rest)
      = some (match latest rest with
        | none => first
        | some later => if timeLe first.time later.time then later else first) := by
  show (match latest rest with | none => _ | some later => _) = _
  cases latest rest with
  | none => rfl
  | some later =>
      dsimp only
      split <;> rfl

theorem latest_mem (h : latest values = some entry) : entry ∈ values := by
  induction values with
  | nil => cases h
  | cons first rest ih =>
      rw [latest_cons] at h
      cases hlater : latest rest with
      | none =>
          rw [hlater] at h
          cases h
          exact List.mem_cons_self
      | some later =>
          rw [hlater] at h
          dsimp only at h
          split at h
          · cases h
            exact List.mem_cons_of_mem _ (ih hlater)
          · cases h
            exact List.mem_cons_self

/-- The latest comes after none that is later, and before none that is as late. -/
theorem latest_eq_some_iff :
    latest values = some entry ↔ ∃ before after, values = before ++ entry :: after ∧
      (∀ other ∈ before, timePlace other.time ≤ timePlace entry.time) ∧
      ∀ other ∈ after, timePlace other.time < timePlace entry.time := by
  constructor
  · intro h
    induction values generalizing entry with
    | nil => cases h
    | cons first rest ih =>
        rw [latest_cons] at h
        cases hlater : latest rest with
        | none =>
            rw [hlater] at h
            cases h
            cases rest with
            | nil =>
                exact ⟨[], [], rfl, fun _ hmem => absurd hmem List.not_mem_nil,
                  fun _ hmem => absurd hmem List.not_mem_nil⟩
            | cons second rest =>
                rw [latest_cons] at hlater
                cases hlater
        | some later =>
            rw [hlater] at h
            obtain ⟨before, after, hrest, hbefore, hafter⟩ := ih hlater
            dsimp only at h
            split at h
            · next hle =>
                cases h
                refine ⟨first :: before, after, by rw [hrest]; rfl, ?_, hafter⟩
                intro other hother
                rcases List.mem_cons.mp hother with rfl | hother
                · exact (timeLe_iff _ _).mp hle
                · exact hbefore other hother
            · next hnotle =>
                cases h
                rw [timeLe_iff] at hnotle
                refine ⟨[], rest, rfl, fun _ hmem => absurd hmem List.not_mem_nil, ?_⟩
                -- The first is later than the latest of the rest.
                intro other hother
                rw [hrest] at hother
                rcases List.mem_append.mp hother with hother | hother
                · have hle := hbefore other hother
                  omega
                · rcases List.mem_cons.mp hother with rfl | hother
                  · omega
                  · have hlt := hafter other hother
                    omega
  · rintro ⟨before, after, rfl, hbefore, hafter⟩
    induction before with
    | nil =>
        show latest (entry :: after) = some entry
        rw [latest_cons]
        cases hlater : latest after with
        | none => rfl
        | some later =>
            have hlt := hafter later (latest_mem hlater)
            dsimp only
            rw [if_neg]
            rw [timeLe_iff]
            omega
    | cons first before ih =>
        have hrest := ih (fun other hother => hbefore other (List.mem_cons_of_mem _ hother))
        show latest (first :: (before ++ entry :: after)) = some entry
        rw [latest_cons, hrest]
        dsimp only
        rw [if_pos ((timeLe_iff _ _).mpr (hbefore first List.mem_cons_self))]

/-- **The value in effect**, whatever order the list is in. -/
theorem inEffect_iff {time : TimeValue} {value : PropertyValue} :
    InEffect values time value ↔ valueAtTime values time = some value := by
  unfold valueAtTime
  rw [Option.map_eq_some_iff]
  constructor
  · rintro ⟨before, entry, after, rfl, rfl, hnotafter, hbefore, hafter⟩
    refine ⟨entry, latest_eq_some_iff.mpr ⟨before.filter (fun entry => timeLe entry.time time),
      after.filter (fun entry => timeLe entry.time time), ?_, ?_, ?_⟩, rfl⟩
    · rw [List.filter_append]
      congr 1
      exact List.filter_cons_of_pos ((timeLe_iff entry.time time).mpr hnotafter)
    · intro other hother
      obtain ⟨hmem, hle⟩ := List.mem_filter.mp hother
      exact hbefore other hmem ((timeLe_iff _ _).mp hle)
    · intro other hother
      obtain ⟨hmem, hle⟩ := List.mem_filter.mp hother
      exact hafter other hmem ((timeLe_iff _ _).mp hle)
  · rintro ⟨entry, hlatest, rfl⟩
    obtain ⟨before, after, hsplit, hbefore, hafter⟩ := latest_eq_some_iff.mp hlatest
    obtain ⟨first, rest, rfl, rfl, hrest⟩ := List.filter_eq_append_iff.mp hsplit
    obtain ⟨skipped, last, rfl, hskipped, hle, rfl⟩ := List.filter_eq_cons_iff.mp hrest
    refine ⟨first ++ skipped, entry, last, by rw [List.append_assoc], rfl,
      (timeLe_iff _ _).mp hle, ?_, ?_⟩
    · intro other hother hnotafter
      have hother' := (timeLe_iff other.time time).mpr hnotafter
      rcases List.mem_append.mp hother with hother | hother
      · exact hbefore other (List.mem_filter.mpr ⟨hother, hother'⟩)
      · exact absurd hother' (hskipped other hother)
    · intro other hother hnotafter
      exact hafter other (List.mem_filter.mpr ⟨hother, (timeLe_iff other.time time).mpr hnotafter⟩)

end Latest

/-- **The first level with a value that is not Null gives it.** -/
theorem given_iff {time : TimeValue} {otherwise value : PropertyValue}
    {levels : List (List (TimeValueValue PropertyValue))} :
    Given time otherwise levels value
      ↔ (levels.findSome? (fun values =>
          (valueAtTime values time).filter (fun value => !value.eq .null))).getD otherwise
        = value := by
  have heq (value : PropertyValue) : (!value.eq .null) = true ↔ value ≠ .null := by
    cases value <;> simp [PropertyValue.eq]
  constructor
  · intro h
    induction h with
    | found h hvalue =>
        rw [List.findSome?_cons, inEffect_iff.mp h]
        simp [Option.filter, (heq _).mpr hvalue]
    -- A level that says nothing, or Null, leaves the word to the next one.
    | @next values rest value h hrest ih =>
        have hnone : (valueAtTime values time).filter (fun value => !value.eq .null) = none := by
          rw [Option.filter_eq_none_iff]
          intro found hfound
          rw [heq, not_not]
          exact h found (inEffect_iff.mpr hfound)
        rw [List.findSome?_cons, hnone]
        exact ih
    | default => rfl
  · rintro rfl
    -- Conversely the first level that has a value is the one that gives it.
    induction levels with
    | nil => exact .default
    | cons values rest ih =>
        rw [List.findSome?_cons]
        cases hfirst : (valueAtTime values time).filter (fun value => !value.eq .null) with
        | none =>
            refine .next ?_ ih
            intro value hvalue
            have hnone := Option.filter_eq_none_iff.mp hfirst value (inEffect_iff.mp hvalue)
            rwa [heq, not_not] at hnone
        | some value =>
            obtain ⟨hvalue, hnotnull⟩ := Option.filter_eq_some_iff.mp hfirst
            exact .found (inEffect_iff.mpr hvalue) ((heq _).mp hnotnull)

namespace Schedule

/-- The exception covers the date. -/
def Covering (date : DateValue) (calendarCovers : ObjectIdentifier → Bool) (event : SpecialEvent) :
    Prop :=
  match event.period with
  | .calendarEntry entry => entry.Covering date
  | .calendarReference calendar => calendarCovers calendar = true

instance (date : DateValue) (calendarCovers : ObjectIdentifier → Bool) :
    DecidablePred (Covering date calendarCovers)
  | ⟨.calendarEntry entry, _, _⟩ => inferInstanceAs (Decidable (entry.Covering date))
  | ⟨.calendarReference calendar, _, _⟩ =>
      inferInstanceAs (Decidable (calendarCovers calendar = true))

/-- The exceptions that cover the date, each time the first of the least priority number. -/
def Consulted (self : Schedule) (date : DateValue) (calendarCovers : ObjectIdentifier → Bool) :
    List SpecialEvent → Prop :=
  StableSort.Selected (fun x y => x.priority ≤ y.priority)
    (self.exceptionSchedule.filter (fun event => Covering date calendarCovers event))

/-- The entry of the Weekly_Schedule with the number of the weekday, Monday's being 1. -/
def today (self : Schedule) (date : DateValue) : List DailySchedule :=
  ((self.weeklySchedule.toList.zipIdx 1).filter (fun day =>
    day.2 = date.2.2.2.toNat)).map Prod.fst

/-- What the schedule commands: outside its period the default; within it what is given by the
exceptions consulted, and after them by the day of the week. -/
inductive Commands (self : Schedule) (date : DateValue) (time : TimeValue)
    (calendarCovers : ObjectIdentifier → Bool) : PropertyValue → Prop
  | outside (h : ¬ self.effectivePeriod.Holds date) :
      Commands self date time calendarCovers self.scheduleDefault
  | within {exceptions value} (h : self.effectivePeriod.Holds date)
      (hexceptions : self.Consulted date calendarCovers exceptions)
      (hgiven : Given time self.scheduleDefault
        (exceptions.map (fun event => event.timeValues)
          ++ (self.today date).map (fun day => day.timeValues)) value) :
      Commands self date time calendarCovers value

/-- The exceptions consulted are the active ones. -/
theorem consulted_iff (self : Schedule) (date : DateValue)
    (calendarCovers : ObjectIdentifier → Bool) (exceptions : List SpecialEvent) :
    self.Consulted date calendarCovers exceptions
      ↔ exceptions = self.activeExceptions date calendarCovers := by
  have hactive : self.activeExceptions date calendarCovers
      = (self.exceptionSchedule.filter (fun event =>
          Covering date calendarCovers event)).insertionSort
            (fun x y => x.priority ≤ y.priority) := by
    unfold activeExceptions
    congr 1
    refine List.filter_congr (fun event _ => ?_)
    rw [Bool.eq_iff_iff, decide_eq_true_eq]
    obtain ⟨period, timeValues, priority⟩ := event
    cases period with
    | calendarEntry entry => exact covers_iff entry date
    | calendarReference calendar => exact Iff.rfl
  rw [hactive]
  apply StableSort.selected_iff
  · intro a b c
    exact UInt32.le_trans
  · intro a b
    exact UInt32.le_total a.priority b.priority

/-- Of days numbered from some number on, the one with a number. -/
theorem filter_zipIdx {α : Type} (days : List α) (first number : Nat) :
    ((days.zipIdx first).filter (fun day => day.2 = number)).map Prod.fst
      = (if number < first then none else days[number - first]?).toList := by
  induction days generalizing first with
  | nil => simp
  | cons day days ih =>
      rw [List.zipIdx_cons, List.filter_cons]
      rcases Nat.lt_trichotomy number first with hlt | rfl | hgt
      · rw [if_pos hlt, if_neg (by simp; omega), ih, if_pos (by omega)]
      · rw [if_pos (by simp), List.map_cons, ih, if_pos (Nat.lt_succ_self _),
          if_neg (Nat.lt_irrefl _), Nat.sub_self]
        rfl
      · rw [if_neg (by simp; omega), ih, if_neg (by omega), if_neg (by omega),
          show number - first = number - (first + 1) + 1 by omega]
        rfl

theorem today_eq (self : Schedule) (date : DateValue) :
    self.today date = (self.weekday date).toList := by
  obtain ⟨year, month, day, weekday⟩ := date
  unfold today Schedule.weekday
  rw [filter_zipIdx]
  dsimp only
  by_cases hunspecified : weekday = 0
  · subst hunspecified
    rfl
  · have hsome : ¬ weekday.toNat < 1 := by
      have hne : weekday.toNat ≠ 0 := fun h => hunspecified (UInt8.toNat_inj.mp h)
      omega
    rw [if_neg hsome, if_neg hunspecified]

/-- **What is computed is what the schedule commands**, for every date, time and answer of the
calendars. -/
theorem commands_iff (self : Schedule) (date : DateValue) (time : TimeValue)
    (calendarCovers : ObjectIdentifier → Bool) (value : PropertyValue) :
    self.Commands date time calendarCovers value
      ↔ self.valueAt date time calendarCovers = value := by
  have hlevels : ((self.weekday date).map (fun day => day.timeValues)).toList
      = (self.today date).map (fun day => day.timeValues) := by
    rw [today_eq]
    cases self.weekday date <;> rfl
  unfold valueAt
  dsimp only
  by_cases hperiod : self.effectivePeriod.Holds date
  · rw [if_pos ((contains_iff _ _).mpr hperiod), hlevels, ← given_iff]
    constructor
    · intro h
      cases h with
      | outside h => exact absurd hperiod h
      | within _ hexceptions hgiven =>
          rw [consulted_iff] at hexceptions
          rw [← hexceptions]
          exact hgiven
    · intro hgiven
      exact .within hperiod ((consulted_iff _ _ _ _).mpr rfl) hgiven
  · rw [if_neg (fun h => hperiod ((contains_iff _ _).mp h))]
    constructor
    · intro h
      cases h with
      | outside _ => rfl
      | within h _ _ => exact absurd h hperiod
    · rintro rfl
      exact .outside hperiod

end Schedule

end BacnetRs.Object
