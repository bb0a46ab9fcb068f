/-
# The Gregorian calendar

Day 0 is 1 January 1970, and the date of each day follows from that of the day before: the month
goes on to its end, which for February depends on the year, and then the next month begins. So the
dates are those of the Gregorian calendar, in both directions without end. No two dates of the
calendar belong to the same day, since later dates have later days.
-/

import Mathlib.Tactic.IntervalCases
import MeterSignals.Proofs.Time.MonthDay

namespace MeterSignals.CivilDate

/-- Every fourth year has a leap day, but of those that end a century only every fourth one. -/
def IsLeap (year : Int) : Prop := year % 4 = 0 ∧ (year % 100 ≠ 0 ∨ year % 400 = 0)

instance (year : Int) : Decidable (IsLeap year) := inferInstanceAs (Decidable (_ ∧ _))

/-- The days of a month, with January as month 1. -/
def lengthOfMonth (year month : Int) : Int :=
  if month = 2 then if IsLeap year then 29 else 28
  else if month = 4 ∨ month = 6 ∨ month = 9 ∨ month = 11 then 30
  else 31

/-- A date that the calendar has. -/
structure IsProper (date : CivilDate) : Prop where
  month : 1 ≤ date.month ∧ date.month ≤ 12
  day : 1 ≤ date.day ∧ date.day ≤ lengthOfMonth date.year date.month

/-- The date of the day after. -/
def next (date : CivilDate) : CivilDate :=
  if date.day < lengthOfMonth date.year date.month then { date with day := date.day + 1 }
  else if date.month < 12 then ⟨date.year, date.month + 1, 1⟩
  else ⟨date.year + 1, 1, 1⟩

/-- The day with which a month begins. -/
def firstOfMonth (year month : Int) : Int := dayNumber ⟨year, month, 1⟩

/-- Months are counted from March in years that begin with it. -/
theorem firstOfMonth_eq (year month : Int) :
    firstOfMonth year month =
      monthStart (if month ≤ 2 then year - 1 else year)
        (if month ≤ 2 then month + 9 else month - 3) := by
  simp only [firstOfMonth, dayNumber, monthStart, daysBeforeYear, yearLength, eraLength]
  split <;> omega

/-- A day counts from the beginning of its month. -/
theorem dayNumber_eq_firstOfMonth (date : CivilDate) :
    date.dayNumber = firstOfMonth date.year date.month + (date.day - 1) := by
  simp only [firstOfMonth, dayNumber]
  omega

/-- The leap days up to a year. -/
theorem leapDays_eq (year : Int) :
    year / 4 - year / 100 + year / 400 =
      (year - 1) / 4 - (year - 1) / 100 + (year - 1) / 400 + if IsLeap year then 1 else 0 := by
  by_cases leap : IsLeap year
  · rw [if_pos leap]
    obtain ⟨fourth, century⟩ := leap
    omega
  · rw [if_neg leap]
    rw [IsLeap] at leap
    omega

theorem lengthOfMonth_february (year : Int) :
    lengthOfMonth year 2 = 28 + if IsLeap year then 1 else 0 := by
  rw [lengthOfMonth, if_pos rfl]
  split <;> rfl

/-- A month begins where the one before it ends. -/
theorem firstOfMonth_add_one {year month : Int} (low : 1 ≤ month) (high : month < 12) :
    firstOfMonth year (month + 1) = firstOfMonth year month + lengthOfMonth year month := by
  by_cases february : month = 2
  · subst february
    have leapDay := leapDays_eq year
    rw [lengthOfMonth_february]
    simp only [firstOfMonth_eq, monthStart, daysBeforeMonth, yearLength]
    norm_num
    omega
  · simp only [firstOfMonth_eq, monthStart, daysBeforeMonth, yearLength,
      lengthOfMonth, if_neg february]
    interval_cases month <;> simp at february ⊢ <;> omega

theorem firstOfMonth_year_add_one (year : Int) :
    firstOfMonth (year + 1) 1 = firstOfMonth year 12 + lengthOfMonth year 12 := by
  simp only [firstOfMonth_eq, monthStart, daysBeforeMonth, yearLength,
    lengthOfMonth]
  omega

/-- Months that come later begin later. -/
theorem firstOfMonth_mono {year month year' month' : Int} (low : 1 ≤ month) (high : month ≤ 12)
    (low' : 1 ≤ month') (later : year < year' ∨ year = year' ∧ month ≤ month') :
    firstOfMonth year month ≤ firstOfMonth year' month' := by
  by_cases same : year = year' ∧ month = month'
  · obtain ⟨rfl, rfl⟩ := same
    exact Int.le_refl _
  · rw [firstOfMonth_eq, firstOfMonth_eq]
    have apart := @monthStart_add_le (if month ≤ 2 then year - 1 else year)
      (if month ≤ 2 then month + 9 else month - 3) (if month' ≤ 2 then year' - 1 else year')
      (if month' ≤ 2 then month' + 9 else month' - 3) (by omega) (by omega) (by omega) (by omega)
    omega

/-- A month is over when a later one begins. -/
theorem firstOfMonth_add_le {year month year' month' : Int} (low : 1 ≤ month) (high : month ≤ 12)
    (low' : 1 ≤ month') (later : year < year' ∨ year = year' ∧ month < month')
    (high' : month' ≤ 12) :
    firstOfMonth year month + lengthOfMonth year month ≤ firstOfMonth year' month' := by
  by_cases december : month = 12
  · subst december
    rw [← firstOfMonth_year_add_one]
    exact firstOfMonth_mono (by decide) (by decide) low' (by omega)
  · rw [← firstOfMonth_add_one low (by omega)]
    exact firstOfMonth_mono (by omega) (by omega) low' (by omega)

/-- Two dates of the calendar that belong to the same day are the same. -/
theorem IsProper.eq_of_dayNumber_eq {date date' : CivilDate} (proper : date.IsProper)
    (proper' : date'.IsProper) (same : date.dayNumber = date'.dayNumber) : date = date' := by
  obtain ⟨⟨low, high⟩, first, last⟩ := proper
  obtain ⟨⟨low', high'⟩, first', last'⟩ := proper'
  rw [dayNumber_eq_firstOfMonth, dayNumber_eq_firstOfMonth] at same
  by_cases before : date.year < date'.year ∨ date.year = date'.year ∧ date.month < date'.month
  · have past := firstOfMonth_add_le low high low' before high'
    omega
  · by_cases after : date'.year < date.year ∨ date'.year = date.year ∧ date'.month < date.month
    · have past := firstOfMonth_add_le low' high' low after high
      omega
    · have year : date.year = date'.year := by omega
      have month : date.month = date'.month := by omega
      rw [year, month] at same
      have day : date.day = date'.day := by omega
      cases date
      cases date'
      exact (CivilDate.mk.injEq ..).mpr ⟨year, month, day⟩

/-- Only a leap year has a 366th day. The years of an era begin with March, so the leap day of one
is in the calendar year after it. -/
theorem isLeap_of_last {day : Int} (low : 0 ≤ day) (high : day < eraLength)
    (last : day - daysBeforeYear (yearOfEra day) = 365) : IsLeap (yearOfEra day + 1) := by
  obtain ⟨century, span, year, rest, parts, total, inEra, inCentury, inSpan, -, leapDay⟩ :=
    exists_parts day low high
  rw [parts, daysBeforeYear_of_parts _ _ _ inCentury.1 inCentury.2 inSpan.1 inSpan.2] at last
  have place := leapDay (by omega)
  rw [parts, IsLeap]
  omega

/-- A day of a year that begins with March is within the length of its month, if the year has a 366th
day only for a leap day. -/
theorem dayOfMonth_le {year day : Int} (low : 0 ≤ day) (high : day ≤ 365)
    (leap : day = 365 → IsLeap (year + 1)) :
    day - daysBeforeMonth (monthOfYear day) + 1 ≤
      lengthOfMonth (year + if monthOfYear day < 10 then 0 else 1)
        (if monthOfYear day < 10 then monthOfYear day + 3 else monthOfYear day - 9) := by
  obtain ⟨spring, winter⟩ := monthOfYear_bounds day low high
  generalize place : monthOfYear day = month at *
  rw [monthOfYear] at place
  by_cases february : month = 11
  · subst february
    have length := lengthOfMonth_february (year + 1)
    simp only [daysBeforeMonth]
    norm_num
    by_cases last : day = 365
    · rw [if_pos (leap last)] at length
      omega
    · split at length <;> omega
  · simp only [daysBeforeMonth, lengthOfMonth]
    interval_cases month <;> simp at february ⊢ <;> omega

/-- The dates of the days are dates of the calendar. -/
theorem isProper_ofDayNumber (n : Int) : (ofDayNumber n).IsProper := by
  have low : 0 ≤ (n + epochOffset) % eraLength := Int.emod_nonneg _ (by decide)
  have high : (n + epochOffset) % eraLength < eraLength := Int.emod_lt_of_pos _ (by decide)
  have dayBounds := dayOfYear_bounds _ low high
  have monthBounds := monthOfYear_bounds _ dayBounds.1 dayBounds.2
  refine ⟨?_, (day_bounds n).1, dayOfMonth_le dayBounds.1 dayBounds.2 fun last => ?_⟩
  · simp only [ofDayNumber]
    omega
  · have leap := isLeap_of_last low high last
    rw [IsLeap] at leap ⊢
    omega

theorem lengthOfMonth_pos (year month : Int) : 1 ≤ lengthOfMonth year month := by
  rw [lengthOfMonth]
  split
  · split <;> decide
  · split <;> decide

theorem IsProper.next {date : CivilDate} (proper : date.IsProper) : date.next.IsProper := by
  obtain ⟨month, day⟩ := proper
  rw [CivilDate.next]
  split
  · next inside => exact ⟨month, by dsimp only; omega⟩
  · split
    · next early => exact ⟨by dsimp only; omega, Int.le_refl 1, lengthOfMonth_pos _ _⟩
    · exact ⟨by dsimp only; omega, Int.le_refl 1, lengthOfMonth_pos _ _⟩

/-- The next date is that of the next day. -/
theorem IsProper.dayNumber_next {date : CivilDate} (proper : date.IsProper) :
    date.next.dayNumber = date.dayNumber + 1 := by
  obtain ⟨⟨low, high⟩, first, last⟩ := proper
  rw [CivilDate.next, dayNumber_eq_firstOfMonth date]
  split
  · next inside =>
      rw [dayNumber_eq_firstOfMonth]
      dsimp only
      omega
  · split
    · next month =>
        rw [dayNumber_eq_firstOfMonth]
        dsimp only
        rw [firstOfMonth_add_one low month]
        omega
    · next month =>
        have december : date.month = 12 := by omega
        rw [dayNumber_eq_firstOfMonth]
        dsimp only
        rw [firstOfMonth_year_add_one, ← december]
        omega

/-- The date of the next day is the next date. -/
theorem ofDayNumber_add_one (n : Int) : ofDayNumber (n + 1) = (ofDayNumber n).next := by
  have proper := isProper_ofDayNumber n
  apply (isProper_ofDayNumber (n + 1)).eq_of_dayNumber_eq proper.next
  rw [dayNumber_ofDayNumber, proper.dayNumber_next, dayNumber_ofDayNumber]

/-- The first day that is counted. -/
theorem ofDayNumber_zero : ofDayNumber 0 = ⟨1970, 1, 1⟩ := by decide

end MeterSignals.CivilDate
