/-
# Days of the month

Two days of one month differ in their day of the month. Days of different months may agree
in it, but then they are at least the shortest month apart, which has 28 days.
-/

import MeterSignals.Time.Instant

namespace MeterSignals

namespace CivilDate

/-- The day number with which a month begins. The year is counted from March, and March is
month 0. -/
def monthStart (year month : Int) : Int :=
  yearLength * year + year / 4 - year / 100 + year / 400 + daysBeforeMonth month - epochOffset

/-- Every day belongs to a month, and its day of the month counts from where that begins. -/
theorem exists_monthStart (n : Int) :
    ∃ year month, 0 ≤ month ∧ month ≤ 11 ∧
      (ofDayNumber n).day = n - monthStart year month + 1 := by
  have low : 0 ≤ (n + epochOffset) % eraLength := Int.emod_nonneg _ (by decide)
  have high : (n + epochOffset) % eraLength < eraLength := Int.emod_lt_of_pos _ (by decide)
  have yearBounds := yearOfEra_bounds _ low high
  have dayBounds := dayOfYear_bounds _ low high
  have monthBounds := monthOfYear_bounds _ dayBounds.1 dayBounds.2
  have whole := Int.mul_ediv_add_emod (n + epochOffset) eraLength
  refine ⟨yearOfEra ((n + epochOffset) % eraLength) + (n + epochOffset) / eraLength * 400, _,
    monthBounds.1, monthBounds.2, ?_⟩
  simp only [ofDayNumber, monthStart]
  generalize (n + epochOffset) % eraLength = dayOfEra at *
  generalize (n + epochOffset) / eraLength = era at *
  generalize yearOfEra dayOfEra = year at *
  generalize daysBeforeMonth _ = before
  have spans : (year + era * 400) / 4 = year / 4 + era * 100 := by omega
  have centuries : (year + era * 400) / 100 = year / 100 + era * 4 := by omega
  have eras : (year + era * 400) / 400 = era := by omega
  rw [spans, centuries, eras]
  simp only [daysBeforeYear, yearLength, eraLength] at *
  omega

/-- Later months begin at least 28 days later: February is the last of its year here. -/
theorem monthStart_add_le {year month year' month' : Int} (bound : 0 ≤ month) (top : month ≤ 11)
    (bound' : 0 ≤ month') (later : year < year' ∨ year = year' ∧ month < month') :
    monthStart year month + 28 ≤ monthStart year' month' := by
  have leapDays : year ≤ year' →
      year / 4 - year / 100 + year / 400 ≤ year' / 4 - year' / 100 + year' / 400 := by omega
  simp only [monthStart, daysBeforeMonth, yearLength]
  rcases later with year | ⟨rfl, month⟩
  · have started := leapDays (Int.le_of_lt year)
    omega
  · omega

/-- Different days with the same day of the month are at least 28 days apart. -/
theorem add_le_of_day_eq {m n : Int} (before : m < n)
    (same : (ofDayNumber m).day = (ofDayNumber n).day) : m + 28 ≤ n := by
  obtain ⟨year, month, bound, top, day⟩ := exists_monthStart m
  obtain ⟨year', month', bound', top', day'⟩ := exists_monthStart n
  have apart : n - m = monthStart year' month' - monthStart year month := by omega
  by_cases later : year < year' ∨ year = year' ∧ month < month'
  · have far := monthStart_add_le bound top bound' later
    omega
  · by_cases equal : year = year' ∧ month = month'
    · obtain ⟨rfl, rfl⟩ := equal
      omega
    · have far := @monthStart_add_le year' month' year month bound' top' bound (by omega)
      omega

/-- The days of a month are 1 to 31. -/
theorem day_bounds (n : Int) : 1 ≤ (ofDayNumber n).day ∧ (ofDayNumber n).day ≤ 31 := by
  have low : 0 ≤ (n + epochOffset) % eraLength := Int.emod_nonneg _ (by decide)
  have high : (n + epochOffset) % eraLength < eraLength := Int.emod_lt_of_pos _ (by decide)
  have dayBounds := dayOfYear_bounds _ low high
  simp only [ofDayNumber]
  generalize (n + epochOffset) % eraLength - daysBeforeYear _ = day at *
  simp only [daysBeforeMonth, monthOfYear]
  omega

end CivilDate

namespace Zone

variable (home : Zone)

/-- Two clock readings are on the same day exactly if the days have the same number. -/
theorem isSameDay_iff {a b : Instant} :
    home.isSameDay (some a) (some b) = true ↔ home.dayNumber a = home.dayNumber b := by
  rw [isSameDay, beq_iff_eq, date, date]
  exact ⟨CivilDate.ofDayNumber_injective, congrArg _⟩

/-- The local day goes forward with the clock. -/
theorem dayNumber_mono {a b : Instant} (forward : a ≤ b) :
    home.dayNumber a ≤ home.dayNumber b :=
  Int.ediv_le_ediv (by decide) (Int.add_le_add_right forward _)

end Zone

end MeterSignals
