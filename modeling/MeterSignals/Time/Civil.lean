/-
# Civil dates

Days are numbered from 1 January 1970 and named by the Gregorian calendar, continued
without end in both directions. A year is counted from March here, so that the leap day
is its last day. The calendar repeats itself after an era of 400 years; an era is four
centuries, a century 25 spans of four years, and only the last of each kind may be longer
or shorter than the others.
-/

namespace MeterSignals

/-- A day of the Gregorian calendar. Year 0 comes before year 1. -/
structure CivilDate where
  year : Int
  month : Int
  day : Int
  deriving DecidableEq

namespace CivilDate

/-- Days from 1 March of year 0 to 1 January 1970. -/
def epochOffset : Int := 719468

/-- Days of an era, of a century that is not the last of its era, of a span of four
years with a leap day, and of a year without one. -/
def eraLength : Int := 146097

@[inherit_doc eraLength] def centuryLength : Int := 36524

@[inherit_doc eraLength] def spanLength : Int := 1461

@[inherit_doc eraLength] def yearLength : Int := 365

/-- The year within its era that a day of the era belongs to. -/
def yearOfEra (day : Int) : Int :=
  let century := min (day / centuryLength) 3
  let dayOfCentury := day - century * centuryLength
  let span := dayOfCentury / spanLength
  let dayOfSpan := dayOfCentury - span * spanLength
  100 * century + 4 * span + min (dayOfSpan / yearLength) 3

/-- Days of an era before a year of it. -/
def daysBeforeYear (year : Int) : Int := yearLength * year + year / 4 - year / 100

/-- Days of a year before a month of it, with March as month 0. -/
def daysBeforeMonth (month : Int) : Int := (153 * month + 2) / 5

/-- The month of a day of the year, with March as month 0. -/
def monthOfYear (day : Int) : Int := (5 * day + 2) / 153

/-- The date of a day number. -/
def ofDayNumber (n : Int) : CivilDate :=
  let era := (n + epochOffset) / eraLength
  let dayOfEra := (n + epochOffset) % eraLength
  let year := yearOfEra dayOfEra
  let dayOfYear := dayOfEra - daysBeforeYear year
  let month := monthOfYear dayOfYear
  { year := year + era * 400 + (if month < 10 then 0 else 1)
    month := if month < 10 then month + 3 else month - 9
    day := dayOfYear - daysBeforeMonth month + 1 }

/-- The number of the day with a date. A day beyond the end of its month is a day of the
months after it. -/
def dayNumber (date : CivilDate) : Int :=
  let year := if date.month ≤ 2 then date.year - 1 else date.year
  let month := if date.month ≤ 2 then date.month + 9 else date.month - 3
  (year / 400) * eraLength + daysBeforeYear (year % 400) + daysBeforeMonth month
    + (date.day - 1) - epochOffset

/-- The years of an era are 0 to 399. -/
theorem yearOfEra_bounds (day : Int) (h : 0 ≤ day) (h' : day < eraLength) :
    0 ≤ yearOfEra day ∧ yearOfEra day < 400 := by
  simp only [yearOfEra, centuryLength, spanLength, yearLength, eraLength] at *
  omega

/-- The days before a year, by its century, its span and its place in the span. -/
theorem daysBeforeYear_of_parts (century span year : Int) (hs : 0 ≤ span) (hs' : span ≤ 24)
    (hy : 0 ≤ year) (hy' : year ≤ 3) :
    daysBeforeYear (100 * century + 4 * span + year) =
      century * centuryLength + span * spanLength + year * yearLength := by
  have quarters : (100 * century + 4 * span + year) / 4 = 25 * century + span := by omega
  have hundreds : (100 * century + 4 * span + year) / 100 = century := by omega
  simp only [daysBeforeYear, quarters, hundreds, centuryLength, spanLength, yearLength]
  omega

/-- A day of an era by its century, span and year and the day of that. Only the last year of a span
has a 366th day, and the last span of a century only has it in the last century. -/
theorem exists_parts (day : Int) (h : 0 ≤ day) (h' : day < eraLength) :
    ∃ century span year rest, yearOfEra day = 100 * century + 4 * span + year ∧
      day = century * centuryLength + span * spanLength + year * yearLength + rest ∧
      (0 ≤ century ∧ century ≤ 3) ∧ (0 ≤ span ∧ span ≤ 24) ∧ (0 ≤ year ∧ year ≤ 3) ∧
      (0 ≤ rest ∧ rest ≤ 365) ∧ (rest = 365 → year = 3 ∧ (span = 24 → century = 3)) := by
  simp only [eraLength] at h'
  simp only [yearOfEra]
  generalize first : min (day / centuryLength) 3 = century
  generalize second : (day - century * centuryLength) / spanLength = span
  generalize third : min ((day - century * centuryLength - span * spanLength) / yearLength) 3 = year
  simp only [centuryLength, spanLength, yearLength] at *
  have inCentury : 0 ≤ day - century * 36524 ∧ day - century * 36524 ≤ 36524 ∧
      (day - century * 36524 = 36524 → century = 3) := by omega
  have inSpan : 0 ≤ day - century * 36524 - span * 1461 ∧
      day - century * 36524 - span * 1461 ≤ 1460 := by omega
  exact ⟨century, span, year, day - century * 36524 - span * 1461 - year * 365,
    rfl, by omega, by omega, by omega, by omega, by omega, by omega⟩

/-- A day of an era lies within the year it belongs to. -/
theorem dayOfYear_bounds (day : Int) (h : 0 ≤ day) (h' : day < eraLength) :
    0 ≤ day - daysBeforeYear (yearOfEra day) ∧ day - daysBeforeYear (yearOfEra day) ≤ 365 := by
  obtain ⟨century, span, year, rest, parts, total, -, inCentury, inSpan, inYear, -⟩ :=
    exists_parts day h h'
  rw [parts, daysBeforeYear_of_parts _ _ _ inCentury.1 inCentury.2 inSpan.1 inSpan.2]
  omega

/-- The months of a year are 0 to 11. -/
theorem monthOfYear_bounds (day : Int) (h : 0 ≤ day) (h' : day ≤ 365) :
    0 ≤ monthOfYear day ∧ monthOfYear day ≤ 11 := by
  simp only [monthOfYear]
  omega

/-- The number of the day with the given parts, counted from March. -/
theorem dayNumber_of_parts (era year month day : Int) (hy : 0 ≤ year) (hy' : year < 400)
    (hm : 0 ≤ month) (hm' : month ≤ 11) :
    dayNumber ⟨year + era * 400 + (if month < 10 then 0 else 1),
      if month < 10 then month + 3 else month - 9, day⟩ =
    era * eraLength + daysBeforeYear year + daysBeforeMonth month + (day - 1) - epochOffset := by
  by_cases spring : month < 10
  · have past : ¬ month + 3 ≤ 2 := by omega
    have eras : (year + era * 400 + 0) / 400 = era := by omega
    have rest : (year + era * 400 + 0) % 400 = year := by omega
    have same : month + 3 - 3 = month := by omega
    simp only [dayNumber, spring, if_true, past, if_false, eras, rest, same]
  · have early : month - 9 ≤ 2 := by omega
    have eras : (year + era * 400 + 1 - 1) / 400 = era := by omega
    have rest : (year + era * 400 + 1 - 1) % 400 = year := by omega
    have same : month - 9 + 9 = month := by omega
    simp only [dayNumber, spring, if_false, early, if_true, eras, rest, same]

/-- A day is found again under its date. -/
theorem dayNumber_ofDayNumber (n : Int) : (ofDayNumber n).dayNumber = n := by
  have low : 0 ≤ (n + epochOffset) % eraLength := Int.emod_nonneg _ (by decide)
  have high : (n + epochOffset) % eraLength < eraLength := Int.emod_lt_of_pos _ (by decide)
  have year := yearOfEra_bounds _ low high
  have day := dayOfYear_bounds _ low high
  have month := monthOfYear_bounds _ day.1 day.2
  have whole := Int.mul_ediv_add_emod (n + epochOffset) eraLength
  simp only [ofDayNumber]
  rw [dayNumber_of_parts _ _ _ _ year.1 year.2 month.1 month.2]
  rw [Int.mul_comm] at whole
  omega

/-- Different days have different dates. -/
theorem ofDayNumber_injective {m n : Int} (h : ofDayNumber m = ofDayNumber n) : m = n := by
  rw [← dayNumber_ofDayNumber m, h, dayNumber_ofDayNumber]

end CivilDate

end MeterSignals
