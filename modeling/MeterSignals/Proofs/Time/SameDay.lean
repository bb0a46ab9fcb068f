/-
# Readings of one day

A local day is 24 hours of the clock, and two readings of one day are recognised by their dates,
since a date belongs to one day only. A schedule recognises the day of its last look by the day of
the month alone. This comes to the same as long as the looks are less than 28 days apart, which is
the length of the shortest month.
-/

import Mathlib.Data.Int.ConditionallyCompleteOrder
import Mathlib.Data.Rat.Floor
import MeterSignals.Fallback.Schedule
import MeterSignals.Proofs.Time.Gregorian

namespace MeterSignals

namespace Zone

variable (home : Zone)

/-- The day of a reading, as 24 hours of the clock that are rounded down. -/
theorem dayNumber_eq_floor (t : Int) :
    home.dayNumber t = ⌊((t + home.offset : Int) : ℚ) / 86400000⌋ :=
  (Rat.floor_intCast_div_natCast (t + home.offset) 86400000).symm

/-- Readings are on the day of a moment from one midnight to the next. -/
theorem dayNumber_eq_iff {a b : Int} :
    home.dayNumber a = home.dayNumber b ↔
      b ∈ Set.Ico (home.dayNumber a * 86400000 - home.offset)
        (home.dayNumber a * 86400000 - home.offset + 86400000) := by
  rw [Set.mem_Ico]
  simp only [dayNumber, Instant.dayLength]
  omega

theorem dayNumber_add_day (t : Int) :
    home.dayNumber (t + Instant.dayLength) = home.dayNumber t + 1 := by
  simp only [dayNumber, Instant.dayLength]
  omega

/-- Readings that are at most 27 days apart are on days that are at most 27 days apart. -/
theorem abs_dayNumber_sub_le {a b : Int} (near : |a - b| ≤ 27 * 86400000) :
    |home.dayNumber a - home.dayNumber b| ≤ 27 := by
  rw [abs_le] at near ⊢
  simp only [dayNumber, Instant.dayLength]
  omega

end Zone

/-- On days that are at most 27 days apart the days of the month are the same exactly if the days
are. -/
theorem CivilDate.day_eq_iff {m n : Int} (near : |m - n| ≤ 27) :
    (ofDayNumber m).day = (ofDayNumber n).day ↔ m = n := by
  refine ⟨fun same => ?_, fun same => same ▸ rfl⟩
  obtain ⟨low, high⟩ := abs_le.mp near
  by_contra apart
  rcases Int.lt_or_gt_of_ne apart with before | after
  · have far := add_le_of_day_eq before same
    omega
  · have far := add_le_of_day_eq after same.symm
    omega

/-- A schedule is kept exactly if it remembers the day of the month. -/
theorem Schedule.rollOver_eq_self_iff {home : Zone} {schedule : Schedule} {a b : Instant}
    (seen : schedule.lastSeenDay = .ofReading home (some a)) :
    schedule.rollOver home (some b) = schedule ↔ (home.date a).day = (home.date b).day := by
  rw [rollOver, seen]
  change (if ((home.date a).day == (home.date b).day) = true then _ else _) = _ ↔ _
  split
  · next same => exact iff_of_true rfl (beq_iff_eq.mp same)
  · next other =>
      refine iff_of_false (fun kept => ?_) (fun same => other (beq_iff_eq.mpr same))
      have day := (congrArg lastSeenDay kept).trans seen
      exact other (beq_iff_eq.mpr (DayMark.day.inj day).symm)

namespace Zone

/-- Local dates are those of the Gregorian calendar, and each lasts for 24 hours: two readings are
on the same day exactly if as many whole days have passed by then on the local clock. So being on
the same day is an equivalence, and its classes go from one midnight to the next. For readings that
are at most 27 days apart a schedule that remembers the day of the first is kept by the second
exactly if they are on the same day. No instant is on no day, not even on that of no instant. -/
theorem same_day_iff_whole_days (home : Zone) :
    (home.date (-home.offset) = ⟨1970, 1, 1⟩ ∧
      ∀ t : Int, (home.date t).IsProper ∧ home.date (t + 86400000) = (home.date t).next) ∧
    (∀ a b : Int, home.isSameDay (some a) (some b) = true ↔
      ⌊((a + home.offset : Int) : ℚ) / 86400000⌋ = ⌊((b + home.offset : Int) : ℚ) / 86400000⌋) ∧
    Equivalence (fun a b : Instant => home.isSameDay (some a) (some b) = true) ∧
    (∀ a : Int, ∃ midnight : Int, home.minuteOfDay midnight = 0 ∧
      {b : Int | home.isSameDay (some a) (some b) = true} =
        Set.Ico midnight (midnight + 86400000)) ∧
    (∀ (schedule : Schedule) (a b : Int),
      schedule.lastSeenDay = .day (home.date a).day → |a - b| ≤ 27 * 86400000 →
        (schedule.rollOver home (some b) = schedule ↔
          home.isSameDay (some a) (some b) = true)) ∧
    ∀ reading, home.isSameDay none reading = false ∧ home.isSameDay reading none = false := by
  refine ⟨⟨?_, fun t => ⟨?_, ?_⟩⟩, fun a b => ?_,
    ⟨fun a => ?_, fun same => ?_, fun same next => ?_⟩, fun a => ?_,
    fun schedule a b seen near => ?_, fun reading => ⟨rfl, ?_⟩⟩
  · rw [date, dayNumber, Int.add_left_neg]
    exact CivilDate.ofDayNumber_zero
  · exact CivilDate.isProper_ofDayNumber _
  · rw [date, date, ← CivilDate.ofDayNumber_add_one]
    exact congrArg _ (home.dayNumber_add_day t)
  · rw [isSameDay_iff, dayNumber_eq_floor, dayNumber_eq_floor]
  · rw [isSameDay_iff]
  · rw [isSameDay_iff] at same ⊢
    exact same.symm
  · rw [isSameDay_iff] at same next ⊢
    exact same.trans next
  · refine ⟨home.dayNumber a * 86400000 - home.offset, ?_, ?_⟩
    · rw [minuteOfDay, Int.sub_add_cancel]
      exact congrArg (· / _) (Int.mul_emod_left _ _)
    · ext b
      exact (home.isSameDay_iff).trans home.dayNumber_eq_iff
  · rw [Schedule.rollOver_eq_self_iff seen, isSameDay_iff]
    exact CivilDate.day_eq_iff (home.abs_dayNumber_sub_le near)
  · cases reading <;> rfl

/-- The last moment of February 1900, which had 28 days, and the one after it. -/
theorem other_day_after_february :
    let home : Zone := ⟨0⟩
    let schedule : Schedule := ⟨.never, .day 28, some .red⟩
    home.date (-2203891200001) = ⟨1900, 2, 28⟩ ∧ home.date (-2203891200000) = ⟨1900, 3, 1⟩ ∧
      home.isSameDay (some (-2203891200001)) (some (-2203891200000)) = false ∧
      schedule.rollOver home (some (-2203891200000)) ≠ schedule := by
  intro home schedule
  have other : home.isSameDay (some (-2203891200001)) (some (-2203891200000)) = false := by decide
  have february : home.date (-2203891200001) = ⟨1900, 2, 28⟩ := by decide
  refine ⟨february, by decide, other, fun kept => ?_⟩
  have near : |(-2203891200001 : Int) - -2203891200000| ≤ 27 * 86400000 := by decide
  have same := ((same_day_iff_whole_days home).2.2.2.2.1 schedule (-2203891200001) _
    (by rw [february]) near).mp kept
  exact Bool.false_ne_true (other.symm.trans same)

end Zone

end MeterSignals
