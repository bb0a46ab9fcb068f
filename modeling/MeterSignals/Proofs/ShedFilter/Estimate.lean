/-
# The estimate over an ordered field

Without rounding, a step in which the reading does not replace the estimate goes a part of the
way from the estimate to the reading, and stops between the two. So the order of two estimates
and of two readings is the order of what comes of them. This module says so, and what the rows
of estimates and flags look like at a single frame of a longer row.
-/

import Mathlib.Algebra.Order.Field.Basic
import Mathlib.Tactic.Ring
import MeterSignals.ShedFilter

namespace MeterSignals.ShedFilter

variable {α : Type} [Field α]

section Mean

variable (filter : ShedFilter α) (estimate reading : α)

/-- The estimate after a reading that does not replace it. -/
def relaxed : α := estimate - (estimate - reading) / filter.timeConstant

/-- A relaxed estimate is a weighted mean of the old one and the reading. -/
theorem relaxed_eq :
    filter.relaxed estimate reading =
      (1 - filter.timeConstant⁻¹) * estimate + filter.timeConstant⁻¹ * reading := by
  rw [relaxed, div_eq_mul_inv]
  ring

@[simp]
theorem relaxed_self : filter.relaxed estimate estimate = estimate := by
  rw [relaxed, sub_self, zero_div, sub_zero]

end Mean

variable [LinearOrder α]

section Jump

variable {filter : ShedFilter α} {estimate reading : α}

theorem advance_of_jump (jump : estimate < reading ∧ filter.threshold < reading) :
    filter.advance estimate reading = reading :=
  if_pos jump

theorem advance_of_no_jump (stays : ¬ (estimate < reading ∧ filter.threshold < reading)) :
    filter.advance estimate reading = filter.relaxed estimate reading :=
  if_neg stays

end Jump

section Run

variable (filter : ShedFilter α) (estimate : α) (readings : List (Option α))

/-- The estimate after a row of frames. -/
def after : α :=
  readings.foldl (fun estimate reading => (filter.step estimate reading).1) estimate

theorem run_append (later : List (Option α)) :
    filter.run estimate (readings ++ later) =
      filter.run estimate readings ++ filter.run (filter.after estimate readings) later := by
  induction readings generalizing estimate with
  | nil => rfl
  | cons reading readings ih =>
      rw [List.cons_append, run, run, ih, List.cons_append]
      rfl

@[simp]
theorem length_run : (filter.run estimate readings).length = readings.length := by
  induction readings generalizing estimate with
  | nil => rfl
  | cons reading readings ih => rw [run, List.length_cons, ih, List.length_cons]

/-- What comes of a frame in the middle of a row is its step from the estimate before it. -/
theorem run_getElem?_length (frame : Option α) (later : List (Option α)) :
    (filter.run estimate (readings ++ frame :: later))[readings.length]? =
      some (filter.step (filter.after estimate readings) frame) := by
  rw [run_append, List.getElem?_append_right (filter.length_run estimate readings).le,
    length_run, Nat.sub_self, run, List.getElem?_cons_zero]

/-- What comes of the frames in the middle of a row is their own row from the estimate before
them. -/
theorem take_drop_run (earlier later : List (Option α)) :
    ((filter.run estimate (earlier ++ readings ++ later)).drop earlier.length).take
        readings.length = filter.run (filter.after estimate earlier) readings := by
  rw [List.append_assoc, run_append, ← filter.length_run estimate earlier, List.drop_left,
    run_append, ← filter.length_run (filter.after estimate earlier) readings, List.take_left]

end Run

variable [IsStrictOrderedRing α] {filter : ShedFilter α} (least : 1 ≤ filter.timeConstant)

include least

/-- The order of the estimates and of the readings is that of the relaxed estimates. -/
theorem relaxed_mono {estimate estimate' reading reading' : α} (estimates : estimate' ≤ estimate)
    (readings : reading' ≤ reading) :
    filter.relaxed estimate' reading' ≤ filter.relaxed estimate reading := by
  have weight : 0 ≤ filter.timeConstant⁻¹ := inv_nonneg.mpr (zero_le_one.trans least)
  have rest : 0 ≤ 1 - filter.timeConstant⁻¹ := sub_nonneg.mpr (inv_le_one_of_one_le₀ least)
  rw [relaxed_eq, relaxed_eq]
  exact add_le_add (mul_le_mul_of_nonneg_left estimates rest)
    (mul_le_mul_of_nonneg_left readings weight)

/-- What neither the estimate nor the reading exceeds, the relaxed estimate does not exceed. -/
theorem relaxed_le {estimate reading bound : α} (estimates : estimate ≤ bound)
    (readings : reading ≤ bound) : filter.relaxed estimate reading ≤ bound :=
  calc filter.relaxed estimate reading ≤ filter.relaxed bound bound :=
        relaxed_mono least estimates readings
    _ = bound := filter.relaxed_self bound

theorem le_relaxed {estimate reading bound : α} (estimates : bound ≤ estimate)
    (readings : bound ≤ reading) : bound ≤ filter.relaxed estimate reading :=
  calc bound = filter.relaxed bound bound := (filter.relaxed_self bound).symm
    _ ≤ filter.relaxed estimate reading := relaxed_mono least estimates readings

end MeterSignals.ShedFilter
