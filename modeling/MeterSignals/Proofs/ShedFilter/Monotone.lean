/-
# More power sheds no less

Two filters with the same time constant read two rows of frames, of which the first states at
least the power of the second at every frame. If the first filter starts from no lower estimate
and has no higher threshold, then its estimate is never the lower one and its flag is never off
while the other one is on. One step keeps the order of the estimates, whichever of the two
readings replaces its estimate, and the rows follow frame by frame.
-/

import Mathlib.Algebra.Order.Ring.Rat
import Mathlib.Data.List.Forall2
import Mathlib.Tactic.NormNum
import MeterSignals.Proofs.ShedFilter.Estimate

namespace MeterSignals.ShedFilter

variable {α : Type} [Field α] [LinearOrder α]

/-- The first estimate is no lower, and the first flag is on where the second is. -/
def ShedsNoLess (first second : α × Option Bool) : Prop :=
  second.1 ≤ first.1 ∧ (second.2 = some true → first.2 = some true)

variable [IsStrictOrderedRing α] {constant threshold threshold' : α}

/-- A reading keeps the order of two estimates. -/
theorem advance_mono (least : 1 ≤ constant) (thresholds : threshold ≤ threshold')
    {estimate estimate' reading reading' : α} (estimates : estimate' ≤ estimate)
    (readings : reading' ≤ reading) :
    advance ⟨threshold', constant⟩ estimate' reading' ≤
      advance ⟨threshold, constant⟩ estimate reading := by
  by_cases jump : estimate < reading ∧ threshold < reading
  · have first : advance ⟨threshold, constant⟩ estimate reading = reading := advance_of_jump jump
    rw [first]
    by_cases jump' : estimate' < reading' ∧ threshold' < reading'
    · have second : advance ⟨threshold', constant⟩ estimate' reading' = reading' :=
        advance_of_jump jump'
      rw [second]
      exact readings
    · -- The first estimate has gone all the way up, the second at most to the higher reading.
      rw [advance_of_no_jump jump']
      exact relaxed_le least (estimates.trans jump.1.le) readings
  · have first : advance ⟨threshold, constant⟩ estimate reading =
        relaxed ⟨threshold, constant⟩ estimate reading := advance_of_no_jump jump
    rw [first]
    by_cases jump' : estimate' < reading' ∧ threshold' < reading'
    · -- The first reading is above its threshold, too, so its estimate is above the reading.
      have above : threshold < reading := thresholds.trans_lt (jump'.2.trans_le readings)
      have high : reading ≤ estimate := not_lt.mp fun rises => jump ⟨rises, above⟩
      have second : advance ⟨threshold', constant⟩ estimate' reading' = reading' :=
        advance_of_jump jump'
      rw [second]
      exact le_relaxed least (readings.trans high) readings
    · rw [advance_of_no_jump jump']
      exact relaxed_mono least estimates readings

/-- Higher consumption or a lower threshold never sheds less: from no lower an estimate on, with
the same time constant and no higher a threshold, readings that are nowhere lower keep the
estimate no lower at every frame, and the flag is on wherever it is on for the other readings. -/
theorem run_mono (least : 1 ≤ constant) (thresholds : threshold ≤ threshold')
    {estimate estimate' : α} (estimates : estimate' ≤ estimate)
    {readings readings' : List (Option α)}
    (higher : List.Forall₂ (Option.Rel fun reading reading' => reading' ≤ reading)
      readings readings') :
    List.Forall₂ ShedsNoLess (run ⟨threshold, constant⟩ estimate readings)
      (run ⟨threshold', constant⟩ estimate' readings') := by
  induction higher generalizing estimate estimate' with
  | nil => exact .nil
  | cons frames rest ih =>
      cases frames with
      | none => exact .cons ⟨estimates, nofun⟩ (ih estimates)
      | some order =>
          have next := advance_mono least thresholds estimates order
          refine .cons ⟨next, fun on => ?_⟩ (ih next)
          have above : threshold' < advance ⟨threshold', constant⟩ estimate' _ :=
            of_decide_eq_true (Option.some.inj on)
          exact congrArg some (decide_eq_true (thresholds.trans_lt (above.trans_le next)))

/-- The reading of 9050 replaces the first estimate only, the one of 9200 the second only; after
that both decay, and the second flag falls first. -/
theorem run_mono_of_four_frames :
    let first : ShedFilter ℚ := ⟨9000, 2⟩
    let second : ShedFilter ℚ := ⟨9100, 2⟩
    first.run 9000 [some 9050, none, some 9300, some 8800] =
        [(9050, some true), (9050, none), (9300, some true), (9050, some true)] ∧
      second.run 0 [some 9050, none, some 9200, some 8800] =
        [(4525, some false), (4525, none), (9200, some true), (9000, some false)] ∧
      List.Forall₂ ShedsNoLess (first.run 9000 [some 9050, none, some 9300, some 8800])
        (second.run 0 [some 9050, none, some 9200, some 8800]) := by
  intro first second
  refine ⟨by decide +kernel, by decide +kernel, run_mono (by norm_num) (by norm_num)
    (by norm_num) ?_⟩
  exact .cons (.some le_rfl) (.cons .none (.cons (.some (by norm_num)) (.cons (.some le_rfl) .nil)))

end MeterSignals.ShedFilter
