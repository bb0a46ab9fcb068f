/-
# The flag of the filter

A reading above the threshold sets the flag at its own frame, whatever came before: the estimate
jumps to the reading or is above it already. The other readings can only hold the flag, as long
as the estimate is still above the threshold, and once it is not they cannot bring it back. So
between two readings above the threshold the flag falls once at most, and before the first it is
never set.
-/

import Mathlib.Algebra.Order.Ring.Rat
import Mathlib.Tactic.NormNum
import MeterSignals.Proofs.ShedFilter.Estimate

namespace MeterSignals.ShedFilter

/-- The flags of the frames that have one, in order. -/
def flags {α : Type} (outputs : List (α × Option Bool)) : List Bool := outputs.filterMap Prod.snd

section Below

variable {α : Type} [LinearOrder α] {filter : ShedFilter α}

/-- No frame of the row has a reading above the threshold. -/
def StaysBelow (filter : ShedFilter α) (readings : List (Option α)) : Prop :=
  ∀ frame ∈ readings, ∀ reading ∈ frame, reading ≤ filter.threshold

instance (readings : List (Option α)) : Decidable (filter.StaysBelow readings) :=
  inferInstanceAs (Decidable (∀ frame ∈ readings, ∀ reading ∈ frame, reading ≤ filter.threshold))

theorem StaysBelow.tail {frame : Option α} {readings : List (Option α)}
    (below : filter.StaysBelow (frame :: readings)) : filter.StaysBelow readings :=
  fun frame member => below frame (List.mem_cons_of_mem _ member)

theorem StaysBelow.head {reading : α} {readings : List (Option α)}
    (below : filter.StaysBelow (some reading :: readings)) : reading ≤ filter.threshold :=
  below _ List.mem_cons_self reading rfl

end Below

variable {α : Type} [Field α] [LinearOrder α] {filter : ShedFilter α}

/-- A reading has a flag, and the flags of the frames behind it follow from its estimate. -/
theorem flags_run_cons (estimate reading : α) (readings : List (Option α)) :
    flags (filter.run estimate (some reading :: readings)) =
      filter.exceeds (filter.advance estimate reading) ::
        flags (filter.run (filter.advance estimate reading) readings) := rfl

/-- Frames without a reading may be left out: what comes of the others stays the same. -/
theorem run_filter_isSome (estimate : α) (readings : List (Option α)) :
    filter.run estimate (readings.filter Option.isSome) =
      (filter.run estimate readings).filter (·.2.isSome) := by
  induction readings generalizing estimate with
  | nil => rfl
  | cons frame readings ih =>
      cases frame with
      | none => exact ih estimate
      | some reading => exact congrArg _ (ih _)

variable [IsStrictOrderedRing α] (least : 1 ≤ filter.timeConstant) {estimate reading : α}

include least

/-- A reading above the threshold leaves the estimate above the threshold. -/
theorem threshold_lt_advance (above : filter.threshold < reading) :
    filter.threshold < filter.advance estimate reading := by
  by_cases jump : estimate < reading ∧ filter.threshold < reading
  · rwa [advance_of_jump jump]
  · have high : reading ≤ estimate := not_lt.mp fun rises => jump ⟨rises, above⟩
    rw [advance_of_no_jump jump]
    exact above.trans_le (le_relaxed least high le_rfl)

/-- No other reading brings an estimate above the threshold. -/
theorem advance_le_threshold (low : estimate ≤ filter.threshold)
    (below : reading ≤ filter.threshold) :
    filter.advance estimate reading ≤ filter.threshold := by
  rw [advance_of_no_jump fun jump => below.not_gt jump.2]
  exact relaxed_le least low below

/-- As long as the estimate is not above the threshold, the flag is that of the reading. -/
theorem exceeds_advance_of_low (low : estimate ≤ filter.threshold) :
    filter.exceeds (filter.advance estimate reading) = decide (filter.threshold < reading) := by
  rw [exceeds, decide_eq_decide]
  constructor
  · intro exceeded
    exact not_le.mp fun below => (advance_le_threshold least low below).not_gt exceeded
  · exact threshold_lt_advance least

/-- An estimate that is not above the threshold stays there, without a flag, until a reading is
above the threshold. -/
theorem run_of_low {readings : List (Option α)} (low : estimate ≤ filter.threshold)
    (below : filter.StaysBelow readings) :
    ∀ output ∈ filter.run estimate readings,
      output.1 ≤ filter.threshold ∧ output.2 ≠ some true := by
  induction readings generalizing estimate with
  | nil => exact List.forall_mem_nil _
  | cons frame readings ih =>
      rw [run, List.forall_mem_cons]
      cases frame with
      | none => exact ⟨⟨low, (Option.some_ne_none true).symm⟩, ih low below.tail⟩
      | some reading =>
          have next := advance_le_threshold least low below.head
          refine ⟨⟨next, fun on => ?_⟩, ih next below.tail⟩
          exact next.not_gt (of_decide_eq_true (Option.some.inj on))

theorem flags_of_low {readings : List (Option α)} (low : estimate ≤ filter.threshold)
    (below : filter.StaysBelow readings) :
    ∃ off, flags (filter.run estimate readings) = List.replicate off false := by
  refine ⟨_, List.eq_replicate_iff.mpr ⟨rfl, fun flag member => ?_⟩⟩
  obtain ⟨output, found, set⟩ := List.mem_filterMap.mp member
  have unset := (run_of_low least low below output found).2
  cases flag with
  | false => rfl
  | true => exact absurd set unset

/-- Without a reading above the threshold the flag falls once at most, from any estimate on. -/
theorem flags_of_staysBelow {readings : List (Option α)} (below : filter.StaysBelow readings) :
    ∃ on off, flags (filter.run estimate readings) =
      List.replicate on true ++ List.replicate off false := by
  induction readings generalizing estimate with
  | nil => exact ⟨0, 0, rfl⟩
  | cons frame readings ih =>
      cases frame with
      | none => exact ih below.tail
      | some reading =>
          rcases le_or_gt (filter.advance estimate reading) filter.threshold with low | high
          · obtain ⟨off, rest⟩ := flags_of_low least low below.tail
            refine ⟨0, off + 1, ?_⟩
            rw [flags_run_cons, rest, exceeds, decide_eq_false low.not_gt]
            rfl
          · obtain ⟨on, off, rest⟩ := ih below.tail
            refine ⟨on + 1, off, ?_⟩
            rw [flags_run_cons, rest, exceeds, decide_eq_true high]
            rfl

/-- The flag is debounced, from the estimate zero on and over any row of frames. A reading above
the threshold sets it at once, and while the estimate before a reading is not above the threshold
it is set by no other reading. Among frames without a reading above the threshold the flags that
are set come before those that are not, and if such frames are the first ones none is set. A frame
without a reading has no flag and leaves the estimate as it is, and may be left out. -/
theorem flag_is_debounced (positive : 0 < filter.threshold) (readings : List (Option α)) :
    (∀ earlier reading later, readings = earlier ++ some reading :: later →
      ∃ next flag, (filter.run 0 readings)[earlier.length]? = some (next, some flag) ∧
        (filter.threshold < reading → flag = true) ∧
        (filter.after 0 earlier ≤ filter.threshold →
          (flag = true ↔ filter.threshold < reading))) ∧
    (∀ earlier between later, readings = earlier ++ between ++ later →
      filter.StaysBelow between → ∃ on off,
        flags (((filter.run 0 readings).drop earlier.length).take between.length) =
          List.replicate on true ++ List.replicate off false) ∧
    (∀ first later, readings = first ++ later → filter.StaysBelow first →
      ∀ output ∈ (filter.run 0 readings).take first.length, output.2 ≠ some true) ∧
    (∀ earlier later, readings = earlier ++ none :: later →
      (filter.run 0 readings)[earlier.length]? = some (filter.after 0 earlier, none)) ∧
    filter.run 0 (readings.filter Option.isSome) =
      (filter.run 0 readings).filter (·.2.isSome) := by
  refine ⟨?_, ?_, ?_, ?_, run_filter_isSome 0 readings⟩
  · rintro earlier reading later rfl
    refine ⟨_, _, filter.run_getElem?_length 0 earlier (some reading) later, ?_, ?_⟩
    · intro above
      exact decide_eq_true (threshold_lt_advance least above)
    · intro low
      rw [exceeds_advance_of_low least low, decide_eq_true_eq]
  · rintro earlier between later rfl below
    rw [filter.take_drop_run]
    exact flags_of_staysBelow least below
  · rintro first later rfl below
    have taken := filter.take_drop_run 0 first [] later
    rw [List.nil_append, List.length_nil, List.drop_zero] at taken
    rw [taken]
    exact fun output member => (run_of_low least positive.le below output member).2
  · rintro earlier later rfl
    exact filter.run_getElem?_length 0 earlier none later

omit least

/-- Readings of 9500 and 9001, with four frames between them that stay below the threshold. -/
theorem flag_of_eight_frames :
    let filter : ShedFilter ℚ := ⟨9000, 2⟩
    let first : List (Option ℚ) := [some 8000, none]
    let before := first ++ [some 9500]
    let between : List (Option ℚ) := [some 8700, none, some 8000, some 8900]
    let readings := before ++ between ++ [some 9001]
    (filter.run 0 readings).map Prod.snd =
        [some false, none, some true, some true, none, some false, some false, some true] ∧
      (∃ on off, flags (((filter.run 0 readings).drop before.length).take between.length) =
        List.replicate on true ++ List.replicate off false) ∧
      ∀ output ∈ (filter.run 0 readings).take first.length, output.2 ≠ some true := by
  intro filter first before between readings
  have least : 1 ≤ filter.timeConstant := by norm_num
  obtain ⟨-, falls, unset, -⟩ := flag_is_debounced least (by norm_num) readings
  exact ⟨by decide +kernel, falls before between [some 9001] rfl (by decide +kernel),
    unset first _ rfl (by decide +kernel)⟩

end MeterSignals.ShedFilter
