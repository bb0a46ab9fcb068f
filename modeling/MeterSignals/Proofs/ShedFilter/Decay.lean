/-
# How fast the estimate falls

A reading that does not replace the estimate leaves a fixed part of the distance between the two.
So as long as the readings stay below the threshold, distances shrink like powers of that part:
a row of equal readings gives a geometric decay, exactly, and any other row stays between the
decays to its least and to its greatest reading. That says when the flag falls. Its delay has a
bound that does not depend on the readings, and for equal readings it is known to the frame.
-/

import Mathlib.Algebra.Order.Archimedean.Basic
import MeterSignals.Proofs.ShedFilter.Flag
import MeterSignals.Proofs.ShedFilter.Monotone

namespace MeterSignals.ShedFilter

section Decayed

variable {α : Type} [Field α] (filter : ShedFilter α) (estimate reading : α)

/-- The part of its distance to a reading that the estimate keeps. -/
def kept : α := 1 - 1 / filter.timeConstant

/-- The estimate after a number of equal readings, if none of them replaces it. -/
def decayed (readings : ℕ) : α := reading + (estimate - reading) * filter.kept ^ readings

@[simp]
theorem decayed_zero : filter.decayed estimate reading 0 = estimate := by
  rw [decayed, pow_zero, mul_one, add_sub_cancel]

/-- One reading more relaxes the estimate once more. -/
theorem decayed_succ (readings : ℕ) :
    filter.decayed estimate reading (readings + 1) =
      filter.relaxed (filter.decayed estimate reading readings) reading := by
  rw [relaxed, decayed, decayed, kept, pow_succ]
  ring

end Decayed

variable {α : Type} [Field α] [LinearOrder α] {filter : ShedFilter α} {estimate reading : α}

/-- A reading that is not above the threshold relaxes the estimate. -/
theorem advance_of_below (below : reading ≤ filter.threshold) :
    filter.advance estimate reading = filter.relaxed estimate reading :=
  advance_of_no_jump fun jump => below.not_gt jump.2

theorem after_append (readings later : List (Option α)) :
    filter.after estimate (readings ++ later) =
      filter.after (filter.after estimate readings) later :=
  List.foldl_append

/-- Equal readings that are not above the threshold let the estimate decay. -/
theorem after_replicate (below : reading ≤ filter.threshold) (total : ℕ) :
    filter.after estimate (List.replicate total (some reading)) =
      filter.decayed estimate reading total := by
  induction total with
  | zero => exact (filter.decayed_zero estimate reading).symm
  | succ total ih =>
      rw [List.replicate_succ', after_append, ih, decayed_succ]
      exact advance_of_below below

/-- What comes of equal readings that are not above the threshold, frame by frame. -/
theorem run_replicate (below : reading ≤ filter.threshold) (total : ℕ) :
    filter.run estimate (List.replicate total (some reading)) =
      (List.range total).map fun earlier =>
        let next := filter.decayed estimate reading (earlier + 1)
        (next, some (filter.exceeds next)) := by
  induction total with
  | zero => rfl
  | succ total ih =>
      rw [List.replicate_succ', run_append, ih, after_replicate below, List.range_succ,
        List.map_append, run, step, advance_of_below below, ← decayed_succ]
      rfl

/-- Every frame with a reading has a flag. -/
theorem isSome_flag_of_run (readings : List α) :
    ∀ output ∈ filter.run estimate (readings.map some), output.2.isSome := by
  induction readings generalizing estimate with
  | nil => exact List.forall_mem_nil _
  | cons reading readings ih => exact List.forall_mem_cons.mpr ⟨rfl, ih⟩

variable [IsStrictOrderedRing α]

section Bounds

variable (least : 1 ≤ filter.timeConstant)

include least

theorem kept_lt_one : filter.kept < 1 := by
  have positive : 0 < filter.timeConstant := zero_lt_one.trans_le least
  rw [kept]
  exact sub_lt_self 1 (one_div_pos.mpr positive)

/-- The order of the estimates and of the readings, one by one, is that of what they lead to. -/
theorem after_mono {estimate' : α} (estimates : estimate' ≤ estimate) {readings readings' : List α}
    (higher : List.Forall₂ (· ≤ ·) readings' readings) :
    filter.after estimate' (readings'.map some) ≤ filter.after estimate (readings.map some) := by
  induction higher generalizing estimate estimate' with
  | nil => exact estimates
  | cons order rest ih => exact ih (advance_mono least le_rfl estimates order)

/-- The estimate is not above the decay to a bound of the readings. -/
theorem after_le_decayed {high : α} (below : high ≤ filter.threshold) {readings : List α}
    (bounded : ∀ reading ∈ readings, reading ≤ high) :
    filter.after estimate (readings.map some) ≤ filter.decayed estimate high readings.length := by
  rw [← after_replicate below, ← List.map_replicate, ← List.map_const']
  refine after_mono least le_rfl ?_
  rwa [List.forall₂_map_right_iff, List.forall₂_same]

/-- The estimate is not below the decay to a bound of the readings, either. -/
theorem decayed_le_after {low : α} (below : low ≤ filter.threshold) {readings : List α}
    (bounded : ∀ reading ∈ readings, low ≤ reading) :
    filter.decayed estimate low readings.length ≤ filter.after estimate (readings.map some) := by
  rw [← after_replicate below, ← List.map_replicate, ← List.map_const']
  refine after_mono least le_rfl ?_
  rwa [List.forall₂_map_left_iff, List.forall₂_same]

/-- From any estimate a decay to a reading below the threshold gets below the threshold. -/
theorem exists_decayed_le [Archimedean α] (estimate : α) (below : reading < filter.threshold) :
    ∃ enough, filter.decayed estimate reading enough ≤ filter.threshold := by
  rcases le_or_gt estimate reading with low | high
  · exact ⟨0, (filter.decayed_zero estimate reading).trans_le (low.trans below.le)⟩
  · have distance : 0 < estimate - reading := sub_pos.mpr high
    have room : 0 < (filter.threshold - reading) / (estimate - reading) :=
      div_pos (sub_pos.mpr below) distance
    obtain ⟨enough, power⟩ := exists_pow_lt_of_lt_one room (kept_lt_one least)
    refine ⟨enough, ?_⟩
    have shrunk := (lt_div_iff₀ distance).mp power
    rw [decayed, ← le_sub_iff_add_le', mul_comm]
    exact shrunk.le

/-- An estimate that is not above the threshold has no flag set while the readings are not
above it. -/
theorem flag_of_low (low : estimate ≤ filter.threshold) {readings : List α}
    (below : ∀ reading ∈ readings, reading ≤ filter.threshold) :
    ∀ output ∈ filter.run estimate (readings.map some), output.2 = some false := by
  intro output member
  have stays : filter.StaysBelow (readings.map some) := by
    rintro frame found reading given
    obtain ⟨shown, listed, rfl⟩ := List.mem_map.mp found
    exact Option.some.inj given ▸ below shown listed
  have unset := (run_of_low least low stays output member).2
  obtain ⟨flag, shown⟩ :=
    Option.isSome_iff_exists.mp (isSome_flag_of_run readings output member)
  rw [shown] at unset ⊢
  cases flag with
  | false => rfl
  | true => exact absurd rfl unset

/-- Readings below the threshold let the flag fall for good within a number of frames that does
not depend on them. -/
theorem exists_drop_of_below [Archimedean α] (estimate : α) {high : α}
    (below : high < filter.threshold) :
    ∃ enough, ∀ readings : List α, (∀ reading ∈ readings, reading ≤ high) →
      ∀ output ∈ (filter.run estimate (readings.map some)).drop enough, output.2 = some false := by
  obtain ⟨enough, decayed⟩ := exists_decayed_le least estimate below
  refine ⟨enough, fun readings bounded => ?_⟩
  rcases le_or_gt readings.length enough with short | long
  · have none : (filter.run estimate (readings.map some)).drop enough = [] :=
      List.drop_eq_nil_of_le (by simpa using short)
    rw [none]
    exact List.forall_mem_nil _
  · -- The first readings bring the estimate down to the threshold, and the others keep it there.
    obtain ⟨first, later, rfl, rfl⟩ : ∃ first later, readings = first ++ later ∧
        first.length = enough :=
      ⟨readings.take enough, readings.drop enough, (List.take_append_drop _ _).symm,
        List.length_take_of_le long.le⟩
    have outputs : (filter.run estimate (first.map some)).length = first.length := by
      rw [length_run, List.length_map]
    rw [List.map_append, run_append, List.drop_left' outputs]
    refine flag_of_low least ?_ fun reading member => ?_
    · exact (after_le_decayed least below.le fun reading member =>
        bounded reading (List.mem_append_left _ member)).trans decayed
    · exact (bounded reading (List.mem_append_right _ member)).trans below.le

/-- The falling edge of the flag, from any estimate. Readings that lie between two bounds, the
greater of them not above the threshold, keep the estimate between the decays to these bounds, in
which the distance shrinks by the same factor with every reading. If the greater bound is below the
threshold, the flag is off from some frame on, which is the same for all such rows of readings. If
all readings are equal and not above the threshold, the estimate is the decay itself, and the flag
of a frame is on exactly if the decay is above the threshold there. -/
theorem falling_edge [Archimedean α] (estimate : α) :
    let kept := 1 - 1 / filter.timeConstant
    (∀ low high, high ≤ filter.threshold → ∀ readings : List α,
      (∀ reading ∈ readings, low ≤ reading ∧ reading ≤ high) →
        low + (estimate - low) * kept ^ readings.length ≤
            filter.after estimate (readings.map some) ∧
          filter.after estimate (readings.map some) ≤
            high + (estimate - high) * kept ^ readings.length) ∧
    (∀ high < filter.threshold, ∃ enough, ∀ low (readings : List α),
      (∀ reading ∈ readings, low ≤ reading ∧ reading ≤ high) →
        ∀ output ∈ (filter.run estimate (readings.map some)).drop enough,
          output.2 = some false) ∧
    ∀ reading ≤ filter.threshold, ∀ total,
      filter.run estimate (List.replicate total (some reading)) =
        (List.range total).map fun earlier =>
          let next := reading + (estimate - reading) * kept ^ (earlier + 1)
          (next, some (decide (filter.threshold < next))) := by
  refine ⟨fun low high below readings within => ?_, fun high below => ?_, fun reading below => ?_⟩
  · refine ⟨?_, after_le_decayed least below fun reading member => (within reading member).2⟩
    cases readings with
    | nil => exact (filter.decayed_zero estimate low).le
    | cons first rest =>
        obtain ⟨lowest, highest⟩ := within first List.mem_cons_self
        exact decayed_le_after least (lowest.trans (highest.trans below))
          fun reading member => (within reading member).1
  · obtain ⟨enough, off⟩ := exists_drop_of_below least estimate below
    exact ⟨enough, fun low readings within =>
      off readings fun reading member => (within reading member).2⟩
  · exact run_replicate below

end Bounds

/-- The estimate 12000 decays to zero readings: the flag of the threshold 9000 is held for 17
frames. -/
theorem falling_edge_of_eighteen_zeros :
    let filter : ShedFilter ℚ := ⟨9000, 60⟩
    1 ≤ filter.timeConstant ∧
      (filter.run 12000 (List.replicate 18 (some 0))).map Prod.snd =
        List.replicate 17 (some true) ++ [some false] ∧
      (∃ enough, ∀ low (readings : List ℚ), (∀ reading ∈ readings, low ≤ reading ∧ reading ≤ 0) →
        ∀ output ∈ (filter.run 12000 (readings.map some)).drop enough, output.2 = some false) ∧
      filter.after 12000 ([-100, 0].map some) ≤ 0 + (12000 - 0) * (1 - 1 / 60) ^ 2 := by
  intro filter
  have least : 1 ≤ filter.timeConstant := by norm_num
  obtain ⟨between, falls, equal⟩ := falling_edge least 12000
  refine ⟨least, ?_, falls 0 (by norm_num), (between (-100) 0 (by norm_num) _ ?_).2⟩
  · rw [equal 0 (by norm_num) 18]
    decide +kernel
  · decide +kernel

end MeterSignals.ShedFilter
