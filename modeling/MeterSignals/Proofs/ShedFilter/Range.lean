/-
# The range of the filter

The filter computes with doubles, and a difference of doubles can be too large for a double.
One step is followed through its three roundings: the distance to the reading, the part of it
that the time constant leaves, and the new estimate. A time constant above one makes the part
smaller than the distance wherever the last rounding could go wrong, so that only the distance
itself has to fit. With a time constant of one nothing is taken off, and the end of the step
has to fit as well.
-/

import MeterSignals.Proofs.Number.Arithmetic
import MeterSignals.ShedFilter

namespace MeterSignals

open Number

/-- `q` lies between zero and `d`. -/
def IsPart (q d : ℚ) : Prop := 0 ≤ q ∧ q ≤ d ∨ d ≤ q ∧ q ≤ 0

namespace IsPart

variable {q d s bound : ℚ}

/-- Going a part of the way stays between the start and the end. -/
theorem abs_sub_le (part : IsPart q d) : |s - q| ≤ max |s| |s - d| := by
  rcases part with ⟨natural, below⟩ | ⟨above, opposite⟩
  · rw [max_comm]
    exact abs_le_max_abs_abs (by linarith) (by linarith)
  · exact abs_le_max_abs_abs (by linarith) (by linarith)

/-- Where less than the whole way is gone, the end is not reached. -/
theorem abs_sub_lt (part : IsPart q d) (proper : |q| < |d|) (start : |s| < bound)
    (finish : |s - d| ≤ bound) : |s - q| < bound := by
  obtain ⟨startLow, startHigh⟩ := abs_lt.mp start
  obtain ⟨finishLow, finishHigh⟩ := abs_le.mp finish
  rw [abs_lt]
  rcases part with ⟨natural, below⟩ | ⟨above, opposite⟩
  · rw [abs_of_nonneg natural, abs_of_nonneg (natural.trans below)] at proper
    constructor <;> linarith
  · rw [abs_of_nonpos opposite, abs_of_nonpos (above.trans opposite), neg_lt_neg_iff] at proper
    constructor <;> linarith

/-- The end is where the whole way leads. -/
theorem eq_of_abs_le (part : IsPart q d) (whole : |d| ≤ |q|) : q = d := by
  rcases part with ⟨natural, below⟩ | ⟨above, opposite⟩
  · rw [abs_of_nonneg natural, abs_of_nonneg (natural.trans below)] at whole
    exact le_antisymm below whole
  · rw [abs_of_nonpos opposite, abs_of_nonpos (above.trans opposite), neg_le_neg_iff] at whole
    exact le_antisymm whole above

end IsPart

/-- What is off from a distance by `e` leads past the end by `e` at most. -/
theorem abs_sub_le_of_error {s v d e : ℚ} (error : |d - (s - v)| ≤ e) : |s - d| ≤ |v| + e := by
  calc |s - d| = |v - (d - (s - v))| := by ring_nf
    _ ≤ |v| + |d - (s - v)| := abs_sub _ _
    _ ≤ |v| + e := add_le_add_right error _

theorem largest_lt_overflow : largest < overflow := by
  rw [largest, overflow]
  exact mul_lt_mul_of_pos_right (by norm_num) halfUnit_pos

theorem one_lt_iff {c : Float} (constant : c.isFinite = true) : 1 < c ↔ 1 < value c := by
  rw [lt_iff rfl constant, value_one]

theorem one_le_value {c : Float} (constant : c.isFinite = true) (least : 1 ≤ c) :
    1 ≤ value c := by
  have order := (le_iff rfl constant).mp least
  rwa [value_one] at order

theorem one_le_of_one_lt {c : Float} (constant : c.isFinite = true) (more : 1 < c) : 1 ≤ c :=
  (le_iff rfl constant).mpr ((lt_iff rfl constant).mp more).le

section Quotient

variable {d c : Float}

/-- A quotient by at least one is a part. -/
theorem isPart_div (finite : d.isFinite = true) (constant : c.isFinite = true) (least : 1 ≤ c) :
    (d / c).isFinite = true ∧ IsPart (value (d / c)) (value d) := by
  have one := one_le_value constant least
  have positive : 0 < value c := zero_lt_one.trans_le one
  have quotient := approximates_div finite positive.ne'
  obtain ⟨double, small⟩ := isMagnitude_value finite
  have shrinks : |value d / value c| ≤ |value d| := by
    rw [abs_div, abs_of_pos positive]
    exact div_le_self (abs_nonneg _) one
  have inside : (d / c).isFinite = true :=
    quotient.isFinite_iff.mpr ((shrinks.trans small).trans_lt largest_lt_overflow)
  obtain ⟨u, rounds, same⟩ := quotient.rounds inside
  have size := rounds.abs_le_of_le double shrinks
  rw [same] at size
  refine ⟨inside, ?_⟩
  rcases le_total 0 (value d) with natural | opposite
  · have sign := rounds.nonneg (div_nonneg natural positive.le)
    rw [same] at sign
    rw [abs_of_nonneg sign, abs_of_nonneg natural] at size
    exact .inl ⟨sign, size⟩
  · have sign := rounds.nonpos (div_nonpos_of_nonpos_of_nonneg opposite positive.le)
    rw [same] at sign
    rw [abs_of_nonpos sign, abs_of_nonpos opposite, neg_le_neg_iff] at size
    exact .inr ⟨size, sign⟩

/-- A quotient by one is the whole. -/
theorem value_div_of_eq_one (finite : d.isFinite = true) (constant : c.isFinite = true)
    (least : 1 ≤ c) (one : value c = 1) : value (d / c) = value d := by
  obtain ⟨inside, part⟩ := isPart_div finite constant least
  have quotient := approximates_div finite (by rw [one]; exact one_ne_zero : value c ≠ 0)
  rw [one, div_one] at quotient
  obtain ⟨u, rounds, same⟩ := quotient.rounds inside
  have size := rounds.le_abs_of_le (isMagnitude_value finite).1 le_rfl
  rw [same] at size
  exact part.eq_of_abs_le size

/-- A quotient by more than one is less than the whole where doubles are sparsest. The next
double above one takes off more than the rounding can put back. -/
theorem abs_value_div_lt (finite : d.isFinite = true) (constant : c.isFinite = true)
    (more : 1 < c) (large : 2 ^ 53 * halfUnit ≤ |value d|) : |value (d / c)| < |value d| := by
  have one := (one_lt_iff constant).mp more
  have least := one_le_of_one_lt constant more
  have positive : 0 < value c := zero_lt_one.trans one
  have unit := halfUnit_pos
  obtain ⟨inside, -⟩ := isPart_div finite constant least
  have gap : 1 + 1 / 2 ^ 52 ≤ value c := by
    have magnitude := (isMagnitude_value constant).1
    rw [abs_of_pos positive] at magnitude
    exact magnitude.one_add_le one
  have loss : |value d| / value c + halfUnit < |value d| := by
    have less : |value d| < (|value d| - halfUnit) * value c := by
      calc |value d| < (|value d| - halfUnit) * (1 + 1 / 2 ^ 52) := by linarith
        _ ≤ (|value d| - halfUnit) * value c :=
            mul_le_mul_of_nonneg_left gap (by linarith)
    rw [← lt_sub_iff_add_lt, div_lt_iff₀ positive]
    exact less
  have error := (approximates_div finite positive.ne').error_le_halfUnit inside
  calc |value (d / c)| = |value d / value c + (value (d / c) - value d / value c)| := by
        rw [add_sub_cancel]
    _ ≤ |value d / value c| + |value (d / c) - value d / value c| := abs_add_le _ _
    _ ≤ |value d| / value c + halfUnit := by
        rw [abs_div, abs_of_pos positive]
        exact add_le_add_right error _
    _ < |value d| := loss

end Quotient

section Step

variable {s v c : Float}

/-- A time constant above one keeps the end of the step within the doubles. -/
theorem abs_sub_part_lt (finite : s.isFinite = true) (finite' : v.isFinite = true)
    (constant : c.isFinite = true) (more : 1 < c) (fits : |value s - value v| < overflow) :
    |value s - value ((s - v) / c)| < overflow := by
  have unit := halfUnit_pos
  have start := (isMagnitude_value finite).2
  have reading := (isMagnitude_value finite').2
  have distance := approximates_sub finite finite'
  have inside := distance.isFinite_iff.mpr fits
  have near := abs_sub_le_of_error (distance.error_le_halfUnit inside)
  obtain ⟨-, part⟩ := isPart_div inside constant (one_le_of_one_lt constant more)
  by_cases large : 2 ^ 53 * halfUnit ≤ |value s - value v|
  · -- The rounding may go half a unit beyond the largest double, but the whole way is not gone.
    have double : IsMagnitude (2 ^ 53 * halfUnit) :=
      ⟨1, (53 : Nat) + 970, by rw [pow_mul_halfUnit, Nat.cast_one, one_mul], by decide, by decide⟩
    obtain ⟨u, rounds, same⟩ := distance.rounds inside
    have far := rounds.le_abs_of_le double large
    rw [same] at far
    refine part.abs_sub_lt (abs_value_div_lt inside constant more far)
      (start.trans_lt largest_lt_overflow) (near.trans ?_)
    rw [largest] at reading
    rw [overflow]
    linarith
  · -- The rounding goes a quarter of a unit too far at most.
    have close := abs_sub_le_of_error (distance.error_le inside (not_le.mp large))
    refine part.abs_sub_le.trans_lt (max_lt (start.trans_lt largest_lt_overflow)
      (close.trans_lt ?_))
    have quarter : 2 ^ 53 * halfUnit / 2 ^ 54 = halfUnit / 2 := by ring
    rw [largest] at reading
    rw [overflow, quarter]
    linarith

end Step

namespace ShedFilter

variable (filter : ShedFilter Float) {s v : Float}

/-- The filter can take a reading: it replaces the estimate, or its distance from the estimate
is small enough for a double. Where the time constant is one, the estimate less the rounded
distance has to be small enough too. -/
def StaysInRange (s v : Float) : Prop :=
  v.isFinite = true ∧
    (s < v ∧ filter.threshold < v ∨
      |value s - value v| < overflow ∧
        (1 < filter.timeConstant ∨ |value s - value (s - v)| < overflow))

variable {filter}

theorem isFinite_relax_iff (finite : s.isFinite = true)
    (constant : filter.timeConstant.isFinite = true) (least : 1 ≤ filter.timeConstant) :
    (s - (s - v) / filter.timeConstant).isFinite = true ↔
      v.isFinite = true ∧ |value s - value v| < overflow ∧
        (1 < filter.timeConstant ∨ |value s - value (s - v)| < overflow) := by
  constructor
  · intro next
    have quotient := (isFinite_of_sub next).2
    have inside := isFinite_of_div quotient
    have reading := (isFinite_of_sub inside).2
    refine ⟨reading, (approximates_sub finite reading).isFinite_iff.mp inside, ?_⟩
    rcases (one_le_value constant least).eq_or_lt with one | more
    · right
      have fits := (approximates_sub finite quotient).isFinite_iff.mp next
      rwa [value_div_of_eq_one inside constant least one.symm] at fits
    · left
      exact (one_lt_iff constant).mpr more
  · rintro ⟨reading, fits, room⟩
    have inside := (approximates_sub finite reading).isFinite_iff.mpr fits
    obtain ⟨quotient, part⟩ := isPart_div inside constant least
    refine (approximates_sub finite quotient).isFinite_iff.mpr ?_
    rcases room with more | fits'
    · exact abs_sub_part_lt finite reading constant more fits
    · exact part.abs_sub_le.trans_lt
        (max_lt ((isMagnitude_value finite).2.trans_lt largest_lt_overflow) fits')

/-- One step leaves a finite estimate finite exactly if the filter can take the reading. -/
theorem isFinite_advance_iff (finite : s.isFinite = true)
    (constant : filter.timeConstant.isFinite = true) (least : 1 ≤ filter.timeConstant) :
    (filter.advance s v).isFinite = true ↔ filter.StaysInRange s v := by
  rw [advance, StaysInRange]
  split
  · next rises => simp only [rises, true_or, and_true, and_self]
  · next rises =>
      rw [isFinite_relax_iff finite constant least]
      simp only [rises, false_or]

/-- A frame without a reading does no harm. -/
theorem isFinite_step_iff (finite : s.isFinite = true)
    (constant : filter.timeConstant.isFinite = true) (least : 1 ≤ filter.timeConstant)
    (reading : Option Float) :
    (filter.step s reading).1.isFinite = true ↔
      ∀ v, reading = some v → filter.StaysInRange s v := by
  cases reading with
  | none => exact iff_of_true finite nofun
  | some v =>
      rw [step, isFinite_advance_iff finite constant least]
      simp only [Option.some.injEq, forall_eq']

/-- An estimate that is no number stays so whatever is read, and is not above the threshold. -/
theorem isNaN_advance (lost : s.isNaN = true) (v : Float) :
    (filter.advance s v).isNaN = true ∧ filter.exceeds (filter.advance s v) = false := by
  have next : (filter.advance s v).isNaN = true := by
    rw [advance, if_neg fun rises => (not_lt_of_isNaN lost v).1 rises.1]
    exact isNaN_sub lost _
  refine ⟨next, ?_⟩
  rw [exceeds, decide_eq_false_iff_not]
  exact (not_lt_of_isNaN next filter.threshold).2

/-- Readings of this magnitude, one unit of the largest doubles below 2^1023, do no harm. -/
def harmless : ℚ := (2 ^ 53 - 2) * halfUnit

/-- From harmless readings come estimates that are at most half a unit larger. -/
theorem advance_of_harmless (finite : s.isFinite = true)
    (constant : filter.timeConstant.isFinite = true) (least : 1 ≤ filter.timeConstant)
    (bounded : |value s| ≤ harmless + halfUnit) (reading : v.isFinite = true)
    (small : |value v| ≤ harmless) :
    (filter.advance s v).isFinite = true ∧
      |value (filter.advance s v)| ≤ harmless + halfUnit := by
  have unit := halfUnit_pos
  rw [advance]
  split
  · exact ⟨reading, small.trans (by linarith)⟩
  · have room : harmless + halfUnit + harmless < overflow := by
      rw [harmless, overflow]
      linarith
    have fits : |value s - value v| < overflow :=
      (abs_sub _ _).trans_lt ((add_le_add bounded small).trans_lt room)
    have distance := approximates_sub finite reading
    have inside := distance.isFinite_iff.mpr fits
    have near := abs_sub_le_of_error (distance.error_le_halfUnit inside)
    obtain ⟨quotient, part⟩ := isPart_div inside constant least
    have size : |value s - value ((s - v) / filter.timeConstant)| ≤ harmless + halfUnit :=
      part.abs_sub_le.trans (max_le bounded (near.trans (add_le_add_left small _)))
    have next := approximates_sub finite quotient
    have within := next.isFinite_iff.mpr (size.trans_lt (by
      rw [harmless, overflow]
      linarith))
    obtain ⟨u, rounds, same⟩ := next.rounds within
    have double : IsMagnitude (harmless + halfUnit) := by
      refine ⟨2 ^ 53 - 1, 970, ?_, by decide, by decide⟩
      rw [harmless, ← halfUnit]
      push_cast
      ring
    have kept := rounds.abs_le_of_le double size
    rw [same] at kept
    exact ⟨within, kept⟩

end ShedFilter

end MeterSignals
