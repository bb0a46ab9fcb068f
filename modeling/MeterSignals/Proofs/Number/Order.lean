/-
# The order of doubles

Finite doubles are compared by their signs, exponents and mantissas, and that is the order of
the numbers they stand for.
-/

import MeterSignals.Proofs.Number.Bounds

namespace MeterSignals.Number

open Float.Model (UnpackedFloat)
open Float.Model.UnpackedFloat (Sign)

@[simp]
theorem exactValue_zero (s : Sign) : exactValue (.zero s) = 0 := rfl

theorem abs_exactValue_finite {s : Sign} {m : Nat} {e : Int} {pos : 0 < m} :
    |exactValue (.finite s m e pos)| = m * 2 ^ e := by
  rw [exactValue, abs_mul, abs_factor, one_mul, abs_of_nonneg (by positivity)]

/-- What a finite double is unpacked to. -/
theorem unpack_of_isFinite {x : Float} (finite : x.isFinite = true) :
    (∃ s, x.toModel.unpack = .zero s) ∨
      ∃ s m e pos, x.toModel.unpack = .finite s m e pos ∧
        IsCanonical (.finite s m e pos) ∧ e ≤ maxExponent := by
  have finite' : x.toModel.unpack.isFinite = true := finite
  obtain ⟨canonical, clipped⟩ := isCanonical_unpack x.toModel
  cases unpacked : x.toModel.unpack with
  | infinity s =>
      rw [unpacked] at finite'
      cases finite'
  | notANumber =>
      rw [unpacked] at finite'
      cases finite'
  | zero s => exact .inl ⟨s, rfl⟩
  | finite s m e pos =>
      rw [unpacked] at canonical clipped
      refine .inr ⟨s, m, e, pos, rfl, canonical, ?_⟩
      by_contra large
      rw [clip, if_pos (Int.not_le.mp large)] at clipped
      cases clipped

/-- A finite double has the magnitude of a double, and no larger one than the largest. -/
theorem isMagnitude_value {x : Float} (finite : x.isFinite = true) :
    IsMagnitude |value x| ∧ |value x| ≤ largest := by
  rw [value]
  rcases unpack_of_isFinite finite with ⟨s, unpacked⟩ | ⟨s, m, e, pos, unpacked, canonical, high⟩
  · rw [unpacked, exactValue_zero, abs_zero, largest]
    refine ⟨⟨0, 0, by simp, by decide, by decide⟩, ?_⟩
    exact mul_nonneg (by norm_num) halfUnit_pos.le
  · rw [unpacked, abs_exactValue_finite]
    refine ⟨⟨m, e, rfl, canonical.1, canonical.2.1⟩, ?_⟩
    have unit : (2 : ℚ) ^ maxExponent = 2 * halfUnit := by
      rw [show maxExponent = (1 : Nat) + 970 from rfl, ← pow_mul_halfUnit, pow_one]
    calc (m : ℚ) * 2 ^ e ≤ (2 ^ 53 - 1) * 2 ^ maxExponent :=
          mul_le_mul (cast_le_of_lt canonical.1) (zpow_le_zpow_right₀ one_le_two high)
            (by positivity) (by norm_num)
      _ = largest := by
          rw [unit, largest]
          ring

/-- Magnitudes are compared by their exponents first. -/
theorem compare_magnitudes {s s' : Sign} {m n : Nat} {e f : Int} {pos : 0 < m} {pos' : 0 < n}
    (canonical : IsCanonical (.finite s m e pos)) (canonical' : IsCanonical (.finite s' n f pos')) :
    (compare e f).then (compare m n) = compare ((m : ℚ) * 2 ^ e) (n * 2 ^ f) := by
  obtain ⟨bits, low, full⟩ := canonical
  obtain ⟨bits', low', full'⟩ := canonical'
  rcases lt_trichotomy e f with less | rfl | greater
  · rw [compare_lt_iff_lt.mpr less]
    exact (compare_lt_iff_lt.mpr
      (lt_of_exponent_lt bits (full'.resolve_right (by omega)) less)).symm
  · have power : (0 : ℚ) < 2 ^ e := by positivity
    rw [compare_eq_iff_eq.mpr rfl]
    change compare m n = _
    rcases lt_trichotomy m n with less | rfl | greater
    · rw [compare_lt_iff_lt.mpr less]
      exact (compare_lt_iff_lt.mpr
        (mul_lt_mul_of_pos_right (by exact_mod_cast less) power)).symm
    · rw [compare_eq_iff_eq.mpr rfl]
      exact (compare_eq_iff_eq.mpr rfl).symm
    · rw [compare_gt_iff_gt.mpr greater]
      exact (compare_gt_iff_gt.mpr
        (mul_lt_mul_of_pos_right (by exact_mod_cast greater) power)).symm
  · rw [compare_gt_iff_gt.mpr greater]
    exact (compare_gt_iff_gt.mpr
      (lt_of_exponent_lt bits' (full.resolve_right (by omega)) greater)).symm

theorem swap_compare (a b : ℚ) : (compare a b).swap = compare (-a) (-b) := by
  rcases lt_trichotomy a b with less | rfl | greater
  · rw [compare_lt_iff_lt.mpr less, compare_gt_iff_gt.mpr (neg_lt_neg less)]
    rfl
  · rw [compare_eq_iff_eq.mpr rfl, compare_eq_iff_eq.mpr rfl]
    rfl
  · rw [compare_gt_iff_gt.mpr greater, compare_lt_iff_lt.mpr (neg_lt_neg greater)]
    rfl

theorem exactValue_positive {m : Nat} {e : Int} {pos : 0 < m} :
    0 < exactValue (.finite .positive m e pos) := by
  have natural : (0 : ℚ) < m := by exact_mod_cast pos
  rw [exactValue, factor, one_mul]
  positivity

theorem exactValue_negative {m : Nat} {e : Int} {pos : 0 < m} :
    exactValue (.finite .negative m e pos) < 0 := by
  have natural : (0 : ℚ) < m := by exact_mod_cast pos
  rw [exactValue, factor, neg_one_mul, neg_lt_zero]
  positivity

/-- Finite doubles are compared like the numbers they stand for. -/
theorem compare_unpack {x y : Float} (finite : x.isFinite = true) (finite' : y.isFinite = true) :
    x.toModel.unpack.compare y.toModel.unpack = some (compare (value x) (value y)) := by
  rw [value, value]
  rcases unpack_of_isFinite finite with ⟨s, unpacked⟩ | ⟨s, m, e, pos, unpacked, canonical, -⟩ <;>
    rcases unpack_of_isFinite finite' with
      ⟨s', unpacked'⟩ | ⟨s', n, f, pos', unpacked', canonical', -⟩ <;>
    rw [unpacked, unpacked']
  · exact congrArg some (compare_eq_iff_eq.mpr rfl).symm
  · cases s' with
    | positive => exact congrArg some (compare_lt_iff_lt.mpr exactValue_positive).symm
    | negative => exact congrArg some (compare_gt_iff_gt.mpr exactValue_negative).symm
  · cases s with
    | positive => exact congrArg some (compare_gt_iff_gt.mpr exactValue_positive).symm
    | negative => exact congrArg some (compare_lt_iff_lt.mpr exactValue_negative).symm
  · cases s with
    | positive =>
        cases s' with
        | positive =>
            rw [exactValue, exactValue, factor, one_mul, one_mul]
            exact congrArg some (compare_magnitudes canonical canonical')
        | negative =>
            exact congrArg some
              (compare_gt_iff_gt.mpr (exactValue_negative.trans exactValue_positive)).symm
    | negative =>
        cases s' with
        | positive =>
            exact congrArg some
              (compare_lt_iff_lt.mpr (exactValue_negative.trans exactValue_positive)).symm
        | negative =>
            have swapped : ((compare e f).then (compare m n)).swap =
                compare (-((m : ℚ) * 2 ^ e)) (-(n * 2 ^ f)) := by
              rw [compare_magnitudes canonical canonical', swap_compare]
            rw [exactValue, exactValue, factor, neg_one_mul, neg_one_mul]
            exact congrArg some swapped

theorem lt_iff_compare {x y : Float} :
    x < y ↔ x.toModel.unpack.compare y.toModel.unpack = some .lt := by
  change decide (x.toModel < y.toModel) = true ↔ _
  rw [decide_eq_true_eq]
  change (x.toModel.unpack.compare y.toModel.unpack == some .lt) = true ↔ _
  exact beq_iff_eq

theorem lt_iff {x y : Float} (finite : x.isFinite = true) (finite' : y.isFinite = true) :
    x < y ↔ value x < value y := by
  rw [lt_iff_compare, compare_unpack finite finite', ← compare_lt_iff_lt, Option.some_inj]

theorem le_iff {x y : Float} (finite : x.isFinite = true) (finite' : y.isFinite = true) :
    x ≤ y ↔ value x ≤ value y := by
  change decide (x.toModel ≤ y.toModel) = true ↔ _
  rw [decide_eq_true_eq]
  change ((x.toModel.unpack.compare y.toModel.unpack).any (·.isLE)) = true ↔ _
  rw [compare_unpack finite finite', ← compare_le_iff_le]
  exact Ordering.ne_gt_iff_isLE.symm

theorem beq_iff {x y : Float} (finite : x.isFinite = true) (finite' : y.isFinite = true) :
    (x == y) = true ↔ value x = value y := by
  change (x.toModel.unpack.compare y.toModel.unpack == some .eq) = true ↔ _
  rw [compare_unpack finite finite', beq_iff_eq, Option.some_inj, compare_eq_iff_eq]

theorem unpack_of_isNaN {x : Float} (lost : x.isNaN = true) : x.toModel.unpack = .notANumber :=
  UnpackedFloat.isNaN_iff.mp lost

/-- A number is finite or infinite. -/
theorem isFinite_iff_of_number {x : Float} (number : x.isNaN = false) :
    x.isFinite = true ↔ ¬ x.isInf = true := by
  change x.toModel.unpack.isNaN = false at number
  change x.toModel.unpack.isFinite = true ↔ ¬ x.toModel.unpack.isInf = true
  cases unpacked : x.toModel.unpack with
  | notANumber =>
      rw [unpacked] at number
      cases number
  | infinity s => exact iff_of_false nofun fun finite => finite rfl
  | zero s => exact iff_of_true rfl nofun
  | finite s m e pos => exact iff_of_true rfl nofun

/-- What is no number is not below or above anything. -/
theorem not_lt_of_isNaN {x : Float} (lost : x.isNaN = true) (y : Float) : ¬ x < y ∧ ¬ y < x := by
  rw [lt_iff_compare, lt_iff_compare, unpack_of_isNaN lost]
  cases y.toModel.unpack <;> exact ⟨nofun, nofun⟩

end MeterSignals.Number
