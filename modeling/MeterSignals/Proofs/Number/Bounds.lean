/-
# How far rounding goes

What a number is rounded to is off by half a unit in the last place at most, does not pass
any double, and is no longer a double exactly from half a unit above the largest double on.
-/

import MeterSignals.Proofs.Number.Rounding

namespace MeterSignals.Number

open Float.Model (UnpackedFloat)
open Float.Model.UnpackedFloat (Sign)

/-- Half a unit in the last place of the largest doubles. -/
def halfUnit : ℚ := 2 ^ (970 : Int)

/-- The largest double. It is one unit below 2^1024. -/
def largest : ℚ := (2 ^ 54 - 2) * halfUnit

/-- Numbers of this magnitude and above, half a unit below 2^1024, are rounded to an infinity. -/
def overflow : ℚ := (2 ^ 54 - 1) * halfUnit

/-- The magnitudes of doubles. -/
def IsMagnitude (y : ℚ) : Prop := ∃ (m : Nat) (e : Int), y = m * 2 ^ e ∧ m < 2 ^ 53 ∧ -1074 ≤ e

/-- A number with a finer exponent. -/
theorem mul_zpow_add (m n : Nat) (t : Int) :
    (m : ℚ) * 2 ^ (t + (n : Int)) = (m * 2 ^ n : Nat) * 2 ^ t := by
  rw [zpow_add₀ two_ne_zero, zpow_natCast]
  push_cast
  ring

/-- A mantissa with all of its bits and a greater exponent is greater. -/
theorem lt_of_exponent_lt {m n : Nat} {e f : Int} (bits : m < 2 ^ 53) (full : 2 ^ 52 ≤ n)
    (less : e < f) : (m : ℚ) * 2 ^ e < n * 2 ^ f := by
  calc (m : ℚ) * 2 ^ e < 2 ^ (53 : Int) * 2 ^ e := by
        refine mul_lt_mul_of_pos_right ?_ (by positivity)
        exact_mod_cast bits
    _ = 2 ^ (53 + e) := (zpow_add₀ two_ne_zero _ _).symm
    _ ≤ 2 ^ (52 + f) := zpow_le_zpow_right₀ one_le_two (by omega)
    _ = 2 ^ (52 : Int) * 2 ^ f := zpow_add₀ two_ne_zero _ _
    _ ≤ n * 2 ^ f := by
        refine mul_le_mul_of_nonneg_right ?_ (by positivity)
        exact_mod_cast full

theorem cast_le_of_lt {m : Nat} (bits : m < 2 ^ 53) : (m : ℚ) ≤ 2 ^ 53 - 1 := by
  have step : ((m + 1 : Nat) : ℚ) ≤ (2 ^ 53 : Nat) := by exact_mod_cast bits
  push_cast at step
  linarith

/-- Between the largest mantissa and the next power of two the tie goes to the power. -/
theorem IsNearest.lt_iff {k : Nat} {z : ℚ} (near : IsNearest k z) :
    k < 2 ^ 53 ↔ z < 2 ^ 53 - 1 / 2 := by
  obtain ⟨low, high⟩ := abs_le.mp near.close
  constructor
  · intro less
    have count := cast_le_of_lt less
    by_contra above
    have tie : (k : ℚ) - z = -(1 / 2) := by linarith
    have last : k = 2 ^ 53 - 1 := by
      have equal : ((k + 1 : Nat) : ℚ) = (2 ^ 53 : Nat) := by
        push_cast
        linarith
      have same : k + 1 = 2 ^ 53 := by exact_mod_cast equal
      omega
    have parity := near.even (by rw [tie, abs_neg, abs_of_pos (by norm_num)])
    omega
  · intro less
    have count : (k : ℚ) < (2 ^ 53 : Nat) := by
      push_cast
      linarith
    exact_mod_cast count

theorem halfUnit_pos : 0 < halfUnit := by
  rw [halfUnit]
  positivity

theorem pow_mul_halfUnit (n : Nat) : 2 ^ n * halfUnit = 2 ^ ((n : Int) + 970) := by
  rw [halfUnit, zpow_add₀ two_ne_zero, zpow_natCast]

theorem abs_factor (s : Sign) : |factor s| = 1 := by
  cases s <;> simp [factor]

namespace IsRounded

variable {s : Sign} {x : ℚ} {u : UnpackedFloat}

/-- The error is half a unit in the last place, and that depends on the size of the number. -/
theorem error_le (rounded : IsRounded s x u) {j : Int} (size : x < 2 ^ j) (least : -1021 ≤ j) :
    |exactValue u - factor s * x| ≤ 2 ^ (j - 54) := by
  obtain ⟨t, k, place, near, value⟩ := rounded.nearest
  have power : (0 : ℚ) < 2 ^ t := by positivity
  have error : |exactValue u - factor s * x| = |(k : ℚ) - x / 2 ^ t| * 2 ^ t := by
    rw [value, ← mul_sub, abs_mul, abs_factor, one_mul, ← abs_of_pos power, ← abs_mul,
      abs_of_pos power, sub_mul, div_mul_cancel₀ _ power.ne']
  have small : t ≤ j - 53 := by
    rcases place.full with full | last
    · have order : (2 : ℚ) ^ (t + 52) < 2 ^ j := full.trans_lt size
      have exponents := (zpow_lt_zpow_iff_right₀ one_lt_two).mp order
      omega
    · omega
  calc |exactValue u - factor s * x| = |(k : ℚ) - x / 2 ^ t| * 2 ^ t := error
    _ ≤ 1 / 2 * 2 ^ t := mul_le_mul_of_nonneg_right near.close power.le
    _ = 2 ^ (t - 1) := by rw [zpow_sub_one₀ two_ne_zero]; ring
    _ ≤ 2 ^ (j - 54) := zpow_le_zpow_right₀ one_le_two (by omega)

/-- A number below a double is not rounded beyond that. -/
theorem abs_le_of_le (rounded : IsRounded s x u) {y : ℚ} (double : IsMagnitude y) (below : x ≤ y) :
    |exactValue u| ≤ y := by
  obtain ⟨t, k, place, near, value⟩ := rounded.nearest
  obtain ⟨m, e, rfl, bits, low⟩ := double
  have power : (0 : ℚ) < 2 ^ t := by positivity
  have coarse : t ≤ e := by
    rcases place.full with full | last
    · have order : (2 : ℚ) ^ (t + 52) < 2 ^ (53 + e) := by
        calc (2 : ℚ) ^ (t + 52) ≤ m * 2 ^ e := full.trans below
          _ < 2 ^ (53 : Int) * 2 ^ e := by
              refine mul_lt_mul_of_pos_right ?_ (by positivity)
              exact_mod_cast bits
          _ = 2 ^ (53 + e) := (zpow_add₀ two_ne_zero _ _).symm
      have exponents := (zpow_lt_zpow_iff_right₀ one_lt_two).mp order
      omega
    · omega
  obtain ⟨n, rfl⟩ := Int.le.dest coarse
  rw [mul_zpow_add] at below ⊢
  have whole : x / 2 ^ t ≤ (m * 2 ^ n : Nat) := (div_le_iff₀ power).mpr below
  have less : (k : ℚ) < (m * 2 ^ n + 1 : Nat) := by
    have high := (abs_le.mp near.close).2
    push_cast at whole ⊢
    linarith
  have count : k ≤ m * 2 ^ n := Nat.le_of_lt_succ (by exact_mod_cast less)
  rw [value, abs_mul, abs_factor, one_mul, abs_of_nonneg (by positivity)]
  exact mul_le_mul_of_nonneg_right (by exact_mod_cast count) power.le

/-- A number above a double is not rounded to anything below that. -/
theorem le_abs_of_le (rounded : IsRounded s x u) {y : ℚ} (double : IsMagnitude y)
    (above : y ≤ x) : y ≤ |exactValue u| := by
  obtain ⟨t, k, place, near, value⟩ := rounded.nearest
  obtain ⟨m, e, rfl, bits, low⟩ := double
  have power : (0 : ℚ) < 2 ^ t := by positivity
  have natural : (0 : ℚ) ≤ k * 2 ^ t := mul_nonneg (Nat.cast_nonneg k) power.le
  rw [value, abs_mul, abs_factor, one_mul, abs_of_nonneg natural]
  by_cases coarse : t ≤ e
  · obtain ⟨n, rfl⟩ := Int.le.dest coarse
    rw [mul_zpow_add] at above ⊢
    have whole : (m * 2 ^ n : Nat) ≤ x / 2 ^ t := (le_div_iff₀ power).mpr above
    have less : ((m * 2 ^ n : Nat) : ℚ) < (k + 1 : Nat) := by
      have under := (abs_le.mp near.close).1
      push_cast at whole ⊢
      linarith
    have count : m * 2 ^ n ≤ k := Nat.le_of_lt_succ (by exact_mod_cast less)
    exact mul_le_mul_of_nonneg_right (by exact_mod_cast count) power.le
  · have full : 2 ^ 52 ≤ k := (near.bits place).2.resolve_right (by omega)
    exact (lt_of_exponent_lt bits full (Int.not_le.mp coarse)).le

/-- The result is too large for a double exactly if the number is at least half a unit above
the largest double. -/
theorem abs_lt_iff (rounded : IsRounded s x u) :
    |exactValue u| < 2 ^ 54 * halfUnit ↔ x < overflow := by
  obtain ⟨t, k, place, near, value⟩ := rounded.nearest
  have power : (0 : ℚ) < 2 ^ t := by positivity
  have unit := halfUnit_pos
  have natural : (0 : ℚ) ≤ k * 2 ^ t := mul_nonneg (Nat.cast_nonneg k) power.le
  obtain ⟨bits, full⟩ := near.bits place
  rw [value, abs_mul, abs_factor, one_mul, abs_of_nonneg natural, overflow]
  rcases lt_trichotomy t 971 with small | rfl | large
  · have number : x < 2 ^ 53 * halfUnit := by
      rw [pow_mul_halfUnit]
      exact place.below.trans_le (zpow_le_zpow_right₀ one_le_two (by omega))
    have result : (k : ℚ) * 2 ^ t ≤ 2 ^ 53 * halfUnit := by
      calc (k : ℚ) * 2 ^ t ≤ 2 ^ (53 : Int) * 2 ^ t := by
            refine mul_le_mul_of_nonneg_right ?_ power.le
            exact_mod_cast bits
        _ = 2 ^ (53 + t) := (zpow_add₀ two_ne_zero _ _).symm
        _ ≤ 2 ^ 53 * halfUnit := by
            rw [pow_mul_halfUnit]
            exact zpow_le_zpow_right₀ one_le_two (by omega)
    exact iff_of_true (by linarith) (by linarith)
  · have unit2 : (2 : ℚ) ^ (971 : Int) = 2 * halfUnit := by
      rw [show (971 : Int) = (1 : Nat) + 970 from rfl, ← pow_mul_halfUnit, pow_one]
    have limit : 2 ^ 54 * halfUnit = (2 ^ 53 : Nat) * 2 ^ (971 : Int) := by
      rw [unit2]
      push_cast
      ring
    have tie : (2 ^ 54 - 1) * halfUnit = (2 ^ 53 - 1 / 2) * 2 ^ (971 : Int) := by
      rw [unit2]
      ring
    rw [limit, tie, mul_lt_mul_iff_left₀ power, ← div_lt_iff₀ power, ← near.lt_iff]
    exact Nat.cast_lt
  · have number : 2 ^ 54 * halfUnit ≤ x := by
      rw [pow_mul_halfUnit]
      exact (zpow_le_zpow_right₀ one_le_two (by omega)).trans
        (place.full.resolve_right (by omega))
    have result : 2 ^ 54 * halfUnit ≤ k * 2 ^ t := by
      calc 2 ^ 54 * halfUnit = 2 ^ (52 : Int) * 2 ^ (972 : Int) := by
            rw [pow_mul_halfUnit, ← zpow_add₀ two_ne_zero,
              show ((54 : Nat) : Int) + 970 = 52 + 972 from rfl]
        _ ≤ k * 2 ^ t := by
            refine mul_le_mul ?_ (zpow_le_zpow_right₀ one_le_two large)
              (zpow_nonneg zero_le_two _) (Nat.cast_nonneg k)
            exact_mod_cast full.resolve_right (by omega)
    exact iff_of_false result.not_gt (by linarith)

/-- The sign is kept, also where a small number is rounded to zero. -/
theorem sign_nonneg (rounded : IsRounded s x u) : 0 ≤ factor s * exactValue u := by
  obtain ⟨t, k, -, -, value⟩ := rounded.nearest
  have square : factor s * factor s = 1 := by
    cases s <;> norm_num [factor]
  rw [value, ← mul_assoc, square, one_mul]
  positivity

end IsRounded

namespace Rounds

variable {x : ℚ} {u : UnpackedFloat}

theorem error_le (rounds : Rounds x u) {j : Int} (size : |x| < 2 ^ j) (least : -1021 ≤ j) :
    |exactValue u - x| ≤ 2 ^ (j - 54) := by
  obtain ⟨s, signed, rounded⟩ := rounds
  have error := rounded.error_le size least
  rwa [signed] at error

theorem abs_le_of_le (rounds : Rounds x u) {y : ℚ} (double : IsMagnitude y) (below : |x| ≤ y) :
    |exactValue u| ≤ y := by
  obtain ⟨s, -, rounded⟩ := rounds
  exact rounded.abs_le_of_le double below

theorem le_abs_of_le (rounds : Rounds x u) {y : ℚ} (double : IsMagnitude y) (above : y ≤ |x|) :
    y ≤ |exactValue u| := by
  obtain ⟨s, -, rounded⟩ := rounds
  exact rounded.le_abs_of_le double above

theorem abs_lt_iff (rounds : Rounds x u) :
    |exactValue u| < 2 ^ 54 * halfUnit ↔ |x| < overflow := by
  obtain ⟨s, -, rounded⟩ := rounds
  exact rounded.abs_lt_iff

/-- What is not negative is not rounded to anything negative. -/
theorem nonneg (rounds : Rounds x u) (natural : 0 ≤ x) : 0 ≤ exactValue u := by
  rcases natural.eq_or_lt with rfl | positive
  · have zero := rounds.abs_le_of_le ⟨0, 0, by simp, by decide, by decide⟩ (abs_zero.le)
    exact (abs_nonpos_iff.mp zero).ge
  · obtain ⟨s, signed, rounded⟩ := rounds
    have kept := rounded.sign_nonneg
    cases s with
    | positive => rwa [factor, one_mul] at kept
    | negative =>
        rw [factor, neg_one_mul] at signed
        linarith [abs_nonneg x]

/-- What is not positive is not rounded to anything positive. -/
theorem nonpos (rounds : Rounds x u) (opposite : x ≤ 0) : exactValue u ≤ 0 := by
  rcases opposite.eq_or_lt with rfl | negative
  · have zero := rounds.abs_le_of_le ⟨0, 0, by simp, by decide, by decide⟩ (abs_zero.le)
    exact (abs_nonpos_iff.mp zero).le
  · obtain ⟨s, signed, rounded⟩ := rounds
    have kept := rounded.sign_nonneg
    cases s with
    | positive =>
        rw [factor, one_mul] at signed
        linarith [abs_nonneg x]
    | negative =>
        rw [factor, neg_one_mul] at kept
        linarith

end Rounds

end MeterSignals.Number
