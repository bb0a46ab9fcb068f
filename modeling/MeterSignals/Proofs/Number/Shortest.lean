/-
# Shortest decimals round back

Around a double lies an interval of numbers that are rounded to it. The search for its shortest
decimal looks at one grid of decimals after the other, and takes a neighbour of the double that
lies in the interval. A grid of seventeen digits is finer than the interval is long, so one of
the two neighbours lies inside at the latest there: the search finds a decimal, and the double
is that decimal, rounded.
-/

import MeterSignals.Number.Shortest
import MeterSignals.Proofs.Number.Arithmetic

namespace MeterSignals.Number

open Float.Model (UnpackedFloat)
open Float.Model.UnpackedFloat (Sign)

theorem zpow_eq_div {a : ℚ} (nonzero : a ≠ 0) (e : Int) :
    a ^ e = a ^ e.toNat / a ^ (-e).toNat := by
  have split : e = (e.toNat : Int) - ((-e).toNat : Int) := by omega
  conv_lhs => rw [split, zpow_sub₀ nonzero, zpow_natCast, zpow_natCast]

namespace Rounding

variable (r : Rounding)

/-- The number in the middle. -/
def center : ℚ := r.value / r.denominator

def lower : ℚ := r.below / r.denominator

def upper : ℚ := r.above / r.denominator

/-- The number lies in the interval. -/
@[mk_iff]
structure Contains (q : ℚ) : Prop where
  lower : r.lower ≤ q
  upper : q ≤ r.upper
  ends : r.closed = false → q ≠ r.lower ∧ q ≠ r.upper

/-- An interval around its middle. -/
structure IsProper : Prop where
  denominator : 0 < r.denominator
  lower : r.lower < r.center
  upper : r.center < r.upper

variable {r}

theorem Contains.of_lt {q : ℚ} (above : r.lower < q) (below : q < r.upper) : r.Contains q :=
  ⟨above.le, below.le, fun _ => ⟨above.ne', below.ne⟩⟩

/-- The comparison of natural numbers decides what lies in the interval. -/
theorem holds_iff (proper : r.IsProper) {n numerator divisor : Nat} (pos : 0 < divisor) :
    r.holds n numerator divisor = true ↔ r.Contains (n * (numerator / divisor)) := by
  have denominator : (0 : ℚ) < r.denominator := by exact_mod_cast proper.denominator
  have divisor' : (0 : ℚ) < divisor := by exact_mod_cast pos
  have low : r.lower ≤ n * (numerator / divisor) ↔
      r.below * divisor ≤ n * numerator * r.denominator := by
    rw [lower, ← mul_div_assoc, div_le_div_iff₀ denominator divisor']
    exact_mod_cast Iff.rfl
  have high : n * (numerator / divisor) ≤ r.upper ↔
      n * numerator * r.denominator ≤ r.above * divisor := by
    rw [upper, ← mul_div_assoc, div_le_div_iff₀ divisor' denominator]
    exact_mod_cast Iff.rfl
  have low' : (n * (numerator / divisor) : ℚ) ≠ r.lower ↔
      n * numerator * r.denominator ≠ r.below * divisor := by
    rw [lower, ← mul_div_assoc, ne_eq, div_eq_div_iff divisor'.ne' denominator.ne']
    exact_mod_cast Iff.rfl
  have high' : (n * (numerator / divisor) : ℚ) ≠ r.upper ↔
      n * numerator * r.denominator ≠ r.above * divisor := by
    rw [upper, ← mul_div_assoc, ne_eq, div_eq_div_iff divisor'.ne' denominator.ne']
    exact_mod_cast Iff.rfl
  rw [contains_iff, low, high, low', high', holds]
  cases r.closed with
  | true => simp
  | false =>
      simp only [Bool.false_eq_true, if_false, Bool.and_eq_true, decide_eq_true_eq, true_imp_iff]
      omega

/-- The lower neighbour of the middle on a grid, in units of the grid. -/
def neighbour (r : Rounding) (power : Int) : Nat :=
  r.value * Nat.pow 10 (-power).toNat / (Nat.pow 10 power.toNat * r.denominator)

theorem ten_zpow_eq (power : Int) :
    (10 : ℚ) ^ power = (Nat.pow 10 power.toNat : Nat) / (Nat.pow 10 (-power).toNat : Nat) := by
  rw [zpow_eq_div (by norm_num) power]
  simp

/-- The middle lies between its neighbours. -/
theorem neighbours (proper : r.IsProper) (power : Int) :
    r.neighbour power * (10 : ℚ) ^ power ≤ r.center ∧
      r.center < (r.neighbour power + 1 : Nat) * (10 : ℚ) ^ power := by
  have denominator : (0 : ℚ) < r.denominator := by exact_mod_cast proper.denominator
  have divisor : (0 : ℚ) < (Nat.pow 10 (-power).toNat : Nat) := by
    exact_mod_cast Nat.pow_pos (by decide)
  have unit : 0 < Nat.pow 10 power.toNat * r.denominator :=
    Nat.mul_pos (Nat.pow_pos (by decide)) proper.denominator
  rw [ten_zpow_eq, center, ← mul_div_assoc, ← mul_div_assoc,
    div_le_div_iff₀ divisor denominator, div_lt_div_iff₀ denominator divisor]
  constructor
  · have low := Nat.div_mul_le_self (r.value * Nat.pow 10 (-power).toNat)
      (Nat.pow 10 power.toNat * r.denominator)
    rw [← Nat.mul_assoc] at low
    exact_mod_cast low
  · have high := Nat.lt_mul_of_div_lt (Nat.lt_succ_self (r.neighbour power)) unit
    rw [← Nat.mul_assoc] at high
    exact_mod_cast high

theorem holds_grid_iff (proper : r.IsProper) (power : Int) (n : Nat) :
    r.holds n (Nat.pow 10 power.toNat) (Nat.pow 10 (-power).toNat) = true ↔
      r.Contains (n * (10 : ℚ) ^ power) := by
  rw [ten_zpow_eq]
  exact holds_iff proper (Nat.pow_pos (by decide))

/-- What is found on a grid lies in the interval. -/
theorem contains_of_onGrid? (proper : r.IsProper) {power : Int} {n : Nat}
    (found : r.onGrid? power = some n) : r.Contains (n * (10 : ℚ) ^ power) := by
  have low := holds_grid_iff proper power (r.neighbour power)
  have high := holds_grid_iff proper power (r.neighbour power + 1)
  rw [onGrid?] at found
  split at found
  · next left right =>
      split at found
      · rw [← Option.some.inj found]
        exact low.mp left
      · rw [← Option.some.inj found]
        exact high.mp right
  · next left right =>
      rw [← Option.some.inj found]
      exact low.mp left
  · next left right =>
      rw [← Option.some.inj found]
      exact high.mp right
  · cases found

/-- Something is found if one of the neighbours lies in the interval. -/
theorem onGrid?_isSome (proper : r.IsProper) {power : Int}
    (inside : r.Contains (r.neighbour power * (10 : ℚ) ^ power) ∨
      r.Contains ((r.neighbour power + 1 : Nat) * (10 : ℚ) ^ power)) :
    (r.onGrid? power).isSome := by
  rw [← holds_grid_iff proper, ← holds_grid_iff proper] at inside
  rw [onGrid?]
  split
  · split <;> rfl
  · rfl
  · rfl
  · next left right =>
      change r.holds (r.neighbour power) _ _ = false at left
      change r.holds (r.neighbour power + 1) _ _ = false at right
      rw [left, right] at inside
      exact absurd inside (by decide)

/-- A grid on which the middle itself lies has a decimal in the interval. -/
theorem onGrid?_isSome_of_center (proper : r.IsProper) {power : Int} {n : Nat}
    (onGrid : r.center = n * (10 : ℚ) ^ power) : (r.onGrid? power).isSome := by
  have power_pos : (0 : ℚ) < 10 ^ power := by positivity
  obtain ⟨low, high⟩ := neighbours proper power
  rw [onGrid, mul_le_mul_iff_left₀ power_pos, Nat.cast_le] at low
  rw [onGrid, mul_lt_mul_iff_left₀ power_pos, Nat.cast_lt] at high
  have same : r.neighbour power = n := by omega
  refine onGrid?_isSome proper (.inl ?_)
  rw [same, ← onGrid]
  exact .of_lt proper.lower proper.upper

/-- A grid that is finer than the interval is long has a decimal in the interval. -/
theorem onGrid?_isSome_of_fine (proper : r.IsProper) {power : Int}
    (fine : (10 : ℚ) ^ power < r.upper - r.lower) : (r.onGrid? power).isSome := by
  obtain ⟨low, high⟩ := neighbours proper power
  refine onGrid?_isSome proper ?_
  by_cases left : r.lower < r.neighbour power * (10 : ℚ) ^ power
  · exact .inl (.of_lt left (low.trans_lt proper.upper))
  · refine .inr (.of_lt (proper.lower.trans high) ?_)
    push_cast
    linarith

theorem lt_ten_pow_digitCount (n : Nat) : n < 10 ^ digitCount n :=
  (Nat.length_toDigits_le_iff (by decide) Nat.length_toDigits_pos).mp (Nat.le_refl _)

theorem ten_pow_digitCount_le {n : Nat} (pos : 0 < n) : 10 ^ (digitCount n - 1) ≤ n := by
  rcases Nat.eq_zero_or_pos (digitCount n - 1) with one | more
  · rw [one]
    exact pos
  · by_contra small
    have fewer : digitCount n ≤ digitCount n - 1 :=
      (Nat.length_toDigits_le_iff (by decide) more).mpr (Nat.not_le.mp small)
    omega

/-- The magnitude of the middle. -/
theorem ten_zpow_magnitude_le (denominator : 0 < r.denominator) (value : 0 < r.value) :
    (10 : ℚ) ^ (r.magnitude - 1) ≤ r.center := by
  have denominator' : (0 : ℚ) < r.denominator := by exact_mod_cast denominator
  rw [magnitude, center, le_div_iff₀ denominator']
  split
  · next large =>
      have whole : 0 < r.value / r.denominator := Nat.div_pos large denominator
      have count : 0 < digitCount (r.value / r.denominator) := Nat.length_toDigits_pos
      have digits := ten_pow_digitCount_le whole
      have below : 10 ^ (digitCount (r.value / r.denominator) - 1) * r.denominator ≤ r.value :=
        (Nat.mul_le_mul_right _ digits).trans (Nat.div_mul_le_self _ _)
      have exponent : (digitCount (r.value / r.denominator) : Int) - 1 =
          (digitCount (r.value / r.denominator) - 1 : Nat) := by omega
      rw [exponent, zpow_natCast]
      exact_mod_cast below
  · next small =>
      let quotient := (r.denominator - 1) / r.value
      have digits : quotient < 10 ^ digitCount quotient := lt_ten_pow_digitCount quotient
      have above : r.denominator ≤ r.value * 10 ^ digitCount quotient := by
        have part := Nat.lt_mul_of_div_lt digits value
        rw [Nat.mul_comm]
        omega
      have exponent : 1 - (digitCount quotient : Int) - 1 = -(digitCount quotient : Int) := by omega
      rw [exponent, zpow_neg, zpow_natCast, inv_mul_le_iff₀ (by positivity), mul_comm]
      exact_mod_cast above

/-- The search takes the first grid on which it finds something. -/
theorem exists_search (first tries k : Nat) (within : first ≤ k ∧ k < first + tries)
    (there : (r.onGrid? (r.magnitude - k)).isSome) :
    ∃ n j, r.search first tries = some ⟨n, r.magnitude - (j : Nat)⟩ ∧ first ≤ j ∧ j ≤ k ∧
      r.onGrid? (r.magnitude - (j : Nat)) = some n := by
  induction tries generalizing first with
  | zero => omega
  | succ tries ih =>
      rw [search]
      cases found : r.onGrid? (r.magnitude - first) with
      | some n => exact ⟨n, first, rfl, Nat.le_refl _, within.1, found⟩
      | none =>
          have later : first ≠ k := by
            rintro rfl
            rw [found] at there
            cases there
          obtain ⟨n, j, same, above, below, grid⟩ := ih (first + 1) (by omega)
          exact ⟨n, j, same, by omega, below, grid⟩

variable {s : Sign} {m : Nat} {e : Int} {pos : 0 < m}

theorem ofBinary_denominator : 0 < (ofBinary m e).denominator :=
  Nat.mul_pos (by decide) (Nat.pow_pos (by decide))

theorem two_zpow_eq (e : Int) :
    (2 : ℚ) ^ e = (Nat.pow 2 e.toNat : Nat) / (Nat.pow 2 (-e).toNat : Nat) := by
  rw [zpow_eq_div two_ne_zero e]
  simp

theorem ofBinary_center : (ofBinary m e).center = m * 2 ^ e := by
  rw [center, ofBinary, two_zpow_eq]
  push_cast
  field_simp

theorem ofBinary_upper : (ofBinary m e).upper = (m + 1 / 2) * 2 ^ e := by
  rw [upper, ofBinary, two_zpow_eq]
  push_cast
  field_simp
  ring

/-- The length of the interval below the middle, in units of the last place: it is shorter where
the mantissa is the least of its binade. -/
def gap (m : Nat) (e : Int) : ℚ := if m = 2 ^ 52 ∧ e ≠ -1074 then 1 / 4 else 1 / 2

theorem ofBinary_below (pos : 0 < m) :
    ((ofBinary m e).below : ℚ) = 4 * (m - gap m e) * (Nat.pow 2 e.toNat : Nat) := by
  rw [ofBinary, Nat.cast_mul, Nat.cast_sub (by split <;> omega), Nat.cast_mul, gap]
  congr 1
  by_cases short : m = 2 ^ 52 ∧ e ≠ -1074
  · have narrow : (m == Nat.pow 2 52 && e != -1074) = true := by
      rw [Bool.and_eq_true, beq_iff_eq, bne_iff_ne]
      exact short
    rw [if_pos short, if_pos narrow]
    push_cast
    ring
  · have wide : ¬ (m == Nat.pow 2 52 && e != -1074) = true := by
      rw [Bool.and_eq_true, beq_iff_eq, bne_iff_ne]
      exact short
    rw [if_neg short, if_neg wide]
    push_cast
    ring

theorem ofBinary_lower (pos : 0 < m) : (ofBinary m e).lower = (m - gap m e) * 2 ^ e := by
  rw [lower, ofBinary_below pos, two_zpow_eq, ofBinary]
  push_cast
  field_simp

/-- The interval around a double is proper. -/
theorem isProper_ofBinary (pos : 0 < m) : (ofBinary m e).IsProper := by
  have power : (0 : ℚ) < 2 ^ e := by positivity
  refine ⟨ofBinary_denominator, ?_, ?_⟩
  · rw [ofBinary_lower pos, ofBinary_center]
    refine mul_lt_mul_of_pos_right ?_ power
    rw [gap]
    split <;> linarith
  · rw [ofBinary_upper, ofBinary_center]
    exact mul_lt_mul_of_pos_right (by linarith) power

/-- What lies in the interval around a double is rounded to it. -/
theorem isRounded_of_contains (canonical : IsCanonical (.finite s m e pos)) {q : ℚ}
    (inside : (ofBinary m e).Contains q) : IsRounded s q (.finite s m e pos) := by
  obtain ⟨low, high, ends⟩ := inside
  obtain ⟨bits, least, full⟩ := canonical
  have power : (0 : ℚ) < 2 ^ e := by positivity
  obtain ⟨z, rfl⟩ : ∃ z, q = z * 2 ^ e := ⟨q / 2 ^ e, (div_mul_cancel₀ q power.ne').symm⟩
  rw [ofBinary_lower pos, ofBinary_upper, (mul_left_injective₀ power.ne').ne_iff,
    (mul_left_injective₀ power.ne').ne_iff] at ends
  rw [ofBinary_lower pos, mul_le_mul_iff_left₀ power] at low
  rw [ofBinary_upper, mul_le_mul_iff_left₀ power] at high
  have bits' : (m : ℚ) ≤ 2 ^ 53 - 1 := cast_le_of_lt bits
  have half : gap m e ≤ 1 / 2 := by
    rw [gap]
    split <;> norm_num
  by_cases same : 2 ^ 52 ≤ z ∨ e = -1074
  · -- the number is in the binade of the double: it is rounded to the mantissa
    have place : IsLastPlace (z * 2 ^ e) e := by
      refine ⟨least, ?_, same.imp_left fun large => ?_⟩
      · rw [zpow_add₀ two_ne_zero, mul_comm]
        exact mul_lt_mul_of_pos_left (by norm_num; linarith) power
      · rw [zpow_add₀ two_ne_zero, mul_comm (2 ^ e)]
        exact mul_le_mul_of_nonneg_right large power.le
    refine ⟨⟨bits, least, full⟩, rfl, e, m, place, ⟨?_, fun tie => ?_⟩, rfl⟩
    · rw [mul_div_cancel_right₀ _ power.ne']
      exact abs_le.mpr ⟨by linarith, by linarith⟩
    · rw [mul_div_cancel_right₀ _ power.ne'] at tie
      by_contra odd
      obtain ⟨notLow, notHigh⟩ := ends (by simp [ofBinary, odd])
      rcases eq_or_eq_neg_of_abs_eq tie with below | above
      · refine notLow (low.antisymm' ?_)
        linarith
      · exact notHigh (by linarith)
  · -- it is just below: the least mantissa of the binade is the last one of the binade before
    obtain ⟨small, notLeast⟩ := not_or.mp same
    have small' : z < 2 ^ 52 := not_le.mp small
    have mantissa : m = 2 ^ 52 := by
      have less : (m : ℚ) < (2 ^ 52 + 1 : Nat) := by
        push_cast
        linarith
      have atMost := Nat.lt_succ_iff.mp (Nat.cast_lt.mp less)
      exact atMost.antisymm (full.resolve_right notLeast)
    subst mantissa
    rw [gap, if_pos ⟨rfl, notLeast⟩] at low
    push_cast at low
    have halved : (2 : ℚ) ^ e = 2 * 2 ^ (e - 1) := by
      rw [zpow_sub_one₀ two_ne_zero]
      ring
    have power' : (0 : ℚ) < 2 ^ (e - 1) := by positivity
    have doubled : z * 2 ^ e / 2 ^ (e - 1) = 2 * z := by
      rw [halved]
      field_simp
    refine ⟨⟨bits, least, full⟩, rfl, e - 1, 2 ^ 53, ⟨by omega, ?_, .inl ?_⟩, ?_, ?_⟩
    · rw [show e - 1 + 53 = e + 52 by ring, zpow_add₀ two_ne_zero, mul_comm]
      exact mul_lt_mul_of_pos_left (by exact_mod_cast small') power
    · rw [show e - 1 + 52 = e + 51 by ring, zpow_add₀ two_ne_zero, mul_comm (2 ^ e)]
      exact mul_le_mul_of_nonneg_right (by norm_num; linarith) power.le
    · rw [doubled]
      refine ⟨?_, fun _ => rfl⟩
      push_cast
      exact abs_le.mpr ⟨by linarith, by linarith⟩
    · rw [exactValue, halved]
      push_cast
      ring

/-- Seventeen digits are finer than the interval is long. -/
theorem ten_zpow_lt (canonical : IsCanonical (.finite s m e pos)) :
    (10 : ℚ) ^ ((ofBinary m e).magnitude - 17) < (ofBinary m e).upper - (ofBinary m e).lower := by
  have power : (0 : ℚ) < 2 ^ e := by positivity
  have bits : (m : ℚ) ≤ 2 ^ 53 - 1 := cast_le_of_lt canonical.1
  have value : 0 < (ofBinary m e).value :=
    Nat.mul_pos (Nat.mul_pos (by decide) pos) (Nat.pow_pos (by decide))
  have leading := ten_zpow_magnitude_le ofBinary_denominator value
  have split : (10 : ℚ) ^ ((ofBinary m e).magnitude - 17) =
      10 ^ ((ofBinary m e).magnitude - 1) / 10 ^ 16 := by
    rw [show (ofBinary m e).magnitude - 17 = (ofBinary m e).magnitude - 1 - 16 by ring,
      zpow_sub₀ (by norm_num)]
    norm_num
  have short : (m : ℚ) / 10 ^ 16 < 1 / 2 + gap m e := by
    rw [gap]
    split
    · next narrow =>
        rw [narrow.1]
        norm_num
    · linarith
  calc (10 : ℚ) ^ ((ofBinary m e).magnitude - 17)
      = 10 ^ ((ofBinary m e).magnitude - 1) / 10 ^ 16 := split
    _ ≤ m * 2 ^ e / 10 ^ 16 := by
        rw [ofBinary_center] at leading
        exact div_le_div_of_nonneg_right leading (by norm_num)
    _ = m / 10 ^ 16 * 2 ^ e := by ring
    _ < (1 / 2 + gap m e) * 2 ^ e := mul_lt_mul_of_pos_right short power
    _ = (ofBinary m e).upper - (ofBinary m e).lower := by
        rw [ofBinary_upper, ofBinary_lower pos]
        ring

/-- The shortest decimal of a double lies in its interval, and has no more digits than any grid
needs on which there is such a decimal at all. -/
theorem exists_shortest (canonical : IsCanonical (.finite s m e pos)) :
    ∃ n j, shortest m e = ⟨n, (ofBinary m e).magnitude - (j : Nat)⟩ ∧
      (ofBinary m e).Contains (n * (10 : ℚ) ^ ((ofBinary m e).magnitude - (j : Nat))) ∧
      1 ≤ j ∧ j ≤ 17 ∧
      ∀ k : Nat, 1 ≤ k →
        ((ofBinary m e).onGrid? ((ofBinary m e).magnitude - k)).isSome → j ≤ k := by
  have proper : (ofBinary m e).IsProper := isProper_ofBinary pos
  have seventeen := onGrid?_isSome_of_fine proper (ten_zpow_lt canonical)
  obtain ⟨n, j, found, first, last, grid⟩ :=
    exists_search 1 17 17 (by decide) seventeen
  refine ⟨n, j, by rw [shortest, found]; rfl, contains_of_onGrid? proper grid, first, last,
    fun k atLeast there => ?_⟩
  rcases Nat.lt_or_ge k 18 with within | beyond
  · obtain ⟨n', j', found', -, below, -⟩ :=
      exists_search 1 17 k (by omega) there
    have same := congrArg Decimal.power (Option.some.inj (found.symm.trans found'))
    dsimp only at same
    omega
  · omega

end Rounding

end MeterSignals.Number
