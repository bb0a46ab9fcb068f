/-
# Rounding to a double

A quotient or a difference of doubles is computed with more bits than a double has, and then
rounded. What is cut off is kept in two bits: the first of it, and whether anything follows.
They are enough to find the nearest multiple of the unit in the last place, and between two
that are equally near the even one.
-/

import MeterSignals.Proofs.Number.Value

namespace MeterSignals.Number

open Float.Model (Format UnpackedFloat totalExponent)
open Float.Model.UnpackedFloat (Sign Accuracy ExtendedMantissa)

/-- The whole number nearest to `z`; between two the even one. -/
structure IsNearest (k : Nat) (z : ℚ) : Prop where
  close : |(k : ℚ) - z| ≤ 1 / 2
  even : |(k : ℚ) - z| = 1 / 2 → k % 2 = 0

theorem IsNearest.of_lt {k : Nat} {z : ℚ} (near : |(k : ℚ) - z| < 1 / 2) : IsNearest k z :=
  ⟨near.le, fun tie => absurd tie near.ne⟩

/-- A mantissa with its two further bits says where `z` is. -/
def Brackets (em : ExtendedMantissa) (z : ℚ) : Prop :=
  match em.roundBit, em.stickyBit with
  | false, false => z = em.mantissa
  | false, true => em.mantissa < z ∧ z < em.mantissa + 1 / 2
  | true, false => z = em.mantissa + 1 / 2
  | true, true => em.mantissa + 1 / 2 < z ∧ z < em.mantissa + 1

namespace Brackets

variable {em : ExtendedMantissa} {z : ℚ}

/-- The mantissa is the whole part. -/
theorem bounds (brackets : Brackets em z) : em.mantissa ≤ z ∧ z < em.mantissa + 1 := by
  obtain ⟨m, round, sticky⟩ := em
  cases round <;> cases sticky <;> simp only [Brackets] at brackets ⊢ <;>
    constructor <;> linarith

/-- The rounded mantissa is nearest. -/
theorem isNearest (brackets : Brackets em z) : IsNearest em.roundedMantissa z := by
  obtain ⟨m, round, sticky⟩ := em
  cases round with
  | false =>
      cases sticky with
      | false =>
          obtain rfl : z = m := brackets
          refine .of_lt ?_
          change |(m : ℚ) - m| < 1 / 2
          rw [sub_self, abs_zero]
          norm_num
      | true =>
          obtain ⟨above, below⟩ : (m : ℚ) < z ∧ z < m + 1 / 2 := brackets
          refine .of_lt ?_
          change |(m : ℚ) - z| < 1 / 2
          rw [abs_sub_lt_iff]
          constructor <;> linarith
  | true =>
      cases sticky with
      | false =>
          obtain rfl : z = m + 1 / 2 := brackets
          have tie : |((m + m % 2 : Nat) : ℚ) - (m + 1 / 2)| = 1 / 2 := by
            rcases Nat.mod_two_eq_zero_or_one m with even | odd
            · rw [even, abs_of_nonpos] <;> push_cast <;> linarith
            · rw [odd, abs_of_nonneg] <;> push_cast <;> linarith
          exact ⟨tie.le, fun _ => show (m + m % 2) % 2 = 0 by omega⟩
      | true =>
          obtain ⟨above, below⟩ : (m : ℚ) + 1 / 2 < z ∧ z < m + 1 := brackets
          refine .of_lt ?_
          change |((m + 1 : Nat) : ℚ) - z| < 1 / 2
          rw [abs_sub_lt_iff]
          push_cast
          constructor <;> linarith

/-- Cutting off one more bit halves the number. -/
theorem shiftRightOne (brackets : Brackets em z) : Brackets em.shiftRightOne (z / 2) := by
  obtain ⟨m, round, sticky⟩ := em
  have halves : (m : ℚ) = 2 * (m / 2 : Nat) + (m % 2 : Nat) := by
    exact_mod_cast (Nat.div_add_mod m 2).symm
  rcases Nat.mod_two_eq_zero_or_one m with even | odd
  · rw [even, Nat.cast_zero, add_zero] at halves
    have bit : (m % 2 != 0) = false := by simp [even]
    cases round <;> cases sticky <;>
      simp only [Brackets, ExtendedMantissa.shiftRightOne, bit, halves, Bool.or_self,
        Bool.or_true, Bool.true_or] at brackets ⊢ <;>
      first | linarith | constructor <;> linarith
  · rw [odd, Nat.cast_one] at halves
    have bit : (m % 2 != 0) = true := by simp [odd]
    cases round <;> cases sticky <;>
      simp only [Brackets, ExtendedMantissa.shiftRightOne, bit, halves, Bool.or_self,
        Bool.or_true, Bool.true_or] at brackets ⊢ <;>
      first | linarith | constructor <;> linarith

/-- Cutting off bits divides by a power of two. -/
theorem shiftRight (brackets : Brackets em z) (n : Nat) : Brackets (em >>> n) (z / 2 ^ n) := by
  induction n with
  | zero =>
      rw [pow_zero, div_one]
      exact brackets
  | succ n ih =>
      rw [pow_succ, ← div_div]
      exact ih.shiftRightOne

/-- A mantissa of which nothing is cut off yet. -/
theorem exact (m : Nat) : Brackets (.ofMantissaAndAccuracy m .exact) m := rfl

end Brackets

/-- The exponent of the last place to which a number is rounded. -/
structure IsLastPlace (x : ℚ) (t : Int) : Prop where
  low : -1074 ≤ t
  below : x < 2 ^ (t + 53)
  full : 2 ^ (t + 52) ≤ x ∨ t = -1074

/-- What a magnitude is rounded to, under a sign. The exponent may be too large for a double. -/
structure IsRounded (s : Sign) (x : ℚ) (u : UnpackedFloat) : Prop where
  canonical : IsCanonical u
  finite : u.isFinite = true
  nearest : ∃ t k, IsLastPlace x t ∧ IsNearest k (x / 2 ^ t) ∧
    exactValue u = factor s * (k * 2 ^ t)

/-- In units of the last place a number has at most 53 bits, and all of them unless the last
place is the last of all. -/
theorem IsNearest.bits {k : Nat} {x : ℚ} {t : Int} (near : IsNearest k (x / 2 ^ t))
    (place : IsLastPlace x t) : k ≤ 2 ^ 53 ∧ (2 ^ 52 ≤ k ∨ t = -1074) := by
  have power : (0 : ℚ) < 2 ^ t := by positivity
  obtain ⟨low, high⟩ := abs_le.mp near.close
  constructor
  · have below : x / 2 ^ t < 2 ^ 53 := by
      rw [div_lt_iff₀ power]
      calc x < 2 ^ (t + 53) := place.below
        _ = 2 ^ (53 : Nat) * 2 ^ t := by
            rw [zpow_add₀ two_ne_zero, mul_comm]
            norm_cast
    have less : (k : ℚ) < (2 ^ 53 + 1 : Nat) := by
      push_cast
      linarith
    exact Nat.le_of_lt_succ (by exact_mod_cast less)
  · refine place.full.imp_left fun full => ?_
    have above : 2 ^ 52 ≤ x / 2 ^ t := by
      rw [le_div_iff₀ power]
      calc (2 : ℚ) ^ (52 : Nat) * 2 ^ t = 2 ^ (t + 52) := by
            rw [zpow_add₀ two_ne_zero, mul_comm]
            norm_cast
        _ ≤ x := full
    have more : ((2 ^ 52 : Nat) : ℚ) < (k + 1 : Nat) := by
      push_cast
      linarith
    exact Nat.le_of_lt_succ (by exact_mod_cast more)

theorem targetExponent_eq (total : Int) :
    Format.binary64.targetExponent total = max (total - 53) (-1074) := rfl

/-- The exponent that is aimed at is that of the last place. -/
theorem isLastPlace_of_brackets {m : Nat} {e : Int} {accuracy : Accuracy} {z : ℚ}
    (brackets : Brackets (.ofMantissaAndAccuracy m accuracy) z)
    (fine : e ≤ Format.binary64.targetExponent (totalExponent m e)) :
    IsLastPlace (z * 2 ^ e) (Format.binary64.targetExponent (totalExponent m e)) := by
  have mantissa : (ExtendedMantissa.ofMantissaAndAccuracy m accuracy).mantissa = m := by
    cases accuracy with
    | exact => rfl
    | inexact order => cases order <;> rfl
  obtain ⟨above, below⟩ := brackets.bounds
  rw [mantissa] at above below
  rw [targetExponent_eq, totalExponent] at fine ⊢
  have power : (0 : ℚ) < 2 ^ e := by positivity
  constructor
  · exact le_max_right _ _
  · have top : z < 2 ^ ((m.log2 : Int) + 1) := by
      refine below.trans_le ?_
      have bits : m + 1 ≤ 2 ^ (m.log2 + 1) := Nat.lt_log2_self
      exact_mod_cast bits
    calc z * 2 ^ e < 2 ^ ((m.log2 : Int) + 1) * 2 ^ e := mul_lt_mul_of_pos_right top power
      _ = 2 ^ ((m.log2 : Int) + 1 + e) := (zpow_add₀ two_ne_zero _ _).symm
      _ ≤ 2 ^ (max ((m.log2 : Int) + 1 + e - 53) (-1074) + 53) :=
          zpow_le_zpow_right₀ one_le_two (by omega)
  · by_cases least : max ((m.log2 : Int) + 1 + e - 53) (-1074) = -1074
    · exact .inr least
    · have some_ : m ≠ 0 := by
        rintro rfl
        simp only [Nat.log2_zero] at fine least
        omega
      have bottom : (2 : ℚ) ^ (m.log2 : Int) ≤ z := by
        refine le_trans ?_ above
        exact_mod_cast Nat.log2_self_le some_
      refine .inl ?_
      calc (2 : ℚ) ^ (max ((m.log2 : Int) + 1 + e - 53) (-1074) + 52)
          = 2 ^ ((m.log2 : Int) + e) := by congr 1; omega
        _ = 2 ^ (m.log2 : Int) * 2 ^ e := zpow_add₀ two_ne_zero _ _
        _ ≤ z * 2 ^ e := mul_le_mul_of_nonneg_right bottom power.le

/-- What is left to do with a rounded mantissa: if it got one bit too many it is shifted. -/
def carry (s : Sign) (k : Nat) (t : Int) : UnpackedFloat :=
  let (em, e) := UnpackedFloat.shiftToTargetExponent .binary64 k t .exact
  if none : em.mantissa = 0 then .zero s else .finite s em.mantissa e (Nat.pos_of_ne_zero none)

theorem carry_of_few_bits (s : Sign) {k : Nat} {t : Int} (low : -1074 ≤ t) (bits : k < 2 ^ 53) :
    carry s k t = if none : k = 0 then .zero s else .finite s k t (Nat.pos_of_ne_zero none) := by
  have log : k.log2 < 53 := by
    by_cases none : k = 0
    · rw [none, Nat.log2_zero]
      decide
    · exact (Nat.log2_lt none).mpr bits
  have stays : (Format.binary64.targetExponent (totalExponent k t) - t).toNat = 0 := by
    rw [targetExponent_eq, totalExponent]
    omega
  have kept : UnpackedFloat.shiftToTargetExponent .binary64 k t .exact =
      (.ofMantissaAndAccuracy k .exact, t) := by
    rw [UnpackedFloat.shiftToTargetExponent, UnpackedFloat.shiftToExponent, stays, Nat.cast_zero,
      add_zero]
    rfl
  rw [carry, kept]
  rfl

theorem carry_of_carry (s : Sign) {t : Int} (low : -1074 ≤ t) :
    carry s (2 ^ 53) t = .finite s (2 ^ 52) (t + 1) (by decide) := by
  have moves : (Format.binary64.targetExponent (totalExponent (2 ^ 53) t) - t).toNat = 1 := by
    rw [targetExponent_eq, totalExponent, Nat.log2_two_pow]
    omega
  have shifted : UnpackedFloat.shiftToTargetExponent .binary64 (2 ^ 53) t .exact =
      (⟨2 ^ 52, false, false⟩, t + 1) := by
    rw [UnpackedFloat.shiftToTargetExponent, UnpackedFloat.shiftToExponent, moves]
    rfl
  rw [carry, shifted]
  rfl

/-- The number that a rounded mantissa stands for is not changed any more. -/
theorem carry_spec (s : Sign) {k : Nat} {t : Int} (low : -1074 ≤ t) (bits : k ≤ 2 ^ 53)
    (full : 2 ^ 52 ≤ k ∨ t = -1074) :
    IsCanonical (carry s k t) ∧ (carry s k t).isFinite = true ∧
      exactValue (carry s k t) = factor s * (k * 2 ^ t) := by
  rcases Nat.lt_or_eq_of_le bits with few | rfl
  · rw [carry_of_few_bits s low few]
    split
    · next none =>
        refine ⟨trivial, rfl, ?_⟩
        rw [none, Nat.cast_zero, zero_mul, mul_zero]
        rfl
    · exact ⟨⟨few, low, full⟩, rfl, rfl⟩
  · rw [carry_of_carry s low]
    refine ⟨⟨by decide, by omega, .inl (Nat.le_refl _)⟩, rfl, ?_⟩
    rw [exactValue, zpow_add₀ two_ne_zero]
    push_cast
    ring

/-- Rounding gives what is nearest, if enough bits were computed. -/
theorem isRounded_roundWithAccuracy (s : Sign) {m : Nat} {e : Int} {accuracy : Accuracy} {z : ℚ}
    (brackets : Brackets (.ofMantissaAndAccuracy m accuracy) z)
    (fine : e ≤ Format.binary64.targetExponent (totalExponent m e)) :
    IsRounded s (z * 2 ^ e) (UnpackedFloat.roundWithAccuracy .binary64 s m e accuracy) := by
  have place := isLastPlace_of_brackets brackets fine
  generalize target : Format.binary64.targetExponent (totalExponent m e) = t at fine place
  obtain ⟨n, steps⟩ := Int.le.dest fine
  have amount : (t - e).toNat = n := by omega
  let k := (ExtendedMantissa.ofMantissaAndAccuracy m accuracy >>> n).roundedMantissa
  have rounded : UnpackedFloat.roundWithAccuracy .binary64 s m e accuracy = carry s k t := by
    rw [UnpackedFloat.roundWithAccuracy, UnpackedFloat.shiftToTargetExponent,
      UnpackedFloat.shiftToExponent, target, amount, steps]
    rfl
  have scaled : z / 2 ^ n = z * 2 ^ e / 2 ^ t := by
    have power : (2 : ℚ) ^ e ≠ 0 := by positivity
    rw [← steps, zpow_add₀ two_ne_zero, zpow_natCast, mul_comm (2 ^ e), mul_div_mul_right _ _ power]
  have near : IsNearest k (z * 2 ^ e / 2 ^ t) := scaled ▸ (brackets.shiftRight n).isNearest
  obtain ⟨bits, full⟩ := near.bits place
  obtain ⟨canonical, finite, value⟩ := carry_spec s place.low bits full
  rw [rounded]
  exact ⟨canonical, finite, t, k, place, near, value⟩

/-- What is canonical is its own rounding. -/
theorem isRounded_of_isCanonical {s : Sign} {m : Nat} {e : Int} {pos : 0 < m}
    (canonical : IsCanonical (.finite s m e pos)) :
    IsRounded s (m * 2 ^ e) (.finite s m e pos) := by
  have power : (0 : ℚ) < 2 ^ e := by positivity
  obtain ⟨bits, low, full⟩ := canonical
  refine ⟨⟨bits, low, full⟩, rfl, e, m, ⟨low, ?_, full.imp_left fun full => ?_⟩, .of_lt ?_, rfl⟩
  · rw [zpow_add₀ two_ne_zero, mul_comm]
    refine mul_lt_mul_of_pos_left ?_ power
    exact_mod_cast bits
  · rw [zpow_add₀ two_ne_zero, mul_comm (2 ^ e)]
    refine mul_le_mul_of_nonneg_right ?_ power.le
    exact_mod_cast full
  · rw [mul_div_cancel_right₀ _ power.ne', sub_self, abs_zero]
    norm_num

theorem isRounded_zero (s s' : Sign) : IsRounded s 0 (.zero s') := by
  refine ⟨trivial, rfl, -1074, 0, ⟨Int.le_refl _, by positivity, .inr rfl⟩, .of_lt ?_, ?_⟩
  · norm_num
  · simp [exactValue]

theorem log2_mul_two_pow {m : Nat} (pos : 0 < m) (n : Nat) :
    (m * 2 ^ n).log2 = m.log2 + n := by
  induction n with
  | zero => simp
  | succ n ih =>
      rw [pow_succ, ← mul_assoc, mul_comm _ 2, Nat.log2_two_mul (by positivity), ih, Nat.add_assoc]

/-- A number written with a finer exponent first is rounded, too. -/
theorem isRounded_round (s : Sign) {m : Nat} (pos : 0 < m) (e : Int) :
    IsRounded s (m * 2 ^ e) (UnpackedFloat.round .binary64 s m e) := by
  generalize target : Format.binary64.targetExponent (totalExponent m e) = t
  obtain ⟨n, amount⟩ : ∃ n, (e - t).toNat = n := ⟨_, rfl⟩
  have bits : (m * 2 ^ n).log2 = m.log2 + n := log2_mul_two_pow pos n
  have total : totalExponent (m * 2 ^ n) (e - n) = totalExponent m e := by
    rw [totalExponent, totalExponent, bits]
    omega
  have same : ((m * 2 ^ n : Nat) : ℚ) * 2 ^ (e - n) = m * 2 ^ e := by
    have power : (2 : ℚ) ^ n ≠ 0 := by positivity
    rw [zpow_sub₀ two_ne_zero, zpow_natCast]
    push_cast
    rw [mul_assoc, mul_div_cancel₀ _ power]
  have rounded : UnpackedFloat.round .binary64 s m e =
      UnpackedFloat.roundWithAccuracy .binary64 s (m * 2 ^ n) (e - n) .exact := by
    rw [UnpackedFloat.round, UnpackedFloat.decreaseExponent, target, amount, Nat.shiftLeft_eq]
  rw [rounded, ← same]
  refine isRounded_roundWithAccuracy s (.exact _) ?_
  rw [total, target]
  omega

/-- A number of either sign and what it is rounded to. -/
def Rounds (x : ℚ) (u : UnpackedFloat) : Prop :=
  ∃ s, factor s * |x| = x ∧ IsRounded s |x| u

/-- A whole number of units is rounded. -/
theorem rounds_normalize (m e : Int) :
    Rounds (m * 2 ^ e) (UnpackedFloat.normalize .binary64 m e .positive) := by
  have power : (0 : ℚ) < 2 ^ e := by positivity
  rw [UnpackedFloat.normalize]
  rcases lt_trichotomy m 0 with negative | rfl | positive
  · rw [Int.compare_eq_lt.mpr negative]
    have magnitude : |(m : ℚ) * 2 ^ e| = (-m).toNat * 2 ^ e := by
      rw [abs_mul, abs_of_pos power, abs_of_neg (by exact_mod_cast negative)]
      congr 1
      exact_mod_cast (Int.toNat_of_nonneg (by omega)).symm
    refine ⟨.negative, ?_, ?_⟩
    · rw [factor, abs_of_neg (mul_neg_of_neg_of_pos (by exact_mod_cast negative) power)]
      ring
    · rw [magnitude]
      exact isRounded_round .negative (by omega) e
  · rw [Int.compare_eq_eq.mpr rfl, Int.cast_zero, zero_mul]
    refine ⟨.positive, by simp, ?_⟩
    rw [abs_zero]
    exact isRounded_zero .positive .positive
  · rw [Int.compare_eq_gt.mpr positive]
    have magnitude : |(m : ℚ) * 2 ^ e| = m.toNat * 2 ^ e := by
      rw [abs_mul, abs_of_pos power, abs_of_pos (by exact_mod_cast positive)]
      congr 1
      exact_mod_cast (Int.toNat_of_nonneg positive.le).symm
    refine ⟨.positive, ?_, ?_⟩
    · rw [factor, one_mul, abs_of_pos (mul_pos (by exact_mod_cast positive) power)]
    · rw [magnitude]
      exact isRounded_round .positive (by omega) e

end MeterSignals.Number
