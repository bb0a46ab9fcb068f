/-
# Decimals as doubles

A decimal is read as the number that it denotes, rounded, whatever its length: also where the
powers of ten are taken from a table, and where the decimal is so large or so small that it is not
computed. So the result is infinite exactly if the decimal is too large for a double, and it is
always a number.
-/

import MeterSignals.Proofs.Number.Whole

namespace MeterSignals.Number

open Float.Model (Format UnpackedFloat)
open Float.Model.UnpackedFloat (Sign)

/-- A product that has all bits of a double, or more, is rounded once. -/
theorem isRounded_of_full (s : Sign) {m : Nat} (full : 2 ^ 52 ≤ m) (e : Int) :
    IsRounded s (m * 2 ^ e) (UnpackedFloat.roundWithAccuracy .binary64 s m e .exact) := by
  refine isRounded_roundWithAccuracy s (.exact m) ?_
  have bits : 52 ≤ m.log2 := (Nat.le_log2 (by omega)).mpr full
  rw [targetExponent_eq, Float.Model.totalExponent]
  omega

theorem factor_mul (s s' : Sign) : factor (s * s') = factor s * factor s' := by
  cases s <;> cases s' <;> simp [factor]

/-- A number that is not below one has all bits of a mantissa. -/
theorem full_of_one_le {s : Sign} {m : Nat} {e : Int} {pos : 0 < m}
    (canonical : IsCanonical (.finite s m e pos)) (large : 1 ≤ |exactValue (.finite s m e pos)|) :
    2 ^ 52 ≤ m := by
  obtain ⟨bits, -, full⟩ := canonical
  refine full.resolve_right ?_
  rintro rfl
  rw [abs_exactValue_finite] at large
  have small : (m : ℚ) * 2 ^ (-1074 : Int) < (2 ^ 52 : Nat) * 2 ^ (-52 : Int) :=
    lt_of_exponent_lt bits (Nat.le_refl _) (by decide)
  have unit : ((2 ^ 52 : Nat) : ℚ) * 2 ^ (-52 : Int) = 1 := by norm_num
  exact absurd large (unit ▸ small).not_ge

/-- The product of a finite double by one of magnitude one or more is computed exactly and
rounded. -/
theorem rounds_mul {a b : UnpackedFloat} (finite : a.isFinite = true) (canonical : IsCanonical b)
    (large : 1 ≤ |exactValue b|) :
    Rounds (exactValue a * exactValue b) (UnpackedFloat.mul .binary64 a b) := by
  have some_ {c : UnpackedFloat} (zero : exactValue c = 0) (above : 1 ≤ |exactValue c|) :
      False := by
    rw [zero, abs_zero] at above
    linarith
  cases b with
  | notANumber => exact (some_ rfl large).elim
  | infinity s' => exact (some_ rfl large).elim
  | zero s' => exact (some_ rfl large).elim
  | finite s' n f pos' =>
      have full := full_of_one_le canonical large
      cases a with
      | notANumber => cases finite
      | infinity s => cases finite
      | zero s =>
          rw [exactValue_zero, zero_mul]
          exact rounds_zero (s * s')
      | finite s m e pos =>
          have product : |exactValue (.finite s m e pos) * exactValue (.finite s' n f pos')| =
              (m * n : Nat) * 2 ^ (e + f) := by
            rw [abs_mul, abs_exactValue_finite, abs_exactValue_finite, zpow_add₀ two_ne_zero]
            push_cast
            ring
          refine ⟨s * s', ?_, ?_⟩
          · rw [product, factor_mul, exactValue, exactValue, zpow_add₀ two_ne_zero]
            push_cast
            ring
          · rw [product]
            exact isRounded_of_full (s * s') (full.trans (Nat.le_mul_of_pos_left n pos)) (e + f)

/-- The powers of ten in the table are exact. -/
theorem exists_powerOfTen {e : Nat} (few : e ≤ 22) :
    ∃ p, Float.exactlyRepresentablePowersOfTen[e]? = some p ∧ value p = 10 ^ e := by
  have table : ∀ e < 23, (Float.exactlyRepresentablePowersOfTen[e]?).bind integer? =
      some (10 ^ e) := by decide +kernel
  obtain ⟨p, found, whole⟩ := Option.bind_eq_some_iff.mp (table e (by omega))
  exact ⟨p, found, by exact_mod_cast (integer?_eq_some_iff.mp whole).2⟩

/-- The product of finite doubles of which one has magnitude one or more is the exact one,
rounded. -/
theorem approximates_mul {x y : Float} (finite : x.isFinite = true) (large : 1 ≤ |value y|) :
    Approximates (x * y) (value x * value y) :=
  approximates_of_pack (rounds_mul finite (isCanonical_unpack y.toModel).1 large)

/-- A natural number of 53 bits is a double. -/
theorem value_toFloat {m : Nat} (bits : m < 2 ^ 53) :
    m.toUInt64.toFloat.isFinite = true ∧ value m.toUInt64.toFloat = m := by
  have normalized := rounds_normalize m 0
  rw [zpow_zero, mul_one, Int.cast_natCast] at normalized
  have same : m.toUInt64.toNat = m := Nat.mod_eq_of_lt (by omega)
  have whole : Approximates m.toUInt64.toFloat (m : Int) := by
    rw [Int.cast_natCast]
    refine approximates_of_pack ?_
    rw [UnpackedFloat.ofUInt64, same]
    exact normalized
  exact_mod_cast whole.value_eq_of_le (by omega)

/-- A decimal of few digits and a small power is read with one operation on exact doubles. -/
theorem approximates_of_few {m : Nat} (bits : m < 2 ^ 53) {e : Int} (few : e.natAbs ≤ 22) :
    Approximates (nearest m e) (m * 10 ^ e) := by
  obtain ⟨finite, same⟩ := value_toFloat bits
  obtain ⟨p, found, power⟩ := exists_powerOfTen few
  obtain ⟨bound, rfl⟩ := Array.getElem?_eq_some_iff.mp found
  generalize table : Float.exactlyRepresentablePowersOfTen[e.natAbs] = p at power
  have read : nearest m e =
      if e < 0 then m.toUInt64.toFloat / p else m.toUInt64.toFloat * p := by
    rw [nearest, Float.ofScientific, dif_pos ⟨bits, few⟩, table]
    simp only [decide_eq_true_eq]
  have large : 1 ≤ value p := power ▸ one_le_pow₀ (by norm_num)
  rw [read]
  split
  · next negative =>
      have quotient := approximates_div finite (y := p) (by linarith)
      have exponent : e = -(e.natAbs : Int) := by omega
      rw [same, power] at quotient
      rwa [exponent, zpow_neg, zpow_natCast, ← div_eq_mul_inv]
  · next natural =>
      have product := approximates_mul finite (y := p) (large.trans (le_abs_self _))
      have exponent : e = (e.natAbs : Int) := by omega
      rw [same, power] at product
      rwa [exponent, zpow_natCast]

/-- What is too large for a double becomes an infinity. -/
theorem clip_of_overflow {x : ℚ} {u : UnpackedFloat} (rounds : Rounds x u)
    (large : overflow ≤ x) : clip u = .infinity .positive := by
  have positive : 0 < x := by
    have unit := halfUnit_pos
    rw [overflow] at large
    linarith
  have natural := rounds.nonneg positive.le
  have limit := mt rounds.abs_lt_iff.mp (not_lt.mpr (large.trans (le_abs_self x)))
  obtain ⟨_, -, rounded⟩ := rounds
  have infinite : ¬ (clip u).isFinite = true := by
    rwa [(clip_of_abs_lt rounded.canonical rounded.finite).1]
  cases u with
  | notANumber => cases rounded.finite
  | infinity s => cases rounded.finite
  | zero s => exact absurd rfl infinite
  | finite s m e pos =>
      rw [clip] at infinite ⊢
      split
      · cases s with
        | positive => rfl
        | negative =>
            have magnitude : (0 : ℚ) < m * 2 ^ e := by
              have mantissa : (0 : ℚ) < m := by exact_mod_cast pos
              positivity
            rw [exactValue, factor] at natural
            linarith
      · next small => exact absurd (if_neg small ▸ rfl) infinite

/-- What is too small for a double becomes zero. -/
theorem rounds_of_underflow {x : ℚ} (natural : 0 ≤ x) (small : x < 2 ^ (-1075 : Int)) :
    Rounds x (.zero .positive) := by
  have unit : (0 : ℚ) < 2 ^ (-1074 : Int) := by positivity
  refine ⟨.positive, by rw [factor, one_mul, abs_of_nonneg natural], trivial, rfl, -1074, 0,
    ⟨Int.le_refl _, ?_, .inr rfl⟩, .of_lt ?_, ?_⟩
  · rw [abs_of_nonneg natural]
    exact small.trans (zpow_lt_zpow_right₀ one_lt_two (by decide))
  · rw [abs_of_nonneg natural, Nat.cast_zero, zero_sub, abs_neg,
      abs_of_nonneg (div_nonneg natural unit.le), div_lt_iff₀ unit]
    refine small.trans_eq ?_
    rw [show (-1075 : Int) = -1 + -1074 from rfl, zpow_add₀ two_ne_zero]
    norm_num
  · rw [Nat.cast_zero, zero_mul, mul_zero]
    rfl

/-- A power of two that is not above a power of ten. -/
theorem two_zpow_le_ten_zpow {e : Int} (natural : 0 ≤ e) : (2 : ℚ) ^ e ≤ 10 ^ e :=
  zpow_le_zpow_left₀ natural zero_le_two (by norm_num)

/-- Decimals that are so large are not computed. -/
theorem overflow_le {m : Nat} (some_ : 0 < m) {e : Int} (large : 2048 < e) :
    overflow ≤ m * 10 ^ e := by
  have one : (1 : ℚ) ≤ m := by exact_mod_cast some_
  calc overflow ≤ 2 ^ 54 * halfUnit := by
        have unit := halfUnit_pos
        rw [overflow]
        linarith
    _ = 2 ^ (((54 : Nat) : Int) + 970) := pow_mul_halfUnit 54
    _ ≤ 2 ^ e := zpow_le_zpow_right₀ one_le_two (by omega)
    _ ≤ 10 ^ e := two_zpow_le_ten_zpow (by omega)
    _ ≤ m * 10 ^ e := le_mul_of_one_le_left (by positivity) one

/-- Decimals that are so small are not computed. -/
theorem lt_underflow {m : Nat} {e : Int} (small : e < -(2048 + m.log2)) :
    (m : ℚ) * 10 ^ e < 2 ^ (-1075 : Int) := by
  have bits : (m : ℚ) < 2 ^ (m.log2 + 1 : Int) := by exact_mod_cast Nat.lt_log2_self
  have power : (10 : ℚ) ^ e ≤ 2 ^ e := by
    rw [← neg_neg e, zpow_neg, zpow_neg 2]
    exact inv_anti₀ (by positivity) (two_zpow_le_ten_zpow (by omega))
  calc (m : ℚ) * 10 ^ e ≤ m * 2 ^ e := mul_le_mul_of_nonneg_left power (Nat.cast_nonneg m)
    _ < 2 ^ (m.log2 + 1 : Int) * 2 ^ e := mul_lt_mul_of_pos_right bits (by positivity)
    _ = 2 ^ (m.log2 + 1 + e : Int) := (zpow_add₀ two_ne_zero _ _).symm
    _ ≤ 2 ^ (-1075 : Int) := zpow_le_zpow_right₀ one_le_two (by omega)

/-- Any other decimal is computed exactly and rounded. -/
theorem approximates_ofScientific (m : Nat) (e : Int) :
    Approximates (.ofModel (.ofScientific m e)) (m * 10 ^ e) := by
  change Approximates (.ofModel (.pack (UnpackedFloat.ofScientific .binary64 m e))) _
  have limit : (2 : Int) ^ Format.binary64.exponentBits = 2048 := rfl
  rw [UnpackedFloat.ofScientific, limit]
  split
  · next none =>
      rw [none, Nat.cast_zero, zero_mul]
      exact approximates_of_pack (rounds_zero _)
  · next some_ =>
      have pos : 0 < m := Nat.pos_of_ne_zero some_
      split
      · next large =>
          obtain ⟨n, rfl⟩ := Int.eq_ofNat_of_zero_le (show 0 ≤ e by omega)
          have whole : (m : ℚ) * 10 ^ (n : Int) = ((m * 10 ^ n : Nat) : Int) * 2 ^ (0 : Int) := by
            push_cast
            rw [zpow_natCast, mul_one]
          have rounds := rounds_normalize (m * 10 ^ n : Nat) 0
          rw [← whole] at rounds
          refine ⟨_, rounds, ?_⟩
          rw [clip_of_overflow rounds (overflow_le pos large)]
          exact unpack_pack (u := .infinity .positive) trivial
      · split
        · next small =>
            exact approximates_of_pack (rounds_of_underflow (by positivity) (lt_underflow small))
        · split
          · next natural =>
              obtain ⟨n, rfl⟩ := Int.eq_ofNat_of_zero_le natural
              have full : 2 ^ 52 ≤ (m <<< 53) * 10 ^ n := by
                rw [Nat.shiftLeft_eq]
                have shifted : 2 ^ 52 ≤ m * 2 ^ 53 := by omega
                exact shifted.trans (Nat.le_mul_of_pos_right _ (by positivity))
              have product : ((m <<< 53 * 10 ^ n : Nat) : ℚ) * 2 ^ (-53 + 0 : Int) =
                  m * 10 ^ (n : Int) := by
                rw [Nat.shiftLeft_eq, zpow_natCast]
                push_cast
                norm_num
                ring
              have rounded := isRounded_of_full .positive full (-53 + 0)
              rw [product] at rounded
              refine approximates_of_pack ⟨.positive, ?_, ?_⟩
              · rw [factor, one_mul, abs_of_nonneg (by positivity)]
              · rw [abs_of_nonneg (by positivity)]
                exact rounded
          · next negative =>
              have power : ((10 ^ (-e).toNat : Nat) : ℚ) ≠ 0 := by positivity
              have quotient : exactValue (.finite .positive m 0 pos) /
                  exactValue (.finite .positive (10 ^ (-e).toNat) 0 (by positivity)) =
                    m * 10 ^ e := by
                have exponent : e = -((-e).toNat : Int) := by omega
                rw [exactValue, exactValue, factor, one_mul, one_mul, zpow_zero, mul_one, mul_one,
                  div_eq_mul_inv]
                nth_rewrite 2 [exponent]
                rw [zpow_neg, zpow_natCast]
                push_cast
                rfl
              rw [← quotient]
              refine approximates_of_pack (rounds_div rfl ?_)
              rw [exactValue, factor, one_mul, zpow_zero, mul_one]
              exact power

/-- A decimal is read as the number that it denotes, rounded. -/
theorem approximates_nearest (m : Nat) (e : Int) : Approximates (nearest m e) (m * 10 ^ e) := by
  by_cases few : m < 2 ^ 53 ∧ e.natAbs ≤ 22
  · exact approximates_of_few few.1 few.2
  · have sign : (if decide (e < 0) then Int.negOfNat e.natAbs else Int.ofNat e.natAbs) = e := by
      split
      · next negative =>
          rw [decide_eq_true_eq] at negative
          rw [Int.negOfNat_eq, Int.ofNat_eq_natCast]
          omega
      · next natural =>
          rw [decide_eq_true_eq] at natural
          rw [Int.ofNat_eq_natCast]
          omega
    rw [nearest, Float.ofScientific, dif_neg few]
    dsimp only
    rw [sign]
    exact approximates_ofScientific m e

theorem Approximates.isNaN_eq_false {z : Float} {x : ℚ} (approximates : Approximates z x) :
    z.isNaN = false := by
  obtain ⟨u, ⟨s, -, rounded⟩, unpacked⟩ := approximates
  change z.toModel.unpack.isNaN = false
  rw [unpacked]
  have finite := rounded.finite
  cases u with
  | notANumber => cases finite
  | infinity s => rfl
  | zero s => rfl
  | finite s m e pos =>
      rw [clip]
      split <;> rfl

/-- A natural number of 53 bits is a double. -/
theorem integer?_ofNat {n : Nat} (small : n ≤ 2 ^ 53) : integer? (Float.ofNat n) = some n := by
  have approximates : Approximates (Float.ofNat n) (n : Int) := by
    have whole := approximates_nearest n 0
    rw [zpow_zero, mul_one] at whole
    exact whole
  exact integer?_eq_some_iff.mpr (approximates.value_eq_of_le small)

end MeterSignals.Number
