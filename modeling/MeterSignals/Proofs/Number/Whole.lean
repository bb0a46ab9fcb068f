/-
# Whole numbers as doubles

A whole number that is rounded to a double stays whole, unless it becomes an infinity: doubles
that are too coarse to have a fraction are whole anyway, and among the finer ones the number
itself is found, up to 2^53 always.
-/

import MeterSignals.Number.Decimal
import MeterSignals.Proofs.Number.Arithmetic

namespace MeterSignals.Number

open Float.Model (Format UnpackedFloat totalExponent)
open Float.Model.UnpackedFloat (Sign)

/-- The whole part is all of the number exactly if the number is whole. -/
theorem splitWhole_eq_iff {m n : Nat} {e : Int} :
    splitWhole m e = (n, true) ↔ (m : ℚ) * 2 ^ e = n := by
  cases e with
  | ofNat k =>
      rw [splitWhole, Prod.mk.injEq, and_iff_left rfl, Int.ofNat_eq_natCast, zpow_natCast]
      change m * 2 ^ k = n ↔ _
      exact_mod_cast Iff.rfl
  | negSucc k =>
      have power : (2 : ℚ) ^ (k + 1) ≠ 0 := by positivity
      rw [splitWhole, Prod.mk.injEq, decide_eq_true_eq, zpow_negSucc, ← div_eq_mul_inv,
        div_eq_iff power]
      change m / 2 ^ (k + 1) = n ∧ m % 2 ^ (k + 1) = 0 ↔ _
      have whole : (m : ℚ) = n * 2 ^ (k + 1) ↔ m = n * 2 ^ (k + 1) := by exact_mod_cast Iff.rfl
      rw [whole]
      constructor
      · rintro ⟨rfl, rest⟩
        exact (Nat.div_mul_cancel (Nat.dvd_of_mod_eq_zero rest)).symm
      · rintro rfl
        exact ⟨Nat.mul_div_cancel _ (by positivity), Nat.mul_mod_left _ _⟩

/-- Nothing but itself is nearest to a whole number. -/
theorem IsNearest.eq_natCast {k n : Nat} (near : IsNearest k (n : ℚ)) : k = n := by
  obtain ⟨low, high⟩ := abs_le.mp near.close
  have below : (k : ℚ) < (n + 1 : Nat) := by push_cast; linarith
  have above : (n : ℚ) < (k + 1 : Nat) := by push_cast; linarith
  norm_cast at below above
  omega

theorem factor_mul_cast (s : Sign) (n : Nat) : factor s * n = (signed s n : Int) := by
  cases s <;> simp [factor, signed]

/-- A double is an integer exactly if it is finite and its value is one. -/
theorem integer?_eq_some_iff {x : Float} {n : Int} :
    integer? x = some n ↔ x.isFinite = true ∧ value x = n := by
  change _ ↔ x.toModel.unpack.isFinite = true ∧ exactValue x.toModel.unpack = n
  rw [integer?]
  cases x.toModel.unpack with
  | notANumber => exact iff_of_false nofun (fun finite => nomatch finite.1)
  | infinity s => exact iff_of_false nofun (fun finite => nomatch finite.1)
  | zero s =>
      change some 0 = some n ↔ true = true ∧ (0 : ℚ) = n
      rw [Option.some.injEq, and_iff_right rfl]
      exact_mod_cast Iff.rfl
  | finite s m e pos =>
      change (if (splitWhole m e).2 then some (signed s (splitWhole m e).1) else none) = some n ↔
        true = true ∧ factor s * (m * 2 ^ e) = n
      rw [and_iff_right rfl]
      by_cases whole : (splitWhole m e).2 = true
      · rw [if_pos whole, splitWhole_eq_iff.mp (Prod.ext rfl whole), factor_mul_cast,
          Option.some.injEq, Int.cast_inj]
      · rw [if_neg whole]
        refine iff_of_false nofun fun same => whole ?_
        have magnitude : (m : ℚ) * 2 ^ e = n.natAbs := by
          rw [Nat.cast_natAbs, Int.cast_abs, ← same, abs_mul, abs_factor, one_mul,
            abs_of_nonneg (by positivity)]
        exact congrArg Prod.snd (splitWhole_eq_iff.mpr magnitude)

/-- A number that is rounded and is a double is kept. -/
theorem Approximates.value_eq {z : Float} {x : ℚ} (approximates : Approximates z x)
    (double : IsMagnitude |x|) (finite : z.isFinite = true) : value z = x := by
  obtain ⟨u, rounds, same⟩ := approximates.rounds finite
  have magnitude : |value z| = |x| := by
    rw [← same]
    exact (rounds.abs_le_of_le double le_rfl).antisymm (rounds.le_abs_of_le double le_rfl)
  rcases le_total 0 x with natural | opposite
  · rwa [← same, abs_of_nonneg (rounds.nonneg natural), abs_of_nonneg natural, same] at magnitude
  · rw [← same, abs_of_nonpos (rounds.nonpos opposite), abs_of_nonpos opposite, same] at magnitude
    exact neg_inj.mp magnitude

/-- A whole number that is rounded stays whole. -/
theorem Approximates.isWhole {z : Float} {n : Int} (approximates : Approximates z n)
    (finite : z.isFinite = true) : ∃ k, integer? z = some k := by
  obtain ⟨u, ⟨s, sign, rounded⟩, kept⟩ := approximates.rounds finite
  obtain ⟨t, k, place, near, found⟩ := rounded.nearest
  suffices whole : ∃ i : Int, value z = i from
    whole.imp fun i value => integer?_eq_some_iff.mpr ⟨finite, value⟩
  rw [← kept]
  rcases le_or_gt 0 t with coarse | fine
  · obtain ⟨j, rfl⟩ := Int.eq_ofNat_of_zero_le coarse
    refine ⟨signed s (k * 2 ^ j), ?_⟩
    rw [found, ← factor_mul_cast]
    push_cast
    rfl
  · refine ⟨n, ?_⟩
    obtain ⟨j, steps⟩ := Int.eq_ofNat_of_zero_le (Int.neg_nonneg.mpr fine.le)
    obtain rfl : t = -(j : Int) := by omega
    have power : (2 : ℚ) ^ j ≠ 0 := by positivity
    have scaled : |(n : ℚ)| / 2 ^ (-(j : Int)) = (n.natAbs * 2 ^ j : Nat) := by
      rw [zpow_neg, zpow_natCast, div_inv_eq_mul, Nat.cast_mul, Nat.cast_natAbs, Int.cast_abs,
        Nat.cast_pow, Nat.cast_ofNat]
    have same : k = n.natAbs * 2 ^ j := (scaled ▸ near).eq_natCast
    rw [found, same, zpow_neg, zpow_natCast, Nat.cast_mul, Nat.cast_pow, Nat.cast_ofNat,
      mul_assoc, mul_inv_cancel₀ power, mul_one, Nat.cast_natAbs, Int.cast_abs, sign]

theorem exactValue_neg (u : UnpackedFloat) : exactValue u.neg = -exactValue u := by
  cases u with
  | finite s m e pos => rw [UnpackedFloat.neg, exactValue, exactValue, factor_neg, neg_mul]
  | _ => exact neg_zero.symm

theorem IsCanonical.neg {u : UnpackedFloat} (canonical : IsCanonical u) : IsCanonical u.neg := by
  cases u <;> exact canonical

theorem isFinite_neg (u : UnpackedFloat) : u.neg.isFinite = u.isFinite := by
  cases u <;> rfl

theorem sign_neg_neg (s : Sign) : - -s = s := by
  cases s <;> rfl

theorem apply_neg (s : Sign) (n : Nat) : (-s).apply n = -s.apply n := by
  cases s with
  | positive => rfl
  | negative => exact (Int.neg_neg _).symm

/-- To add is to subtract the negative. -/
theorem add_eq_sub_neg (a b : UnpackedFloat) :
    UnpackedFloat.add .binary64 a b = UnpackedFloat.sub .binary64 a b.neg := by
  cases a <;> cases b <;>
    simp only [UnpackedFloat.add, UnpackedFloat.neg, UnpackedFloat.sub, sign_neg_neg, apply_neg,
      Int.sub_neg]

/-- The sum of finite doubles is the exact one, rounded. -/
theorem approximates_add {x y : Float} (finite : x.isFinite = true) (finite' : y.isFinite = true) :
    Approximates (x + y) (value x + value y) := by
  have sum := rounds_sub (isCanonical_unpack x.toModel).1 (isCanonical_unpack y.toModel).1.neg
    finite ((isFinite_neg y.toModel.unpack).trans finite')
  rw [exactValue_neg, sub_neg_eq_add, ← add_eq_sub_neg] at sum
  exact approximates_of_pack sum

theorem clip_neg (u : UnpackedFloat) : clip u.neg = (clip u).neg := by
  cases u with
  | finite s m e pos =>
      rw [UnpackedFloat.neg, clip, clip]
      split <;> rfl
  | _ => rfl

theorem Rounds.neg {x : ℚ} {u : UnpackedFloat} (rounds : Rounds x u) : Rounds (-x) u.neg := by
  obtain ⟨s, sign, canonical, finite, t, k, place, near, found⟩ := rounds
  rw [Rounds, abs_neg]
  refine ⟨-s, by rw [factor_neg, neg_mul, sign], canonical.neg, ?_, t, k, place, near, ?_⟩
  · cases u <;> exact finite
  · rw [exactValue_neg, found, factor_neg, neg_mul]

/-- A whole number of 53 bits is a double. -/
theorem isMagnitude_natCast {n : Nat} (small : n ≤ 2 ^ 53) : IsMagnitude n := by
  rcases small.lt_or_eq with bits | rfl
  · exact ⟨n, 0, by rw [zpow_zero, mul_one], bits, by decide⟩
  · exact ⟨2 ^ 52, 1, by norm_num, by decide, by decide⟩

/-- A whole number of 53 bits is kept. -/
theorem Approximates.value_eq_of_le {z : Float} {n : Int} (approximates : Approximates z n)
    (small : n.natAbs ≤ 2 ^ 53) : z.isFinite = true ∧ value z = n := by
  have magnitude : |(n : ℚ)| = n.natAbs := by rw [Nat.cast_natAbs, Int.cast_abs]
  have finite : z.isFinite = true := by
    refine approximates.isFinite_iff.mpr ?_
    have unit : 1 ≤ halfUnit := one_le_zpow₀ one_le_two (by decide)
    have bound : (n.natAbs : ℚ) ≤ 2 ^ 53 := by exact_mod_cast small
    rw [magnitude, overflow]
    linarith
  exact ⟨finite, approximates.value_eq (magnitude ▸ isMagnitude_natCast small) finite⟩

/-- The negative of a rounded number is the negative number, rounded. -/
theorem Approximates.neg {z : Float} {x : ℚ} (approximates : Approximates z x) :
    Approximates (-z) (-x) := by
  obtain ⟨u, rounds, unpacked⟩ := approximates
  refine ⟨u.neg, rounds.neg, ?_⟩
  change (Float.Model.pack z.toModel.unpack.neg).unpack = _
  obtain ⟨canonical, kept⟩ := isCanonical_unpack z.toModel
  rw [unpack_pack canonical.neg, clip_neg, kept, unpacked, clip_neg]

end MeterSignals.Number
