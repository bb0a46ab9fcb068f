/-
# Arithmetic of doubles

The difference and the quotient of finite doubles are the exact results, rounded. Whether
they are finite, how far they are off and which sign they have follows from that.
-/

import MeterSignals.Proofs.Number.Order

namespace MeterSignals.Number

open Float.Model (UnpackedFloat)
open Float.Model.UnpackedFloat (Sign)

/-- Something finite becomes a double exactly if it is small enough, and then it is kept. -/
theorem clip_of_abs_lt {u : UnpackedFloat} (canonical : IsCanonical u)
    (finite : u.isFinite = true) :
    ((clip u).isFinite = true ↔ |exactValue u| < 2 ^ 54 * halfUnit) ∧
      ((clip u).isFinite = true → clip u = u) := by
  cases u with
  | infinity s => cases finite
  | notANumber => cases finite
  | zero s =>
      refine ⟨iff_of_true rfl ?_, fun _ => rfl⟩
      rw [exactValue_zero, abs_zero]
      exact mul_pos (by norm_num) halfUnit_pos
  | finite s m e pos =>
      obtain ⟨bits, low, full⟩ := canonical
      rw [abs_exactValue_finite, clip]
      have mantissa : (2 : ℚ) ^ (52 : Int) = (2 ^ 52 : Nat) := by norm_num
      have limit : 2 ^ 54 * halfUnit = (2 ^ 52 : Nat) * 2 ^ (972 : Int) := by
        rw [pow_mul_halfUnit, show ((54 : Nat) : Int) + 970 = 52 + 972 from rfl,
          zpow_add₀ two_ne_zero, mantissa]
      rw [limit]
      by_cases large : maxExponent < e
      · rw [if_pos large]
        refine ⟨iff_of_false Bool.false_ne_true ?_, fun finite => absurd finite Bool.false_ne_true⟩
        simp only [maxExponent] at large
        refine not_lt.mpr (mul_le_mul ?_ (zpow_le_zpow_right₀ one_le_two (by omega))
          (zpow_nonneg zero_le_two _) (Nat.cast_nonneg m))
        exact_mod_cast full.resolve_right (by omega)
      · rw [if_neg large]
        simp only [maxExponent] at large
        exact ⟨iff_of_true rfl (lt_of_exponent_lt bits (Nat.le_refl _) (by omega)), fun _ => rfl⟩

theorem rounds_zero (s : Sign) : Rounds 0 (.zero s) := by
  refine ⟨.positive, by simp, ?_⟩
  rw [abs_zero]
  exact isRounded_zero .positive s

theorem rounds_of_isCanonical {s : Sign} {m : Nat} {e : Int} {pos : 0 < m}
    (canonical : IsCanonical (.finite s m e pos)) :
    Rounds (exactValue (.finite s m e pos)) (.finite s m e pos) := by
  refine ⟨s, ?_, ?_⟩
  · rw [abs_exactValue_finite, exactValue]
  · rw [abs_exactValue_finite]
    exact isRounded_of_isCanonical canonical

theorem factor_neg (s : Sign) : factor (-s) = -factor s := by
  cases s
  · exact (neg_neg (1 : ℚ)).symm
  · rfl

theorem factor_div (s s' : Sign) : factor (s / s') = factor s * factor s' := by
  cases s <;> cases s' <;> norm_num [factor,
    show Sign.negative / Sign.negative = .positive from rfl,
    show Sign.negative / Sign.positive = .negative from rfl,
    show Sign.positive / Sign.negative = .negative from rfl,
    show Sign.positive / Sign.positive = .positive from rfl]

theorem cast_apply (s : Sign) (n : Nat) : ((s.apply n : Int) : ℚ) = factor s * n := by
  cases s <;> simp [Sign.apply, factor]

/-- A number that is shifted to a finer exponent. -/
theorem shiftLeft_mul_zpow (m : Nat) {e t : Int} (finer : t ≤ e) :
    ((m <<< (e - t).toNat : Nat) : ℚ) * 2 ^ t = m * 2 ^ e := by
  obtain ⟨n, rfl⟩ := Int.le.dest finer
  rw [show (t + n - t).toNat = n by omega, Nat.shiftLeft_eq, mul_zpow_add]

/-- A difference is computed exactly and rounded. -/
theorem rounds_sub {a b : UnpackedFloat} (canonical : IsCanonical a) (canonical' : IsCanonical b)
    (finite : a.isFinite = true) (finite' : b.isFinite = true) :
    Rounds (exactValue a - exactValue b) (UnpackedFloat.sub .binary64 a b) := by
  cases a with
  | infinity s => cases finite
  | notANumber => cases finite
  | zero s =>
      rw [exactValue_zero, zero_sub]
      cases b with
      | infinity s' => cases finite'
      | notANumber => cases finite'
      | zero s' =>
          rw [exactValue_zero, neg_zero, UnpackedFloat.sub]
          split <;> exact rounds_zero _
      | finite s' n f pos' =>
          have turned :
              -exactValue (.finite s' n f pos') = exactValue (.finite (-s') n f pos') := by
            rw [exactValue, exactValue, factor_neg, neg_mul]
          rw [turned]
          exact @rounds_of_isCanonical (-s') n f pos' canonical'
  | finite s m e pos =>
      cases b with
      | infinity s' => cases finite'
      | notANumber => cases finite'
      | zero s' =>
          rw [exactValue_zero, sub_zero]
          exact rounds_of_isCanonical canonical
      | finite s' n f pos' =>
          let units := s.apply (m <<< (e - min e f).toNat : Nat) -
            s'.apply (n <<< (f - min e f).toNat : Nat)
          have number : exactValue (.finite s m e pos) - exactValue (.finite s' n f pos') =
              (units : ℚ) * 2 ^ min e f := by
            rw [exactValue, exactValue, ← shiftLeft_mul_zpow m (min_le_left e f),
              ← shiftLeft_mul_zpow n (min_le_right e f), Int.cast_sub, cast_apply, cast_apply]
            ring
          rw [number]
          exact rounds_normalize units (min e f)

/-- What is left of a quotient says where it lies between two whole numbers. -/
theorem brackets_accuracyOfFraction (q : Nat) {num den : Nat} (proper : num < den) :
    Brackets (.ofMantissaAndAccuracy q (UnpackedFloat.accuracyOfFraction num den))
      (q + (num : ℚ) / den) := by
  have positive : (0 : ℚ) < den := by
    exact_mod_cast Nat.zero_lt_of_lt proper
  rw [UnpackedFloat.accuracyOfFraction]
  split
  · next none =>
      rw [none, Nat.cast_zero, zero_div, add_zero]
      exact .exact q
  · next some_ =>
      have natural : (0 : ℚ) < num := by exact_mod_cast Nat.pos_of_ne_zero some_
      rcases lt_trichotomy (2 * num) den with less | equal | greater
      · rw [compare_lt_iff_lt.mpr less]
        have half : (num : ℚ) / den < 1 / 2 := by
          rw [div_lt_div_iff₀ positive two_pos]
          have cast : ((2 * num : Nat) : ℚ) < den := by exact_mod_cast less
          push_cast at cast
          linarith
        exact ⟨lt_add_of_pos_right _ (div_pos natural positive), add_lt_add_right half _⟩
      · rw [compare_eq_iff_eq.mpr equal]
        have half : (num : ℚ) / den = 1 / 2 := by
          rw [div_eq_div_iff positive.ne' two_ne_zero]
          have cast : ((2 * num : Nat) : ℚ) = den := by exact_mod_cast equal
          push_cast at cast
          linarith
        exact congrArg _ half
      · rw [compare_gt_iff_gt.mpr greater]
        have half : 1 / 2 < (num : ℚ) / den := by
          rw [div_lt_div_iff₀ two_pos positive]
          have cast : (den : ℚ) < (2 * num : Nat) := by exact_mod_cast greater
          push_cast at cast
          linarith
        have whole : (num : ℚ) / den < 1 := by
          rw [div_lt_one positive]
          exact_mod_cast proper
        exact ⟨add_lt_add_right half _, add_lt_add_right whole _⟩

/-- The quotient of two mantissas has enough bits to be rounded. -/
theorem isRounded_divCore (s : Sign) {m n : Nat} (pos : 0 < m) (pos' : 0 < n) (e f : Int) :
    let (q, t, accuracy) := UnpackedFloat.divCore .binary64 m e n f
    IsRounded s (m * 2 ^ e / (n * 2 ^ f))
      (UnpackedFloat.roundWithAccuracy .binary64 s q t accuracy) := by
  let target := Float.Model.Format.binary64.targetExponent
    (Float.Model.totalExponent m e - Float.Model.totalExponent n f)
  let t := min (e - f) target
  let num := m <<< (e - f - t).toNat
  change IsRounded s _ (UnpackedFloat.roundWithAccuracy .binary64 s (num / n) t
    (UnpackedFloat.accuracyOfFraction (num % n) n))
  have brackets := brackets_accuracyOfFraction (num / n) (Nat.mod_lt num pos')
  have positive : (0 : ℚ) < n := by exact_mod_cast pos'
  have quotient : ((num / n : Nat) : ℚ) + (num % n : Nat) / n = num / n := by
    have parts : (num : ℚ) = n * (num / n : Nat) + (num % n : Nat) := by
      exact_mod_cast (Nat.div_add_mod num n).symm
    rw [parts, add_div, mul_div_cancel_left₀ _ positive.ne']
  have number : (m : ℚ) * 2 ^ e / (n * 2 ^ f) = num / n * 2 ^ t := by
    have shifted : (num : ℚ) * 2 ^ t = m * 2 ^ (e - f) :=
      shiftLeft_mul_zpow m (min_le_left _ _)
    rw [div_mul_eq_mul_div, shifted, zpow_sub₀ two_ne_zero, mul_div_assoc', div_div,
      mul_comm (2 ^ f)]
  rw [quotient] at brackets
  rw [number]
  refine isRounded_roundWithAccuracy s brackets ?_
  have size : Float.Model.totalExponent m e - Float.Model.totalExponent n f ≤
      Float.Model.totalExponent (num / n) t := by
    have top : (m : ℚ) * 2 ^ e / (n * 2 ^ f) < 2 ^ (((num / n).log2 : Int) + 1 + t) := by
      have whole : (num : ℚ) / n < 2 ^ (((num / n).log2 : Int) + 1) := by
        have bits : num / n + 1 ≤ 2 ^ ((num / n).log2 + 1) := Nat.lt_log2_self
        have cast : ((num / n : Nat) : ℚ) + 1 ≤ 2 ^ (((num / n).log2 : Int) + 1) := by
          exact_mod_cast bits
        have part : ((num % n : Nat) : ℚ) / n < 1 := by
          rw [div_lt_one positive]
          exact_mod_cast Nat.mod_lt num pos'
        linarith
      rw [number, zpow_add₀ two_ne_zero]
      exact mul_lt_mul_of_pos_right whole (by positivity)
    have bottom : (2 : ℚ) ^ ((m.log2 : Int) + e - ((n.log2 : Int) + 1 + f)) <
        m * 2 ^ e / (n * 2 ^ f) := by
      have above : (2 : ℚ) ^ ((m.log2 : Int) + e) ≤ m * 2 ^ e := by
        rw [zpow_add₀ two_ne_zero]
        refine mul_le_mul_of_nonneg_right ?_ (by positivity)
        exact_mod_cast Nat.log2_self_le (Nat.ne_of_gt pos)
      have below : (n : ℚ) * 2 ^ f < 2 ^ ((n.log2 : Int) + 1 + f) := by
        rw [zpow_add₀ two_ne_zero]
        refine mul_lt_mul_of_pos_right ?_ (by positivity)
        exact_mod_cast Nat.lt_log2_self (n := n)
      rw [zpow_sub₀ two_ne_zero]
      exact div_lt_div₀' above below (by positivity) (by positivity)
    have exponents := (zpow_lt_zpow_iff_right₀ one_lt_two).mp (bottom.trans top)
    rw [Float.Model.totalExponent, Float.Model.totalExponent, Float.Model.totalExponent]
    omega
  have aimed : t ≤ target := min_le_right _ _
  simp only [target, targetExponent_eq] at aimed ⊢
  omega

/-- A quotient is computed exactly and rounded. -/
theorem rounds_div {a b : UnpackedFloat} (finite : a.isFinite = true)
    (divisor : exactValue b ≠ 0) :
    Rounds (exactValue a / exactValue b) (UnpackedFloat.div .binary64 a b) := by
  cases b with
  | infinity s' => exact absurd rfl divisor
  | notANumber => exact absurd rfl divisor
  | zero s' => exact absurd rfl divisor
  | finite s' n f pos' =>
      cases a with
      | infinity s => cases finite
      | notANumber => cases finite
      | zero s =>
          rw [exactValue_zero, zero_div]
          exact rounds_zero (s / s')
      | finite s m e pos =>
          refine ⟨s / s', ?_, ?_⟩
          · rw [abs_div, abs_exactValue_finite, abs_exactValue_finite, factor_div, exactValue,
              exactValue]
            cases s' <;> simp only [factor] <;> ring
          · rw [abs_div, abs_exactValue_finite, abs_exactValue_finite]
            exact isRounded_divCore (s / s') pos pos' e f

/-- Packing makes nothing finite. -/
theorem isFinite_of_pack {u : UnpackedFloat}
    (finite : (Float.Model.pack u).unpack.isFinite = true) : u.isFinite = true := by
  cases u with
  | finite s m e pos => rfl
  | zero s => rfl
  | infinity s =>
      rw [@unpack_pack (.infinity s) trivial] at finite
      cases finite
  | notANumber =>
      rw [@unpack_pack .notANumber trivial] at finite
      cases finite

theorem isFinite_of_unpacked_sub {a b : UnpackedFloat}
    (finite : (UnpackedFloat.sub .binary64 a b).isFinite = true) :
    a.isFinite = true ∧ b.isFinite = true := by
  cases a with
  | notANumber => cases finite
  | infinity s =>
      cases b with
      | infinity s' =>
          rw [UnpackedFloat.sub] at finite
          split at finite <;> cases finite
      | _ => cases finite
  | zero s =>
      cases b with
      | zero s' => exact ⟨rfl, rfl⟩
      | finite s' n f pos' => exact ⟨rfl, rfl⟩
      | _ => cases finite
  | finite s m e pos =>
      cases b with
      | zero s' => exact ⟨rfl, rfl⟩
      | finite s' n f pos' => exact ⟨rfl, rfl⟩
      | _ => cases finite

theorem isFinite_of_unpacked_div {a b : UnpackedFloat}
    (finite : (UnpackedFloat.div .binary64 a b).isFinite = true) : a.isFinite = true := by
  cases a with
  | zero s => rfl
  | finite s m e pos => rfl
  | _ => cases b <;> cases finite

/-- What is not finite has no finite difference from anything. -/
theorem isFinite_of_sub {x y : Float} (finite : (x - y).isFinite = true) :
    x.isFinite = true ∧ y.isFinite = true :=
  isFinite_of_unpacked_sub (isFinite_of_pack finite)

/-- What is not finite has no finite quotient by anything. -/
theorem isFinite_of_div {x y : Float} (finite : (x / y).isFinite = true) : x.isFinite = true :=
  isFinite_of_unpacked_div (isFinite_of_pack finite)

/-- What is no number has no difference from anything. -/
theorem isNaN_sub {x : Float} (lost : x.isNaN = true) (y : Float) : (x - y).isNaN = true := by
  change (Float.Model.pack (UnpackedFloat.sub .binary64 x.toModel.unpack
    y.toModel.unpack)).unpack.isNaN = true
  rw [unpack_of_isNaN lost, UnpackedFloat.sub, @unpack_pack .notANumber trivial]
  rfl

theorem value_zero : value 0 = 0 := rfl

theorem value_one : value 1 = 1 := by
  have unpacked : (1 : Float).toModel.unpack = .finite .positive (2 ^ 52) (-52) (by decide) := rfl
  rw [value, unpacked, exactValue, factor]
  norm_num

/-- No double lies between one and its successor. -/
theorem IsMagnitude.one_add_le {y : ℚ} (double : IsMagnitude y) (above : 1 < y) :
    1 + 1 / 2 ^ 52 ≤ y := by
  obtain ⟨m, e, rfl, bits, -⟩ := double
  by_cases small : e < -52
  · have below : (m : ℚ) * 2 ^ e < (2 ^ 52 : Nat) * 2 ^ (-52 : Int) :=
      lt_of_exponent_lt bits (Nat.le_refl _) small
    norm_num at below
    linarith
  · obtain ⟨n, rfl⟩ := Int.le.dest (Int.not_lt.mp small)
    have units : (2 : ℚ) ^ (-52 : Int) = 1 / 2 ^ 52 := by norm_num
    rw [mul_zpow_add, units, mul_one_div] at above ⊢
    rw [lt_div_iff₀ (by norm_num), one_mul] at above
    have count : 2 ^ 52 + 1 ≤ m * 2 ^ n := by exact_mod_cast above
    rw [le_div_iff₀ (by norm_num)]
    calc (1 + 1 / 2 ^ 52 : ℚ) * 2 ^ 52 = (2 ^ 52 + 1 : Nat) := by norm_num
      _ ≤ (m * 2 ^ n : Nat) := by exact_mod_cast count

/-- A double is a number rounded. -/
def Approximates (z : Float) (x : ℚ) : Prop :=
  ∃ u, Rounds x u ∧ z.toModel.unpack = clip u

theorem approximates_of_pack {x : ℚ} {u : UnpackedFloat} (rounds : Rounds x u) :
    Approximates (.ofModel (.pack u)) x := by
  have ⟨s, _, rounded⟩ := rounds
  exact ⟨u, rounds, unpack_pack rounded.canonical⟩

/-- The difference of finite doubles is the exact one, rounded. -/
theorem approximates_sub {x y : Float} (finite : x.isFinite = true) (finite' : y.isFinite = true) :
    Approximates (x - y) (value x - value y) :=
  approximates_of_pack (rounds_sub (isCanonical_unpack x.toModel).1
    (isCanonical_unpack y.toModel).1 finite finite')

/-- The quotient of finite doubles is the exact one, rounded. -/
theorem approximates_div {x y : Float} (finite : x.isFinite = true) (divisor : value y ≠ 0) :
    Approximates (x / y) (value x / value y) :=
  approximates_of_pack (rounds_div finite divisor)

namespace Approximates

variable {z : Float} {x : ℚ}

/-- A result is finite exactly if the exact one is small enough. -/
theorem isFinite_iff (approximates : Approximates z x) :
    z.isFinite = true ↔ |x| < overflow := by
  obtain ⟨u, rounds, unpacked⟩ := approximates
  change z.toModel.unpack.isFinite = true ↔ _
  have ⟨s, _, rounded⟩ := rounds
  rw [unpacked, (clip_of_abs_lt rounded.canonical rounded.finite).1, rounds.abs_lt_iff]

/-- A finite result is what the exact one is rounded to. -/
theorem rounds (approximates : Approximates z x) (finite : z.isFinite = true) :
    ∃ u, Rounds x u ∧ exactValue u = value z := by
  obtain ⟨u, rounds, unpacked⟩ := approximates
  have kept : z.toModel.unpack.isFinite = true := finite
  have ⟨s, _, rounded⟩ := rounds
  rw [unpacked] at kept
  refine ⟨u, rounds, ?_⟩
  rw [value, unpacked, (clip_of_abs_lt rounded.canonical rounded.finite).2 kept]

/-- A finite result is off by one part in 2^54 of the power of two above it at most. -/
theorem error_le (approximates : Approximates z x) (finite : z.isFinite = true) {n : Nat}
    (size : |x| < 2 ^ n * halfUnit) : |value z - x| ≤ 2 ^ n * halfUnit / 2 ^ 54 := by
  obtain ⟨u, rounds, same⟩ := approximates.rounds finite
  rw [pow_mul_halfUnit] at size ⊢
  have error := rounds.error_le size (by omega)
  rwa [same, zpow_sub₀ two_ne_zero] at error

/-- A finite result is off by half a unit of the largest doubles at most. -/
theorem error_le_halfUnit (approximates : Approximates z x) (finite : z.isFinite = true) :
    |value z - x| ≤ halfUnit := by
  have size : |x| < 2 ^ 54 * halfUnit := by
    have fits := approximates.isFinite_iff.mp finite
    have unit := halfUnit_pos
    rw [overflow] at fits
    linarith
  have error := approximates.error_le finite size
  rwa [mul_div_cancel_left₀ _ (by norm_num)] at error

end Approximates

end MeterSignals.Number
