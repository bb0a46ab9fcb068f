/-
# When a whole number is written as a decimal integer

A whole double below 10^21 in magnitude is written with digits only, behind a minus sign if it is
negative. Up to 2^53 these are the digits of the double itself; beyond that they are those of an
integer that is rounded to the double, so that whoever reads the digits gets the double back. From
10^21 on an exponent follows the digits, and an infinity has no digits at all.
-/

import MeterSignals.Number.Notation
import MeterSignals.Proofs.Number.Shortest
import MeterSignals.Proofs.Number.Whole
import MeterSignals.Proofs.Text.Decimal

namespace MeterSignals.Number

open Float.Model (UnpackedFloat)
open Float.Model.UnpackedFloat (Sign)

/-- The digits of a number of tens, hundreds and so on. -/
theorem toDigits_mul_ten_pow {n : Nat} (pos : 0 < n) (k : Nat) :
    Nat.toDigits 10 (n * 10 ^ k) = Nat.toDigits 10 n ++ List.replicate k '0' := by
  induction k with
  | zero => simp
  | succ k ih =>
      have tens : n * 10 ^ (k + 1) = 10 * (n * 10 ^ k) + 0 := by ring
      have last : Nat.toDigits 10 0 = ['0'] := rfl
      rw [tens, ← Nat.toDigits_append_toDigits (by decide) (by positivity) (by decide), ih, last,
        List.append_assoc, ← List.replicate_succ']

/-- Only zeros stand behind the significant digits. -/
theorem exists_significant_append (digits : List Char) :
    ∃ zeros, digits = significant digits ++ List.replicate zeros '0' := by
  have parts := List.takeWhile_append_dropWhile (p := (· == '0')) (l := digits.reverse)
  refine ⟨(digits.reverse.takeWhile (· == '0')).length, ?_⟩
  have zeros : digits.reverse.takeWhile (· == '0') =
      List.replicate (digits.reverse.takeWhile (· == '0')).length '0' :=
    List.eq_replicate_iff.mpr ⟨rfl, fun c member =>
      beq_iff_eq.mp (@List.mem_takeWhile_imp _ (· == '0') _ _ member)⟩
  calc digits = digits.reverse.reverse := digits.reverse_reverse.symm
    _ = significant digits ++ (digits.reverse.takeWhile (· == '0')).reverse := by
        rw [significant, ← List.reverse_append, parts]
    _ = _ := by
        rw [zeros, List.reverse_replicate, List.length_replicate]

/-- Digits whose point lies behind them are filled up with zeros. -/
theorem layout_of_whole {digits : List Char} {zeros : Nat} (short : digits.length + zeros ≤ 21) :
    layout (significant digits) (digits.length + zeros) = digits ++ List.replicate zeros '0' := by
  obtain ⟨more, parts⟩ := exists_significant_append digits
  have length : digits.length = (significant digits).length + more := by
    conv_lhs => rw [parts, List.length_append, List.length_replicate]
  have behind : ((digits.length : Int) + zeros - (significant digits).length).toNat =
      more + zeros := by omega
  have inside : (decide (((significant digits).length : Int) ≤ digits.length + zeros) &&
      decide ((digits.length : Int) + zeros ≤ longestWhole)) = true := by
    rw [longestWhole]
    simp only [Bool.and_eq_true, decide_eq_true_eq]
    omega
  rw [layout]
  dsimp only
  rw [if_pos inside, behind, List.replicate_add, ← List.append_assoc, ← parts]

/-- A point that lies too far behind is written as an exponent. -/
theorem mem_layout_of_large {digits : List Char} {point : Int} (large : 21 < point) :
    'e' ∈ layout digits point := by
  have beyond : decide (point ≤ longestWhole) = false := by
    rw [longestWhole]
    exact decide_eq_false (by omega)
  have positive : decide (point ≤ 0) = false := decide_eq_false (by omega)
  rw [layout]
  simp [beyond, positive]

section Whole

variable {s : Sign} {m : Nat} {e : Int} {pos : 0 < m} {w : Nat}

/-- The magnitude of a whole number is the count of its digits. -/
theorem magnitude_of_whole (pos : 0 < m) (whole : (m : ℚ) * 2 ^ e = w) :
    (Rounding.ofBinary m e).magnitude = Rounding.digitCount w ∧ 0 < w := by
  have positive : 0 < w := by
    have above : (0 : ℚ) < m * 2 ^ e := by positivity
    rw [whole] at above
    exact_mod_cast above
  have denominator := @Rounding.ofBinary_denominator m e
  have denominator' : ((Rounding.ofBinary m e).denominator : ℚ) ≠ 0 := by
    exact_mod_cast denominator.ne'
  have value : (Rounding.ofBinary m e).value = w * (Rounding.ofBinary m e).denominator := by
    have center := @Rounding.ofBinary_center m e
    rw [whole, Rounding.center, div_eq_iff denominator'] at center
    exact_mod_cast center
  refine ⟨?_, positive⟩
  rw [Rounding.magnitude, value, if_pos (Nat.le_mul_of_pos_left _ positive),
    Nat.mul_div_cancel _ denominator]

/-- The shortest decimal of a whole double is whole, and the double is that number, rounded. It
reaches 10^21 if the double does. -/
theorem exists_whole_shortest (canonical : IsCanonical (.finite s m e pos))
    (whole : (m : ℚ) * 2 ^ e = w) :
    ∃ n k : Nat, shortest m e = ⟨n, k⟩ ∧ 0 < n ∧
      IsRounded s (n * 10 ^ k : Nat) (.finite s m e pos) ∧
      (n * 10 ^ k < 10 ^ 21 ↔ w < 10 ^ 21) := by
  have proper := @Rounding.isProper_ofBinary m e pos
  obtain ⟨magnitude, positive⟩ := magnitude_of_whole pos whole
  obtain ⟨n, j, found, inside, first, -, fewest⟩ := Rounding.exists_shortest canonical
  have rounded := Rounding.isRounded_of_contains canonical inside
  rw [magnitude] at found rounded fewest
  have center := @Rounding.ofBinary_center m e
  rw [whole] at center
  -- the whole numbers are a grid on which the double lies
  have count : 1 ≤ Rounding.digitCount w := Nat.length_toDigits_pos
  have within : j ≤ Rounding.digitCount w := by
    refine fewest _ count ?_
    rw [sub_self]
    exact Rounding.onGrid?_isSome_of_center proper (by rw [center, zpow_zero, mul_one])
  obtain ⟨k, digits⟩ := Nat.exists_eq_add_of_le within
  have power : (Rounding.digitCount w : Int) - j = k := by omega
  have cast : (n : ℚ) * 10 ^ ((Rounding.digitCount w : Int) - j) = (n * 10 ^ k : Nat) := by
    rw [power, zpow_natCast]
    push_cast
    rfl
  rw [cast] at rounded
  have size : |exactValue (.finite s m e pos)| = w := by rw [abs_exactValue_finite, whole]
  have double : IsMagnitude ((10 ^ 21 : Nat) : ℚ) :=
    ⟨7629394531250000, 17, by norm_num, by decide, by decide⟩
  have nonzero : 0 < n := by
    rw [Nat.pos_iff_ne_zero]
    rintro rfl
    have zero := rounded.abs_le_of_le (isMagnitude_natCast (Nat.zero_le _)) (by simp)
    rw [size, Nat.cast_le] at zero
    omega
  refine ⟨n, k, by rw [found, power], nonzero, rounded, fun small => ?_, fun small => ?_⟩
  · by_contra large
    have atMost := rounded.abs_le_of_le double (Nat.cast_le.mpr small.le)
    rw [size, Nat.cast_le] at atMost
    -- a double of just this size is found with its first digit
    obtain rfl : w = 10 ^ 21 := by omega
    have one : Rounding.digitCount (10 ^ 21) = 22 := by decide
    have fast : j ≤ 1 := by
      refine fewest 1 le_rfl (Rounding.onGrid?_isSome_of_center (n := 1) proper ?_)
      rw [center, one]
      norm_num
    obtain rfl : k = 21 := by omega
    omega
  · by_contra large
    have atLeast := rounded.le_abs_of_le double (Nat.cast_le.mpr (Nat.not_lt.mp large))
    rw [size, Nat.cast_le] at atLeast
    omega

/-- A whole double is written with digits only as long as it is below 10^21. -/
theorem magnitudeText_of_whole (canonical : IsCanonical (.finite s m e pos))
    (whole : (m : ℚ) * 2 ^ e = w) :
    ∃ n : Nat, 0 < n ∧ IsRounded s n (.finite s m e pos) ∧
      (w < 10 ^ 21 → magnitudeText m e = Text.ofNat n) ∧
      (10 ^ 21 ≤ w → 'e'.toNat.toUInt16 ∈ (magnitudeText m e).units) := by
  obtain ⟨n, k, found, positive, rounded, small⟩ := exists_whole_shortest canonical whole
  have digits := toDigits_mul_ten_pow positive k
  have count : (Nat.toDigits 10 (n * 10 ^ k)).length = (Nat.toDigits 10 n).length + k := by
    rw [digits, List.length_append, List.length_replicate]
  have limit := @Nat.length_toDigits_le_iff 10 (n * 10 ^ k) 21 (by decide) (by decide)
  rw [count, small] at limit
  refine ⟨n * 10 ^ k, by positivity, rounded, fun below => ?_, fun above => ?_⟩
  · rw [magnitudeText, found]
    dsimp only
    rw [layout_of_whole (limit.mpr below), ← digits]
    rfl
  · rw [magnitudeText, found]
    refine Text.mem_ofChars_of_mem (mem_layout_of_large ?_) (by decide)
    have beyond := mt limit.mp (Nat.not_lt.mpr above)
    dsimp only
    omega

end Whole

/-- A finite double is its own value, rounded. -/
theorem approximates_value {x : Float} (finite : x.isFinite = true) :
    Approximates x (value x) := by
  obtain ⟨canonical, kept⟩ := isCanonical_unpack x.toModel
  refine ⟨x.toModel.unpack, ?_, kept.symm⟩
  rw [value]
  rcases unpack_of_isFinite finite with ⟨s, unpacked⟩ | ⟨s, m, e, pos, unpacked, canonical, -⟩
  · rw [unpacked]
    exact rounds_zero s
  · rw [unpacked]
    exact rounds_of_isCanonical canonical

/-- The text writes an integer of which the double is the rounded form; up to 2^53 that is the
double itself. -/
def Writes (t : Text) (x : Float) : Prop :=
  ∃ n : Int, t = Text.ofInt n ∧ Approximates x n ∧ (|value x| ≤ 2 ^ 53 → value x = n)

/-- A text behind the sign of a double. -/
def signedText (s : Sign) (t : Text) : Text :=
  match s with
  | .positive => t
  | .negative => ("-" : Text) ++ t

theorem mem_signedText {t : Text} {u : UInt16} (member : u ∈ t.units) (s : Sign) :
    u ∈ (signedText s t).units := by
  cases s with
  | positive => exact member
  | negative => exact List.mem_append_right _ member

theorem ofInt_signed (s : Sign) {n : Nat} (positive : 0 < n) :
    Text.ofInt (signed s n) = signedText s (Text.ofNat n) := by
  obtain ⟨k, rfl⟩ := Nat.exists_eq_add_of_lt positive
  cases s <;> rfl

/-- A magnitude under a sign, and what it is rounded to. -/
theorem rounds_signed {s : Sign} {n : Nat} {u : UnpackedFloat} (rounded : IsRounded s n u) :
    Rounds (signed s n : Int) u := by
  have magnitude : |((signed s n : Int) : ℚ)| = n := by
    rw [← factor_mul_cast, abs_mul, abs_factor, one_mul, abs_of_nonneg (Nat.cast_nonneg n)]
  rw [Rounds, magnitude]
  exact ⟨s, factor_mul_cast s n, rounded⟩

/-- How a whole double is written. -/
theorem text_of_whole {x : Float} {s : Sign} {m : Nat} {e : Int} {pos : 0 < m}
    (unpacked : x.toModel.unpack = .finite s m e pos) {w : Nat} (whole : (m : ℚ) * 2 ^ e = w) :
    text x =
      if w ≤ exactLimit then Text.ofInt (signed s w) else signedText s (magnitudeText m e) := by
  rw [text, unpacked]
  dsimp only
  rw [splitWhole_eq_iff.mpr whole]
  by_cases small : w ≤ exactLimit
  · rw [if_pos small, Bool.true_and, if_pos (decide_eq_true small)]
  · rw [if_neg small, Bool.true_and, if_neg (by rw [decide_eq_true_eq]; exact small)]
    rfl

/-- A whole double below 10^21 is written as an integer, and a larger one is not. -/
theorem writes_text {x : Float} {i : Int} (whole : integer? x = some i) :
    (|value x| < 10 ^ 21 → Writes (text x) x) ∧
      (10 ^ 21 ≤ |value x| → (text x).isDecimal = false) := by
  obtain ⟨finite, same⟩ := integer?_eq_some_iff.mp whole
  have magnitude : |value x| = i.natAbs := by rw [same, Nat.cast_natAbs, Int.cast_abs]
  have limit : ((10 ^ 21 : Nat) : ℚ) = 10 ^ 21 := by norm_num
  rw [magnitude, ← limit, Nat.cast_lt, Nat.cast_le]
  have own : Approximates x i := same ▸ approximates_value finite
  rcases unpack_of_isFinite finite with ⟨s, unpacked⟩ | ⟨s, m, e, pos, unpacked, canonical, -⟩
  · obtain rfl : i = 0 := by
      rw [value, unpacked, exactValue_zero] at same
      exact_mod_cast same.symm
    refine ⟨fun _ => ⟨0, ?_, own, fun _ => same⟩, fun large => absurd large (by decide)⟩
    rw [text, unpacked]
    rfl
  · have size : (m : ℚ) * 2 ^ e = i.natAbs := by
      rw [← magnitude, value, unpacked, abs_exactValue_finite]
    have direction : i = signed s i.natAbs := by
      have signs : value x = (signed s i.natAbs : Int) := by
        rw [← factor_mul_cast, ← size, value, unpacked, exactValue]
      exact_mod_cast same.symm.trans signs
    have written := text_of_whole unpacked size
    by_cases small : i.natAbs ≤ exactLimit
    · rw [if_pos small, ← direction] at written
      refine ⟨fun _ => ⟨i, written, own, fun _ => same⟩, fun large => ?_⟩
      rw [exactLimit] at small
      omega
    · rw [if_neg small] at written
      obtain ⟨n, positive, rounded, below, above⟩ := magnitudeText_of_whole canonical size
      refine ⟨fun within => ⟨signed s n, ?_, ?_, fun few => ?_⟩, fun beyond => ?_⟩
      · rw [written, below within, ofInt_signed s positive]
      · refine ⟨_, rounds_signed rounded, ?_⟩
        rw [← unpacked]
        exact (isCanonical_unpack x.toModel).2.symm
      · rw [value, unpacked, abs_exactValue_finite, size] at few
        have fits : i.natAbs ≤ 2 ^ 53 := by exact_mod_cast few
        exact absurd fits small
      · rw [written]
        exact Text.isDecimal_eq_false (mem_signedText (above beyond) s) (by decide) (by decide)

/-- A whole number of 53 bits is written as it is. -/
theorem text_eq_ofInt {x : Float} {n : Int} (whole : integer? x = some n)
    (small : n.natAbs ≤ 2 ^ 53) : text x = Text.ofInt n := by
  have same := (integer?_eq_some_iff.mp whole).2
  have bits : |value x| ≤ 2 ^ 53 := by
    rw [same, ← Int.cast_abs, ← Nat.cast_natAbs]
    exact_mod_cast small
  obtain ⟨m, written, -, exactly⟩ := (writes_text whole).1 (bits.trans_lt (by norm_num))
  have equal : (m : ℚ) = n := (exactly bits).symm.trans same
  rw [written, Int.cast_injective equal]

/-- What is not finite is written in words. -/
theorem isDecimal_text_of_not_finite {x : Float} (infinite : x.isFinite = false) :
    (text x).isDecimal = false := by
  have infinite' : x.toModel.unpack.isFinite = false := infinite
  rw [text]
  cases unpacked : x.toModel.unpack with
  | notANumber => decide
  | infinity s => cases s <;> decide
  | zero s =>
      rw [unpacked] at infinite'
      cases infinite'
  | finite s m e pos =>
      rw [unpacked] at infinite'
      cases infinite'

/-- A double that is whole or not finite is written as a decimal integer exactly if it is finite
and below 10^21 in magnitude. -/
theorem isDecimal_text_iff {x : Float}
    (whole : x.isFinite = true → ∃ i, integer? x = some i) :
    (text x).isDecimal = true ↔ x.isFinite = true ∧ |value x| < 10 ^ 21 := by
  cases finite : x.isFinite with
  | false => simp [isDecimal_text_of_not_finite finite]
  | true =>
      obtain ⟨i, same⟩ := whole finite
      obtain ⟨small, large⟩ := writes_text same
      rw [and_iff_right rfl]
      constructor
      · intro decimal
        by_contra beyond
        rw [large (not_lt.mp beyond)] at decimal
        cases decimal
      · intro within
        obtain ⟨n, written, -⟩ := small within
        rw [written]
        exact Text.isDecimal_ofInt n

end MeterSignals.Number
