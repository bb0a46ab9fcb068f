/-
# Doubles as rational numbers

A finite double is a mantissa times a power of two. The form in which it is unpacked is
unique: its mantissa has 53 bits, or fewer bits and the least exponent. Whatever has this
form is packed and unpacked again without loss, unless its exponent is too large for a
double; then it becomes an infinity.
-/

import Mathlib
import MeterSignals.Number.Exact

namespace MeterSignals.Number

open Float.Model (Format UnpackedFloat)
open Float.Model.UnpackedFloat (Sign)

/-- The form in which a double is unpacked. Its exponent may be too large for a double. -/
def IsCanonical : UnpackedFloat → Prop
  | .finite _ m e _ => m < 2 ^ 53 ∧ -1074 ≤ e ∧ (2 ^ 52 ≤ m ∨ e = -1074)
  | _ => True

/-- The largest exponent of a double. -/
def maxExponent : Int := 971

/-- What is too large for a double is infinite. -/
def clip : UnpackedFloat → UnpackedFloat
  | .finite s m e pos => if maxExponent < e then .infinity s else .finite s m e pos
  | u => u

/-- A sign as a factor. -/
def factor : Sign → ℚ
  | .positive => 1
  | .negative => -1

/-- The number that something unpacked stands for; zero if it is infinite or no number. -/
def exactValue : UnpackedFloat → ℚ
  | .finite s m e _ => factor s * (m * 2 ^ e)
  | _ => 0

/-- The number that a double stands for; zero if it is infinite or no number. -/
def value (x : Float) : ℚ := exactValue x.toModel.unpack

/-- The implicit bit in front of the stored bits of a mantissa. -/
theorem toNat_implicit_append (stored : BitVec 52) :
    (1#1 ++ stored).toNat = 2 ^ 52 + stored.toNat := by
  rw [BitVec.toNat_append, Nat.or_comm]
  exact (Nat.or_two_pow_eq_add_of_lt stored.isLt).trans (Nat.add_comm _ _)

/-- The parts of a packed double, put together. -/
def assemble (s : Sign) (exponent : BitVec 11) (mantissa : BitVec 52) : UnpackedFloat :=
  if exponent = -1#11 then if mantissa = 0#52 then .infinity s else .notANumber
  else if exponent = 0#11 then
    if none : mantissa = 0#52 then .zero s
    else .finite s mantissa.toNat (exponent.toNat - 1075 + 1)
      (by simpa [BitVec.toNat_pos, BitVec.pos_iff_ne_zero])
  else .finite s (1#1 ++ mantissa).toNat (exponent.toNat - 1075)
    (by rw [toNat_implicit_append]; omega)

theorem unpack_eq_assemble (b : BitVec 64) :
    UnpackedFloat.unpack .binary64 b =
      assemble (.ofBitVec (@UnpackedFloat.unpackSign .binary64 b))
        (@UnpackedFloat.unpackExponent .binary64 b) (@UnpackedFloat.unpackMantissa .binary64 b) :=
  rfl

theorem unpack_packComponents (s : Sign) (exponent : BitVec 11) (mantissa : BitVec 52) :
    UnpackedFloat.unpack .binary64 (UnpackedFloat.packComponents .binary64 s exponent mantissa) =
      assemble s exponent mantissa := by
  rw [unpack_eq_assemble, UnpackedFloat.unpackSign_packComponents, Sign.ofBitVec_toBitVec,
    UnpackedFloat.unpackMantissa_packComponents, UnpackedFloat.unpackExponent_packComponents]

/-- What is put together is canonical and not too large. -/
theorem isCanonical_assemble (s : Sign) (exponent : BitVec 11) (mantissa : BitVec 52) :
    IsCanonical (assemble s exponent mantissa) ∧
      clip (assemble s exponent mantissa) = assemble s exponent mantissa := by
  have stored : mantissa.toNat < 2 ^ 52 := mantissa.isLt
  have biased : exponent.toNat < 2 ^ 11 := exponent.isLt
  rw [assemble]
  split
  · split
    · exact ⟨trivial, rfl⟩
    · exact ⟨trivial, rfl⟩
  · next ordinary =>
      have top : exponent.toNat ≠ 2047 := fun same => ordinary (BitVec.eq_of_toNat_eq same)
      split
      · next least =>
          have zero : exponent.toNat = 0 := by rw [least]; rfl
          split
          · exact ⟨trivial, rfl⟩
          · refine ⟨⟨by omega, by omega, .inr (by omega)⟩, if_neg ?_⟩
            simp only [maxExponent]
            omega
      · next normal =>
          have bottom : exponent.toNat ≠ 0 := fun same => normal (BitVec.eq_of_toNat_eq same)
          have whole := toNat_implicit_append mantissa
          refine ⟨⟨by omega, by omega, .inl (by omega)⟩, if_neg ?_⟩
          simp only [maxExponent]
          omega

theorem isCanonical_unpack (x : Float.Model) :
    IsCanonical x.unpack ∧ clip x.unpack = x.unpack := by
  rw [Float.Model.unpack, unpack_eq_assemble]
  exact isCanonical_assemble _ _ _

/-- A mantissa has all 53 bits exactly if it is not below 2^52. -/
theorem log2_eq_iff {m : Nat} (pos : 0 < m) (bits : m < 2 ^ 53) :
    m.log2 + 1 = Format.binary64.mantissaBits ↔ 2 ^ 52 ≤ m := by
  change m.log2 + 1 = 52 + 1 ↔ _
  rw [Nat.add_right_cancel_iff, Nat.log2_eq_iff (Nat.ne_of_gt pos)]
  exact and_iff_left bits

/-- A mantissa with all of its bits is found again behind its implicit bit. -/
theorem assemble_normal {s : Sign} {m : Nat} {e : Int} (pos : 0 < m) (bits : m < 2 ^ 53)
    (full : 2 ^ 52 ≤ m) (low : -1074 ≤ e) (high : e ≤ maxExponent) :
    assemble s (BitVec.ofNat 11 (e + 1075).toNat) (BitVec.ofNat 52 m) = .finite s m e pos := by
  have small : (e + 1075).toNat < 2 ^ 11 := by
    simp only [maxExponent] at high
    omega
  have exponent : (BitVec.ofNat 11 (e + 1075).toNat).toNat = (e + 1075).toNat := by
    rw [BitVec.toNat_ofNat, Nat.mod_eq_of_lt small]
  have notTop : BitVec.ofNat 11 (e + 1075).toNat ≠ -1#11 := by
    intro top
    rw [top] at exponent
    change 2047 = (e + 1075).toNat at exponent
    simp only [maxExponent] at high
    omega
  have notLeast : BitVec.ofNat 11 (e + 1075).toNat ≠ 0#11 := by
    intro least
    rw [least] at exponent
    change 0 = (e + 1075).toNat at exponent
    omega
  have mantissa : (1#1 ++ BitVec.ofNat 52 m).toNat = m := by
    rw [toNat_implicit_append, BitVec.toNat_ofNat]
    omega
  rw [assemble, if_neg notTop, if_neg notLeast]
  simp only [mantissa, exponent]
  congr 1
  omega

/-- A mantissa with fewer bits is stored as it is. -/
theorem assemble_subnormal {s : Sign} {m : Nat} (pos : 0 < m) (few : m < 2 ^ 52) :
    assemble s 0#11 (BitVec.ofNat 52 m) = .finite s m (-1074) pos := by
  have mantissa : (BitVec.ofNat 52 m).toNat = m := by
    rw [BitVec.toNat_ofNat, Nat.mod_eq_of_lt few]
  have some_ : BitVec.ofNat 52 m ≠ 0#52 := by
    intro none
    rw [none] at mantissa
    change 0 = m at mantissa
    omega
  rw [assemble, if_neg (by decide), if_pos rfl, dif_neg some_]
  simp only [mantissa]
  rfl

/-- The parts under which something finite is packed are put together to the same, or to an
infinity if its exponent is too large. -/
theorem unpack_pack_finite {s : Sign} {m : Nat} {e : Int} {pos : 0 < m}
    (canonical : IsCanonical (.finite s m e pos)) :
    UnpackedFloat.unpack .binary64 (UnpackedFloat.pack .binary64 (.finite s m e pos)) =
      clip (.finite s m e pos) := by
  obtain ⟨bits, low, full⟩ := canonical
  have biased : (e + Format.binary64.exponentBias + (52 : Nat)).toNat = (e + 1075).toNat := by
    change (e + 1023 + 52).toNat = _
    omega
  by_cases large : maxExponent < e
  · have above : 2 ^ 11 ≤ (e + 1075).toNat + 1 := by
      simp only [maxExponent] at large
      omega
    rw [clip, if_pos large, UnpackedFloat.pack, biased, if_pos above]
    exact unpack_packComponents s (-1#11) 0
  · have within : ¬ 2 ^ 11 ≤ (e + 1075).toNat + 1 := by
      simp only [maxExponent] at large
      omega
    rw [clip, if_neg large, UnpackedFloat.pack, biased, if_neg within]
    by_cases normal : 2 ^ 52 ≤ m
    · rw [if_pos ((log2_eq_iff pos bits).mpr normal)]
      exact (unpack_packComponents s _ _).trans
        (assemble_normal pos bits normal low (Int.not_lt.mp large))
    · rw [if_neg (mt (log2_eq_iff pos bits).mp normal)]
      obtain rfl := full.resolve_left normal
      exact (unpack_packComponents s _ _).trans (assemble_subnormal pos (Nat.not_le.mp normal))

/-- Something canonical is packed and unpacked without loss, unless it is too large. -/
theorem unpack_pack {u : UnpackedFloat} (canonical : IsCanonical u) :
    (Float.Model.pack u).unpack = clip u := by
  cases u with
  | finite s m e pos => exact unpack_pack_finite canonical
  | infinity s => exact unpack_packComponents s (-1#11) 0
  | notANumber => exact unpack_packComponents .positive (-1#11) _
  | zero s => exact unpack_packComponents s 0 0

end MeterSignals.Number
