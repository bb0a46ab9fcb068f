/-
# Decimal integers as texts

A decimal integer is digits only, at least one of them, behind a minus sign or not. The text of
an integer is one, and what has any other unit in it is none.
-/

import MeterSignals.Text.Ascii

namespace MeterSignals.Text

/-- Digits only, at least one, behind a minus sign or not. -/
def isDecimal (t : Text) : Bool :=
  let digits := if t.units.head? = some Ascii.minus then t.units.tail else t.units
  digits != [] && digits.all fun u => (digit? u).isSome

/-- A text with a unit that is neither a digit nor a minus sign is no decimal integer. -/
theorem isDecimal_eq_false {t : Text} {u : UInt16} (member : u ∈ t.units)
    (sign : u ≠ Ascii.minus) (digit : digit? u = none) : t.isDecimal = false := by
  rw [isDecimal, Bool.and_eq_false_iff]
  refine .inr (List.all_eq_false.mpr ⟨u, ?_, by simp [digit]⟩)
  split
  · next first =>
      obtain ⟨rest, units⟩ := List.head?_eq_some_iff.mp first
      rw [units] at member ⊢
      exact (List.mem_cons.mp member).resolve_left sign
  · exact member

/-- Digits are a decimal integer, with a minus sign in front as well as without. -/
theorem isDecimal_of_digits {t : Text} (some_ : t.units ≠ [])
    (digits : ∀ u ∈ t.units, (digit? u).isSome) :
    t.isDecimal = true ∧ (("-" : Text) ++ t).isDecimal = true := by
  have nonempty : (t.units != []) = true := bne_iff_ne.mpr some_
  have all : t.units.all (fun u => (digit? u).isSome) = true := List.all_eq_true.mpr digits
  constructor
  · have unsigned : t.units.head? ≠ some Ascii.minus := by
      intro first
      have minus := digits _ (List.mem_of_head? first)
      exact absurd minus (by decide)
    rw [isDecimal, if_neg unsigned, nonempty, all]
    rfl
  · have units : (("-" : Text) ++ t).units = Ascii.minus :: t.units := rfl
    rw [isDecimal, units, List.head?_cons, if_pos rfl, List.tail_cons, nonempty, all]
    rfl

theorem mem_ofChars_of_mem {cs : List Char} {c : Char} (member : c ∈ cs)
    (plain : c.toNat < 0x10000) : c.toNat.toUInt16 ∈ (ofChars cs).units := by
  refine List.mem_flatMap.mpr ⟨c, member, ?_⟩
  rw [unitsOfCodePoint, if_pos plain]
  exact List.mem_singleton_self _

/-- A character of the basic plane is one unit. -/
theorem mem_ofChars_iff {cs : List Char} (plain : ∀ c ∈ cs, c.toNat < 0x10000) {u : UInt16} :
    u ∈ (ofChars cs).units ↔ ∃ c ∈ cs, u = c.toNat.toUInt16 := by
  have unit (c : Char) (member : c ∈ cs) : unitsOfCodePoint c.toNat = [c.toNat.toUInt16] :=
    if_pos (plain c member)
  rw [ofChars, List.mem_flatMap]
  refine exists_congr fun c => and_congr_right fun member => ?_
  rw [unit c member, List.mem_singleton]

/-- A digit among the characters is one unit, and is read with the value that it has. -/
theorem digit?_of_isDigit {c : Char} (digit : c.isDigit) :
    c.toNat < 0x10000 ∧ digit? c.toNat.toUInt16 = some (c.toNat - 48) := by
  obtain ⟨low, high⟩ := Char.isDigit_iff_toNat.mp digit
  have low' : 48 ≤ c.toNat := low
  have high' : c.toNat ≤ 57 := high
  have unit : c.toNat.toUInt16.toNat = c.toNat := Nat.mod_eq_of_lt (by omega)
  refine ⟨by omega, ?_⟩
  rw [digit?, if_pos]
  · rw [unit]
  · simp only [Bool.and_eq_true, decide_eq_true_eq, UInt16.le_iff_toNat_le, unit]
    exact ⟨low, high⟩

theorem mapM_digit?_ofChars {cs : List Char} (digits : ∀ c ∈ cs, c.isDigit) :
    (ofChars cs).units.mapM digit? = some (cs.map fun c => c.toNat - 48) := by
  induction cs with
  | nil => rfl
  | cons c cs ih =>
      obtain ⟨first, others⟩ := List.forall_mem_cons.mp digits
      obtain ⟨plain, value⟩ := digit?_of_isDigit first
      have units : (ofChars (c :: cs)).units = c.toNat.toUInt16 :: (ofChars cs).units := by
        rw [ofChars, List.flatMap_cons, unitsOfCodePoint, if_pos plain]
        rfl
      rw [units, List.mapM_cons, value, ih others]
      rfl

/-- The digits of a natural number are read again, and denote the number. -/
theorem exists_digits_ofNat (n : Nat) :
    ∃ digits, digits ≠ [] ∧ (ofNat n).units.mapM digit? = some digits ∧
      valueOfDigits 10 digits = n := by
  refine ⟨(Nat.toDigits 10 n).map fun c => c.toNat - 48, by simp, ?_, ?_⟩
  · exact mapM_digit?_ofChars fun c member =>
      Nat.isDigit_of_mem_toDigits (by decide) (by decide) member
  · rw [valueOfDigits, List.foldl_map]
    calc (Nat.toDigits 10 n).foldl (fun value c => value * 10 + (c.toNat - 48)) 0
        = Nat.ofDigitChars 10 (Nat.toDigits 10 n) 0 := by
          rw [Nat.ofDigitChars_eq_foldl]
          simp only [Nat.mul_comm]
          rfl
      _ = n := Nat.ofDigitChars_ten_toDigits

theorem isDecimal_ofInt (n : Int) : (ofInt n).isDecimal = true := by
  have decimal (n : Nat) :
      (ofNat n).isDecimal = true ∧ (("-" : Text) ++ ofNat n).isDecimal = true := by
    have digits : ∀ c ∈ Nat.toDigits 10 n, c.isDigit := fun c member =>
      Nat.isDigit_of_mem_toDigits (by decide) (by decide) member
    have units {u : UInt16} := @mem_ofChars_iff (Nat.toDigits 10 n)
      (fun c member => (digit?_of_isDigit (digits c member)).1) u
    refine isDecimal_of_digits ?_ fun u member => ?_
    · obtain ⟨c, member⟩ := List.exists_mem_of_ne_nil _ (@Nat.toDigits_ne_nil n 10)
      exact List.ne_nil_of_mem (units.mpr ⟨c, member, rfl⟩)
    · obtain ⟨c, found, rfl⟩ := units.mp member
      rw [(digit?_of_isDigit (digits c found)).2]
      rfl
  cases n with
  | ofNat n => exact (decimal n).1
  | negSucc n => exact (decimal (n + 1)).2

end MeterSignals.Text
