/-
# Digits between blanks

A digit is a unit with a value: the unit is that of the character which stands for the value, and
beyond nine in a number to the base sixteen the character is a letter of either case. The value of
a row of digits is the usual one, with the last digit as the units. Where blanks may surround the
digits, trimming finds the digits again, however many blanks there are and of which kinds.
-/

import Mathlib.Data.List.Forall2
import Mathlib.Data.List.Induction
import Mathlib.Data.List.TakeWhile
import Mathlib.Data.Nat.Digits.Defs
import Mathlib.Tactic.IntervalCases
import MeterSignals.Text.Blank

namespace MeterSignals.Text

/-- The unit of a character of the basic plane. -/
def unitOf (c : Char) : UInt16 := c.toNat.toUInt16

/-- The unit is the decimal digit of a value. -/
def IsDigit (u : UInt16) (value : ℕ) : Prop := value < 10 ∧ u = unitOf (Nat.digitChar value)

/-- The unit is the hexadecimal digit of a value, with small or with capital letters. -/
def IsHexDigit (u : UInt16) (value : ℕ) : Prop :=
  value < 16 ∧
    (u = unitOf (Nat.digitChar value) ∨ u = unitOf (Nat.digitChar value).toUpper)

theorem eq_unitOf {u : UInt16} {c : Char} (same : u.toNat = c.toNat) : u = unitOf c := by
  rw [unitOf, ← same]
  exact UInt16.ofNat_toNat.symm

section Letters

variable {value : ℕ} (low : 10 ≤ value) (high : value < 16)

include low high

theorem toNat_smallLetter : (Nat.digitChar value).toNat = 87 + value := by
  interval_cases value <;> rfl

theorem toNat_capitalLetter : (Nat.digitChar value).toUpper.toNat = 55 + value := by
  interval_cases value <;> rfl

end Letters

/-- What is read as a decimal digit is one, with its value. -/
theorem digit?_eq_some_iff {u : UInt16} {value : ℕ} : digit? u = some value ↔ IsDigit u value := by
  constructor
  · intro read
    rw [digit?] at read
    split at read
    · next range =>
        rw [Bool.and_eq_true, decide_eq_true_eq, decide_eq_true_eq] at range
        have low : 48 ≤ u.toNat := range.1
        have high : u.toNat ≤ 57 := range.2
        obtain rfl : u.toNat - 48 = value := Option.some.inj read
        refine ⟨by omega, eq_unitOf ?_⟩
        rw [Nat.toNat_digitChar_of_lt_ten (by omega)]
        omega
    · cases read
  · rintro ⟨few, rfl⟩
    interval_cases value <;> rfl

theorem hexDigit?_of_digit {u : UInt16} (decimal : (0x30 ≤ u && u ≤ 0x39) = true) :
    hexDigit? u = digit? u := by
  rw [hexDigit?, digit?, if_pos decimal, if_pos decimal]

/-- What is read as a hexadecimal digit is one, with its value. -/
theorem hexDigit?_eq_some_iff {u : UInt16} {value : ℕ} :
    hexDigit? u = some value ↔ IsHexDigit u value := by
  constructor
  · intro read
    by_cases decimal : (0x30 ≤ u && u ≤ 0x39) = true
    · rw [hexDigit?_of_digit decimal] at read
      obtain ⟨few, same⟩ := digit?_eq_some_iff.mp read
      exact ⟨by omega, .inl same⟩
    · rw [hexDigit?, if_neg decimal] at read
      split at read
      · next range =>
          rw [Bool.and_eq_true, decide_eq_true_eq, decide_eq_true_eq] at range
          have low : 65 ≤ u.toNat := range.1
          have high : u.toNat ≤ 70 := range.2
          obtain rfl : u.toNat - 65 + 10 = value := Option.some.inj read
          refine ⟨by omega, .inr (eq_unitOf ?_)⟩
          rw [toNat_capitalLetter (by omega) (by omega)]
          omega
      · split at read
        · next range =>
            rw [Bool.and_eq_true, decide_eq_true_eq, decide_eq_true_eq] at range
            have low : 97 ≤ u.toNat := range.1
            have high : u.toNat ≤ 102 := range.2
            obtain rfl : u.toNat - 97 + 10 = value := Option.some.inj read
            refine ⟨by omega, .inl (eq_unitOf ?_)⟩
            rw [toNat_smallLetter (by omega) (by omega)]
            omega
        · cases read
  · rintro ⟨few, rfl | rfl⟩
    · interval_cases value <;> rfl
    · interval_cases value <;> rfl

/-- The digits of a row are found exactly if every unit is a digit. -/
theorem mapM_eq_some_iff {read : UInt16 → Option ℕ} {units : List UInt16} {digits : List ℕ} :
    units.mapM read = some digits ↔
      List.Forall₂ (fun u digit => read u = some digit) units digits := by
  induction units generalizing digits with
  | nil =>
      rw [List.forall₂_nil_left_iff]
      exact ⟨fun same => (Option.some.inj same).symm, fun same => same ▸ rfl⟩
  | cons u units ih =>
      rw [List.forall₂_cons_left_iff, List.mapM_cons]
      constructor
      · intro found
        obtain ⟨digit, first, rest⟩ := Option.bind_eq_some_iff.mp found
        obtain ⟨others, later, same⟩ := Option.bind_eq_some_iff.mp rest
        exact ⟨digit, others, first, ih.mp later, (Option.some.inj same).symm⟩
      · rintro ⟨digit, others, first, later, rfl⟩
        rw [first, Option.bind_eq_bind, Option.bind_some, ih.mpr later]
        rfl

/-- The number that digits denote, the last one being the units. -/
theorem valueOfDigits_eq (base : ℕ) (digits : List ℕ) :
    valueOfDigits base digits = Nat.ofDigits base digits.reverse := by
  induction digits using List.reverseRecOn with
  | nil => rfl
  | append_singleton digits digit ih =>
      rw [valueOfDigits, List.foldl_append, List.reverse_append, List.reverse_singleton,
        List.singleton_append, Nat.ofDigits_cons, ← ih, Nat.add_comm, Nat.mul_comm]
      rfl

/-- Nothing but blanks. -/
def IsBlank (units : List UInt16) : Prop := ∀ u ∈ units, isBlank u = true

theorem dropWhile_isBlank {units : List UInt16} (solid : ∀ u ∈ units, isBlank u = false)
    {after : List UInt16} (blank : IsBlank after) :
    (units ++ after).dropWhile isBlank = if units = [] then [] else units ++ after := by
  cases units with
  | nil => exact List.dropWhile_eq_nil_iff.mpr blank
  | cons u units =>
      rw [List.cons_append, List.dropWhile_cons_of_neg (by simp [solid u List.mem_cons_self]),
        if_neg (List.cons_ne_nil u units)]

/-- Blanks around units that are not blank are trimmed. -/
theorem trim_between {before units after : List UInt16} (front : IsBlank before)
    (solid : ∀ u ∈ units, isBlank u = false) (back : IsBlank after) :
    trim ⟨before ++ units ++ after⟩ = ⟨units⟩ := by
  have solid' : ∀ u ∈ units.reverse, isBlank u = false :=
    fun u member => solid u (List.mem_reverse.mp member)
  rw [trim, List.append_assoc, List.dropWhile_append_of_pos front, dropWhile_isBlank solid back]
  split
  · next none => rw [none]; rfl
  · next some_ =>
      rw [List.reverse_append, List.dropWhile_append_of_pos, ← List.append_nil units.reverse,
        dropWhile_isBlank solid' (List.forall_mem_nil _), if_neg (by simpa using some_),
        List.append_nil, List.reverse_reverse]
      exact fun u member => back u (List.mem_reverse.mp member)

theorem IsDigit.isBlank_eq_false {u : UInt16} {value : ℕ} (digit : IsDigit u value) :
    isBlank u = false := by
  obtain ⟨few, rfl⟩ := digit
  interval_cases value <;> rfl

/-- No digit is blank. -/
theorem solid_of_digits {units : List UInt16} {digits : List ℕ}
    (read : units.mapM digit? = some digits) : ∀ u ∈ units, isBlank u = false := by
  intro u member
  obtain ⟨i, here, rfl⟩ := List.mem_iff_getElem.mp member
  obtain ⟨same, value⟩ := List.forall₂_iff_get.mp (mapM_eq_some_iff.mp read)
  exact (digit?_eq_some_iff.mp (value i here (same ▸ here))).isBlank_eq_false

/-- Without blanks there is nothing to trim. -/
theorem trim_of_solid {t : Text} (solid : ∀ u ∈ t.units, isBlank u = false) : t.trim = t := by
  have between := @trim_between [] t.units [] (List.forall_mem_nil _) solid (List.forall_mem_nil _)
  rwa [List.nil_append, List.append_nil] at between

/-- A text is what is left of it by trimming, with blanks on both sides. -/
theorem exists_trim (t : Text) :
    ∃ before after, IsBlank before ∧ IsBlank after ∧ t.units = before ++ t.trim.units ++ after := by
  have front := t.units.takeWhile_append_dropWhile (p := isBlank)
  have back := (t.units.dropWhile isBlank).reverse.takeWhile_append_dropWhile (p := isBlank)
  refine ⟨t.units.takeWhile isBlank,
    ((t.units.dropWhile isBlank).reverse.takeWhile isBlank).reverse,
    fun u => List.mem_takeWhile_imp, fun u member => ?_, ?_⟩
  · exact List.mem_takeWhile_imp (List.mem_reverse.mp member)
  · rw [trim, List.append_assoc, ← List.reverse_append, back, List.reverse_reverse, front]

end MeterSignals.Text
