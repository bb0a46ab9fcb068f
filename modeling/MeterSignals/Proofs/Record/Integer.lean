/-
# What an integer field can be

A number of a document is an integer field only if it is whole. A text of digits is one however
long it is: it is the number that the digits denote, rounded, and where there are too many digits
that is infinite. So what an integer field gives is whole or infinite.
-/

import MeterSignals.Proofs.Number.Scientific
import MeterSignals.Proofs.Text.Decimal
import MeterSignals.Proofs.Text.Numeral
import MeterSignals.Record.Basic

namespace MeterSignals

open Number (Approximates)

/-- Nothing is left behind the digits in front exactly if all units are digits. -/
theorem Number.takeDigits_eq_nil_iff {units : List UInt16} {digits : List ℕ} :
    takeDigits units = (digits, []) ↔ units.mapM Text.digit? = some digits := by
  induction units generalizing digits with
  | nil => simp [takeDigits, eq_comm]
  | cons u units ih =>
      rw [takeDigits, List.mapM_cons]
      cases Text.digit? u with
      | none => simp
      | some digit =>
          simp only [Option.bind_eq_bind, Option.bind_some, Option.bind_eq_some_iff, ← ih]
          constructor
          · intro taken
            obtain ⟨rfl, behind⟩ := Prod.mk.inj taken
            exact ⟨_, Prod.ext rfl behind, rfl⟩
          · rintro ⟨others, taken, same⟩
            rw [taken, ← Option.some.inj same]

namespace Datum

/-- Digits only, and at least one, give the number that they denote. -/
theorem magnitude?_eq_some_iff {units : List UInt16} {x : Float} :
    integerOfText?.magnitude? units = some x ↔
      ∃ digits, digits ≠ [] ∧ units.mapM Text.digit? = some digits ∧
        Number.nearest (Text.valueOfDigits 10 digits) 0 = x := by
  rw [integerOfText?.magnitude?]
  constructor
  · intro read
    split at read
    · cases read
    · next digits some_ taken =>
        have value := Option.some.inj read
        rw [Number.ofDecimal, List.append_nil] at value
        exact ⟨digits, some_, Number.takeDigits_eq_nil_iff.mp taken, value⟩
    · cases read
  · rintro ⟨digits, some_, read, rfl⟩
    rw [Number.takeDigits_eq_nil_iff.mpr read]
    cases digits with
    | nil => exact absurd rfl some_
    | cons digit digits =>
        have whole := List.append_nil (digit :: digits)
        exact congrArg (fun digits => some (Number.nearest (Text.valueOfDigits 10 digits) 0)) whole

/-- A row of digits gives the natural number that it denotes, rounded. -/
theorem exists_approximates_of_magnitude? {units : List UInt16} {x : Float}
    (read : integerOfText?.magnitude? units = some x) : ∃ n : Nat, Approximates x n := by
  obtain ⟨digits, -, -, rfl⟩ := magnitude?_eq_some_iff.mp read
  have whole := Number.approximates_nearest (Text.valueOfDigits 10 digits) 0
  rw [zpow_zero, mul_one] at whole
  exact ⟨_, whole⟩

/-- A text of digits gives the integer that it denotes, rounded. -/
theorem exists_approximates_of_text {t : Text} {x : Float} (read : integerOfText? t = some x) :
    ∃ n : Int, Approximates x n := by
  rw [integerOfText?] at read
  split at read
  · obtain ⟨y, magnitude, rfl⟩ := Option.map_eq_some_iff.mp read
    obtain ⟨n, approximates⟩ := exists_approximates_of_magnitude? magnitude
    exact ⟨-n, by exact_mod_cast approximates.neg⟩
  · obtain ⟨n, approximates⟩ := exists_approximates_of_magnitude? read
    exact ⟨n, by exact_mod_cast approximates⟩

section Digits

variable {units : List UInt16} {digits : List ℕ}

/-- A text of digits, with blanks around it, gives the number that they denote. -/
theorem integerOfText?_of_digits {t : Text} (trimmed : t.trim.units = units)
    (read : units.mapM Text.digit? = some digits) (some_ : digits ≠ []) :
    integerOfText? t = some (Number.nearest (Text.valueOfDigits 10 digits) 0) := by
  rw [integerOfText?, trimmed]
  split
  · cases read
  · exact magnitude?_eq_some_iff.mpr ⟨digits, some_, read, rfl⟩

theorem integerOfText?_of_minus {t : Text} (trimmed : t.trim.units = Ascii.minus :: units)
    (read : units.mapM Text.digit? = some digits) (some_ : digits ≠ []) :
    integerOfText? t = some (-Number.nearest (Text.valueOfDigits 10 digits) 0) := by
  rw [integerOfText?, trimmed]
  have magnitude := magnitude?_eq_some_iff.mpr ⟨digits, some_, read, rfl⟩
  exact congrArg (Option.map (Number.withSign true)) magnitude

end Digits

/-- An integer that is written is read again, rounded. -/
theorem exists_integerOfText?_ofInt (n : ℤ) :
    ∃ x, integerOfText? (Text.ofInt n) = some x ∧ Approximates x n := by
  cases n with
  | ofNat n =>
      obtain ⟨digits, some_, read, value⟩ := Text.exists_digits_ofNat n
      refine ⟨_, integerOfText?_of_digits
        (congrArg Text.units (Text.trim_of_solid (Text.solid_of_digits read))) read some_, ?_⟩
      rw [value]
      simpa using Number.approximates_nearest n 0
  | negSucc n =>
      obtain ⟨digits, some_, read, value⟩ := Text.exists_digits_ofNat (n + 1)
      have solid : ∀ u ∈ Ascii.minus :: (Text.ofNat (n + 1)).units, Text.isBlank u = false :=
        List.forall_mem_cons.mpr ⟨by decide, Text.solid_of_digits read⟩
      refine ⟨_, integerOfText?_of_minus
        (congrArg Text.units (Text.trim_of_solid solid)) read some_, ?_⟩
      rw [value]
      simpa [Int.negSucc_eq] using (Number.approximates_nearest (n + 1) 0).neg

/-- An integer field that is finite is whole. -/
theorem isWhole_of_integer? {datum : Datum} {x : Float} (read : datum.integer? = some x)
    (finite : x.isFinite = true) : ∃ n, Number.integer? x = some n := by
  cases datum with
  | number y =>
      rw [integer?] at read
      split at read
      · next whole =>
          rw [← Option.some.inj read]
          exact Option.isSome_iff_exists.mp whole
      · cases read
  | text t =>
      obtain ⟨n, approximates⟩ := exists_approximates_of_text read
      exact approximates.isWhole finite

end Datum

/-- A field of a record that is read as a finite integer is whole. -/
theorem Record.isWhole_of_integer? {record : Record} {code : Text} {x : Float}
    (read : record.integer? code = some x) (finite : x.isFinite = true) :
    ∃ n, Number.integer? x = some n := by
  obtain ⟨field, -, integer⟩ := Option.bind_eq_some_iff.mp read
  exact Datum.isWhole_of_integer? integer finite

end MeterSignals
