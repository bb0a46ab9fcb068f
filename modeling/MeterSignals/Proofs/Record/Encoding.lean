/-
# Two ways of writing an integer

A field states an integer as a number that is whole, or as a text of decimal digits, with blanks
around it and a minus sign in front if it is negative. Digits may be of any number, also zeros that
stand in front; up to 2^53 the text is read as the very integer that it states. A field that states
no integer in one of these ways is not read as one, be it a fraction, an infinity or any other text.
-/

import MeterSignals.Proofs.Record.Fields
import MeterSignals.Proofs.Record.Integer

namespace MeterSignals

open Number (Approximates value integer?_eq_some_iff)
open Text (IsBlank IsDigit digit?_eq_some_iff)

namespace Datum

/-- The integer that a field states. -/
inductive Encodes : Datum → ℤ → Prop
  | number {x : Float} {n : ℤ} (finite : x.isFinite = true) (whole : value x = n) :
      Encodes (.number x) n
  | digits {before units after : List UInt16} {digits : List ℕ} (front : IsBlank before)
      (back : IsBlank after) (spelled : List.Forall₂ IsDigit units digits)
      (some_ : digits ≠ []) :
      Encodes (.text ⟨before ++ units ++ after⟩) (Nat.ofDigits 10 digits.reverse : ℕ)
  | minus {before units after : List UInt16} {digits : List ℕ} (front : IsBlank before)
      (back : IsBlank after) (spelled : List.Forall₂ IsDigit units digits)
      (some_ : digits ≠ []) :
      Encodes (.text ⟨before ++ Ascii.minus :: units ++ after⟩)
        (-(Nat.ofDigits 10 digits.reverse : ℕ))

theorem mapM_digit?_iff {units : List UInt16} {digits : List ℕ} :
    units.mapM Text.digit? = some digits ↔ List.Forall₂ IsDigit units digits := by
  simp only [Text.mapM_eq_some_iff, digit?_eq_some_iff]

/-- A text that states an integer is read as it, rounded. -/
theorem Encodes.exists_approximates {t : Text} {n : ℤ} (encodes : Encodes (.text t) n) :
    ∃ x, integerOfText? t = some x ∧ Approximates x n := by
  cases encodes with
  | @digits before units after digits front back spelled some_ =>
      have read := mapM_digit?_iff.mpr spelled
      have trimmed := Text.trim_between front (Text.solid_of_digits read) back
      refine ⟨_, integerOfText?_of_digits (congrArg Text.units trimmed) read some_, ?_⟩
      rw [← Text.valueOfDigits_eq]
      simpa using Number.approximates_nearest (Text.valueOfDigits 10 digits) 0
  | @minus before units after digits front back spelled some_ =>
      have read := mapM_digit?_iff.mpr spelled
      have solid : ∀ u ∈ Ascii.minus :: units, Text.isBlank u = false :=
        List.forall_mem_cons.mpr ⟨by decide, Text.solid_of_digits read⟩
      have trimmed := Text.trim_between front solid back
      refine ⟨_, integerOfText?_of_minus (congrArg Text.units trimmed) read some_, ?_⟩
      rw [← Text.valueOfDigits_eq]
      simpa using (Number.approximates_nearest (Text.valueOfDigits 10 digits) 0).neg

/-- A text that is read as an integer states one. -/
theorem exists_encodes_of_text {t : Text} {x : Float} (read : integerOfText? t = some x) :
    ∃ n, Encodes (.text t) n := by
  obtain ⟨before, after, front, back, same⟩ := t.exists_trim
  rw [integerOfText?] at read
  generalize t.trim.units = units at same read
  obtain rfl : t = ⟨before ++ units ++ after⟩ := congrArg Text.mk same
  split at read
  · obtain ⟨y, magnitude, -⟩ := Option.map_eq_some_iff.mp read
    obtain ⟨digits, some_, spelled, -⟩ := magnitude?_eq_some_iff.mp magnitude
    exact ⟨_, .minus front back (mapM_digit?_iff.mp spelled) some_⟩
  · obtain ⟨digits, some_, spelled, -⟩ := magnitude?_eq_some_iff.mp read
    exact ⟨_, .digits front back (mapM_digit?_iff.mp spelled) some_⟩

/-- What states an integer of at most 53 bits is read as that integer. -/
theorem Encodes.exists_integer? {datum : Datum} {n : ℤ} (encodes : datum.Encodes n)
    (small : n.natAbs ≤ 2 ^ 53) :
    ∃ x, datum.integer? = some x ∧ Number.integer? x = some n := by
  cases datum with
  | number x =>
      cases encodes with
      | number finite whole =>
          have same := integer?_eq_some_iff.mpr ⟨finite, whole⟩
          refine ⟨x, ?_, same⟩
          rw [integer?, same, if_pos Option.isSome_some]
  | text t =>
      obtain ⟨x, read, approximates⟩ := encodes.exists_approximates
      exact ⟨x, read, integer?_eq_some_iff.mpr (approximates.value_eq_of_le small)⟩

/-- A field is read as an integer exactly if it states one. -/
theorem isSome_integer?_iff {datum : Datum} :
    datum.integer?.isSome = true ↔ ∃ n, datum.Encodes n := by
  rw [Option.isSome_iff_exists]
  cases datum with
  | number x =>
      rw [integer?]
      constructor
      · rintro ⟨y, read⟩
        rw [Option.ite_none_right_eq_some] at read
        obtain ⟨n, same⟩ := Option.isSome_iff_exists.mp read.1
        obtain ⟨finite, whole⟩ := integer?_eq_some_iff.mp same
        exact ⟨n, .number finite whole⟩
      · rintro ⟨n, encodes⟩
        cases encodes with
        | number finite whole =>
            rw [integer?_eq_some_iff.mpr ⟨finite, whole⟩]
            exact ⟨x, if_pos Option.isSome_some⟩
  | text t =>
      constructor
      · rintro ⟨x, read⟩
        exact exists_encodes_of_text read
      · rintro ⟨n, encodes⟩
        obtain ⟨x, read, -⟩ := encodes.exists_approximates
        exact ⟨x, read⟩

end Datum

namespace Record

variable {record : Record} {code : Text}

/-- A record has an integer under a code exactly if its field there states one. -/
theorem integer?_eq_none_iff :
    record.integer? code = none ↔ ∀ datum ∈ record.datum? code, ∀ n, ¬ datum.Encodes n := by
  rw [integer?_eq, Option.bind_eq_none_iff]
  refine forall₂_congr fun datum _ => ?_
  rw [← Option.not_isSome_iff_eq_none, Datum.isSome_integer?_iff, not_exists]

/-- The field under a code states an integer of 53 bits. -/
def HasInteger (record : Record) (code : Text) (n : ℤ) : Prop :=
  n.natAbs ≤ 2 ^ 53 - 1 ∧ ∃ datum ∈ record.datum? code, datum.Encodes n

theorem HasInteger.exists_integer? {n : ℤ} (has : record.HasInteger code n) :
    ∃ x, record.integer? code = some x ∧ Number.integer? x = some n := by
  obtain ⟨small, datum, found, encodes⟩ := has
  rw [integer?_eq, Option.mem_def.mp found, Option.bind_some]
  exact encodes.exists_integer? (by omega)

end Record

end MeterSignals
