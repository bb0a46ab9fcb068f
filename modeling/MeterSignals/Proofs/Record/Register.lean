/-
# The register that a field states

A register is a number below 2^32. A field states it as a number that is an integer, of which only
the rest modulo 2^32 counts, so that it may be written with or without a sign; or as a text of one
to eight hexadecimal digits between blanks. Any other field states no register.
-/

import MeterSignals.Proofs.Number.Whole
import MeterSignals.Proofs.Record.Fields
import MeterSignals.Proofs.Text.Numeral

namespace MeterSignals

open Number (value integer? integer?_eq_some_iff truncate? wrap32)
open Text (IsBlank IsHexDigit hexDigit?_eq_some_iff)

/-- The low 32 bits of an integer are its rest modulo 2^32, also if it is negative. -/
theorem Number.toNat_wrap32 {x : Float} {n : ℤ} (whole : integer? x = some n) :
    (wrap32 x).toNat = (n % 2 ^ 32).toNat := by
  have truncated : truncate? x = some n := by
    rw [integer?] at whole
    rw [truncate?]
    split at whole
    · exact whole
    · next s m e _ _ =>
        dsimp only at whole
        split at whole
        · exact whole
        · cases whole
    · cases whole
  have bits : (n % 2 ^ 32).toNat < 2 ^ 32 := by omega
  rw [wrap32, truncated]
  exact Nat.mod_eq_of_lt bits

namespace Datum

/-- The register that a field states. -/
inductive States : Datum → ℕ → Prop
  | number {x : Float} {n : ℤ} (finite : x.isFinite = true) (whole : value x = n) :
      States (.number x) (n % 2 ^ 32).toNat
  | text {before units after : List UInt16} {digits : List ℕ} (front : IsBlank before)
      (back : IsBlank after) (spelled : List.Forall₂ IsHexDigit units digits)
      (some_ : 1 ≤ digits.length) (few : digits.length ≤ 8) :
      States (.text ⟨before ++ units ++ after⟩) (Nat.ofDigits 16 digits.reverse)

theorem lt_of_isHexDigit {units : List UInt16} {digits : List ℕ}
    (spelled : List.Forall₂ IsHexDigit units digits) : ∀ digit ∈ digits, digit < 16 := by
  induction spelled with
  | nil => exact List.forall_mem_nil _
  | cons first rest ih => exact List.forall_mem_cons.mpr ⟨first.1, ih⟩

theorem solid_of_isHexDigit {units : List UInt16} {digits : List ℕ}
    (spelled : List.Forall₂ IsHexDigit units digits) : ∀ u ∈ units, Text.isBlank u = false := by
  induction spelled with
  | nil => exact List.forall_mem_nil _
  | @cons u digit _ _ first rest ih =>
      refine List.forall_mem_cons.mpr ⟨?_, ih⟩
      obtain ⟨few, rfl | rfl⟩ := first
      · interval_cases digit <;> rfl
      · interval_cases digit <;> rfl

/-- Eight hexadecimal digits have 32 bits. -/
theorem ofDigits_lt {units : List UInt16} {digits : List ℕ}
    (spelled : List.Forall₂ IsHexDigit units digits) (few : digits.length ≤ 8) :
    Nat.ofDigits 16 digits.reverse < 2 ^ 32 :=
  calc Nat.ofDigits 16 digits.reverse < 16 ^ digits.reverse.length :=
        Nat.ofDigits_lt_base_pow_length (by decide) fun digit member =>
          lt_of_isHexDigit spelled digit (List.mem_reverse.mp member)
    _ ≤ 16 ^ 8 := Nat.pow_le_pow_right (by decide) (by rwa [List.length_reverse])

/-- A register has 32 bits. -/
theorem States.lt {datum : Datum} {n : ℕ} (states : datum.States n) : n < 2 ^ 32 := by
  cases states with
  | number finite whole => omega
  | text front back spelled some_ few => exact ofDigits_lt spelled few

/-- A register may be written with a sign or without. -/
theorem states_of_form {n : ℕ} {x : Float} (bits : n < 2 ^ 32) (finite : x.isFinite = true)
    (form : value x = n ∨ value x = (n : ℤ).bmod (2 ^ 32)) : States (.number x) n := by
  obtain ⟨i, whole, same⟩ : ∃ i : ℤ, value x = i ∧ (i % 2 ^ 32).toNat = n := by
    rcases form with unsigned | signed
    · exact ⟨n, by exact_mod_cast unsigned, by omega⟩
    · refine ⟨_, signed, ?_⟩
      rw [show (2 : ℤ) ^ 32 = (2 ^ 32 : ℕ) by norm_num, Int.bmod_emod]
      omega
  rw [← same]
  exact .number finite whole

/-- What a field states is read. -/
theorem States.register? {datum : Datum} {n : ℕ} (states : datum.States n) :
    datum.register? = some n.toUInt32 := by
  cases states with
  | @number x n finite whole =>
      have integer := integer?_eq_some_iff.mpr ⟨finite, whole⟩
      rw [Datum.register?, integer, if_pos Option.isSome_some, Option.some.injEq,
        ← UInt32.toNat_inj, Number.toNat_wrap32 integer]
      exact (Nat.mod_eq_of_lt (by omega)).symm
  | @text before units after digits front back spelled some_ few =>
      have read : units.mapM Text.hexDigit? = some digits :=
        Text.mapM_eq_some_iff.mpr (spelled.imp fun _ _ => hexDigit?_eq_some_iff.mpr)
      rw [Datum.register?, registerOfText?,
        Text.trim_between front (solid_of_isHexDigit spelled) back]
      simp only [read, some_, few, Text.valueOfDigits_eq, decide_true, Bool.and_self, if_true]

/-- What is read is what the field states. -/
theorem states_of_register? {datum : Datum} {r : UInt32} (read : datum.register? = some r) :
    datum.States r.toNat := by
  cases datum with
  | number x =>
      rw [register?, Option.ite_none_right_eq_some] at read
      obtain ⟨found, rfl⟩ := read.imp_right Option.some.inj
      obtain ⟨n, integer⟩ := Option.isSome_iff_exists.mp found
      obtain ⟨finite, whole⟩ := integer?_eq_some_iff.mp integer
      rw [Number.toNat_wrap32 integer]
      exact .number finite whole
  | text t =>
      obtain ⟨before, after, front, back, same⟩ := t.exists_trim
      rw [register?, registerOfText?] at read
      generalize t.trim.units = units at same read
      obtain rfl : t = ⟨before ++ units ++ after⟩ := congrArg Text.mk same
      split at read
      · next digits found =>
          have spelled : List.Forall₂ IsHexDigit units digits :=
            (Text.mapM_eq_some_iff.mp found).imp fun _ _ => hexDigit?_eq_some_iff.mp
          rw [Option.ite_none_right_eq_some, Bool.and_eq_true, decide_eq_true_eq,
            decide_eq_true_eq] at read
          obtain ⟨⟨some_, few⟩, rfl⟩ := read.imp_right Option.some.inj
          have bits : (Text.valueOfDigits 16 digits).toUInt32.toNat =
              Nat.ofDigits 16 digits.reverse := by
            rw [Text.valueOfDigits_eq]
            exact Nat.mod_eq_of_lt (ofDigits_lt spelled few)
          rw [bits]
          exact .text front back spelled some_ few
      · cases read

end Datum

end MeterSignals
