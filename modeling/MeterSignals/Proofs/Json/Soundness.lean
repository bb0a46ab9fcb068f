/-
# What is read is in the grammar

Whatever the reader makes of an input is a value that the grammar finds there, with the same rest
behind it. The reader keeps the units, elements and members that it has seen already, so each of
these lemmas says what is read beyond them; those about values, elements and members go by
induction on the fuel, all three at once, since each of the three readers calls the others.
-/

import MeterSignals.Proofs.Json.Grammar

namespace MeterSignals.Json

namespace Reader

open Ascii
open Grammar
open Text (digit?_eq_some_iff hexDigit?_eq_some_iff)

variable {input rest : List UInt16}

theorem isSeparator_iff {u : UInt16} :
    isSeparator u = true ↔ u ∈ [space, tab, lineFeed, carriageReturn] := by
  simp [isSeparator, or_assoc]

theorem blanks_skip (input : List UInt16) : Blanks input (skip input) := by
  induction input with
  | nil => exact .none
  | cons u input ih =>
      rw [skip, List.dropWhile_cons]
      split
      · next separator => exact .more (isSeparator_iff.mp separator) ih
      · exact .none

/-- What is skipped before something is blank. -/
theorem blanks_of_skip {input rest : List UInt16} (found : skip input = rest) :
    Blanks input rest :=
  found ▸ blanks_skip input

theorem pair_of_escaped? {v u : UInt16} (read : escaped? v = some u) : (v, u) ∈ escapes := by
  unfold escaped? at read
  split at read <;> cases read <;> decide

theorem forall₂_of_unit? {a b c d u : UInt16} (read : unit? a b c d = some u) :
    ∃ digits, List.Forall₂ Text.IsHexDigit [a, b, c, d] digits ∧
      u = (Nat.ofDigits 16 digits.reverse).toUInt16 := by
  obtain ⟨i, first, read⟩ := Option.bind_eq_some_iff.mp read
  obtain ⟨j, second, read⟩ := Option.bind_eq_some_iff.mp read
  obtain ⟨k, third, read⟩ := Option.bind_eq_some_iff.mp read
  obtain ⟨l, fourth, read⟩ := Option.bind_eq_some_iff.mp read
  refine ⟨[i, j, k, l], ?_, ?_⟩
  · exact .cons (hexDigit?_eq_some_iff.mp first) <| .cons (hexDigit?_eq_some_iff.mp second) <|
      .cons (hexDigit?_eq_some_iff.mp third) <| .cons (hexDigit?_eq_some_iff.mp fourth) .nil
  · rw [← Option.some.inj read, Text.valueOfDigits_eq]

/-- A unit that is read stands behind the ones that have been seen. -/
theorem characters_cons {seen : List UInt16} {t : Text} {middle : List UInt16} {u : UInt16}
    (first : Character input u middle)
    (later : ∃ units, Characters middle units rest ∧ t = ⟨(u :: seen).reverse ++ units⟩) :
    ∃ units, Characters input units rest ∧ t = ⟨seen.reverse ++ units⟩ := by
  obtain ⟨units, others, rfl⟩ := later
  refine ⟨u :: units, .more first others, ?_⟩
  rw [List.reverse_cons, List.append_assoc, List.singleton_append]

/-- The rest of a text is read up to its closing quote. -/
theorem characters_of_string {seen : List UInt16} {t : Text}
    (read : string seen input = some (t, rest)) :
    ∃ units, Characters input units rest ∧ t = ⟨seen.reverse ++ units⟩ := by
  induction seen, input using string.induct with
  | case1 seen => cases read
  | case2 seen rest =>
      cases read
      exact ⟨[], .close, by rw [List.append_nil]⟩
  | case3 seen a b c d more u code ih =>
      rw [string, code] at read
      obtain ⟨digits, spelled, rfl⟩ := forall₂_of_unit? code
      exact characters_cons (.code spelled) (ih read)
  | case4 seen a b c d more none =>
      rw [string, none] at read
      cases read
  | case5 seen v more outside u pair ih =>
      rw [string, pair] at read
      · exact characters_cons (.letter (pair_of_escaped? pair)) (ih read)
      · exact outside
  | case6 seen v more outside none =>
      rw [string, none] at read
      · cases read
      · exact outside
  | case7 seen u more unquoted outside unescaped control =>
      rw [string, if_pos control] at read
      · cases read
      all_goals assumption
  | case8 seen u more unquoted outside unescaped printable ih =>
      rw [string, if_neg printable] at read
      · have plain : 0x20 ≤ u := UInt16.not_lt.mp printable
        refine characters_cons (.plain plain unquoted fun same => ?_) (ih read)
        -- A backslash at the end of the input is no text.
        cases more with
        | nil => cases read
        | cons v more => exact unescaped v more same rfl
      all_goals assumption

/-- The digits in front are taken, if there are any. -/
theorem digits_of_takeDigits {digits : List ℕ}
    (read : Number.takeDigits input = (digits, rest)) :
    digits = [] ∧ rest = input ∨ Digits input digits rest := by
  induction input generalizing digits with
  | nil =>
      cases read
      exact .inl ⟨rfl, rfl⟩
  | cons u input ih =>
      rw [Number.takeDigits] at read
      split at read
      · next digit found =>
          have first := digit?_eq_some_iff.mp found
          cases read
          rcases ih rfl with ⟨none, same⟩ | others
          · rw [none, same]
            exact .inr (.one first)
          · exact .inr (.more first others)
      · cases read
        exact .inl ⟨rfl, rfl⟩

theorem fraction_of_fraction {digits : List ℕ} (read : fraction input = some (digits, rest)) :
    Fraction input digits rest := by
  rw [fraction.eq_def] at read
  split at read
  · split at read
    · cases read
    · next digits rest some_ found =>
        cases read
        exact .point ((digits_of_takeDigits found).resolve_left fun none => some_ none.1)
  · cases read
    exact .none

theorem digits_of_exponentDigits {n : ℕ} (read : exponentDigits input = some (n, rest)) :
    ∃ digits, Digits input digits rest ∧ n = Nat.ofDigits 10 digits.reverse := by
  rw [exponentDigits] at read
  split at read
  · cases read
  · next digits rest some_ found =>
      cases read
      exact ⟨digits, (digits_of_takeDigits found).resolve_left fun none => some_ none.1,
        Text.valueOfDigits_eq 10 digits⟩

/-- An exponent behind its letter. -/
def power : List UInt16 → Option (ℤ × Rest)
  | minus :: rest => (exponentDigits rest).map fun (n, rest) => (-(n : ℤ), rest)
  | plus :: rest => (exponentDigits rest).map fun (n, rest) => (n, rest)
  | rest => (exponentDigits rest).map fun (n, rest) => (n, rest)

theorem exponent_letter {u : UInt16} (letter : u = smallE ∨ u = capitalE) (input : List UInt16) :
    exponent (u :: input) = power input := by
  rcases letter with rfl | rfl <;> rfl

theorem exponent_of_not_letter (other : ∀ u ∈ input.head?, u ≠ smallE ∧ u ≠ capitalE) :
    exponent input = some (0, input) := by
  rw [exponent]
  · rintro more rfl
    exact (other _ rfl).1 rfl
  · rintro more rfl
    exact (other _ rfl).2 rfl

theorem exponent_of_digits {u : UInt16} {sign power : ℤ} {middle : List UInt16} {scaled : ℕ → ℤ}
    (letter : u = smallE ∨ u = capitalE) (signed : Sign input sign middle)
    (scales : ∀ n, scaled n = sign * n)
    (read : (exponentDigits middle).map (fun (n, rest) => (scaled n, rest)) = some (power, rest)) :
    Exponent (u :: input) power rest := by
  obtain ⟨⟨n, rest⟩, found, same⟩ := Option.map_eq_some_iff.mp read
  cases same
  obtain ⟨digits, spelled, rfl⟩ := digits_of_exponentDigits found
  rw [scales]
  exact .power letter signed spelled

theorem exponent_of_exponent {n : ℤ} (read : exponent input = some (n, rest)) :
    Exponent input n rest := by
  cases input with
  | nil =>
      cases read
      exact .none
  | cons u input =>
      by_cases letter : u = smallE ∨ u = capitalE
      · rw [exponent_letter letter, power.eq_def] at read
        split at read
        · exact exponent_of_digits letter .minus (fun n => (neg_one_mul _).symm) read
        · exact exponent_of_digits letter .plus (fun n => (one_mul _).symm) read
        · exact exponent_of_digits letter .none (fun n => (one_mul _).symm) read
      · have other : ∀ v ∈ (u :: input).head?, v ≠ smallE ∧ v ≠ capitalE := by
          rintro v ⟨⟩
          exact not_or.mp letter
        rw [exponent_of_not_letter other] at read
        cases read
        exact .none

theorem decimal_of_magnitude {x : Float} (read : magnitude input = some (x, rest)) :
    ∃ coefficient power, Decimal input coefficient power rest ∧
      x = Number.nearest coefficient power := by
  rw [magnitude] at read
  split at read
  next whole a found =>
    split at read
    · cases read
    · cases read
    · next some_ leading =>
        obtain ⟨⟨digits, b⟩, fractional, read⟩ := Option.bind_eq_some_iff.mp read
        obtain ⟨⟨exponent, c⟩, scaled, read⟩ := Option.bind_eq_some_iff.mp read
        cases read
        have integral := (digits_of_takeDigits found).resolve_left fun none => some_ none.1
        refine ⟨_, _, .mk integral ?_ (fraction_of_fraction fractional)
          (exponent_of_exponent scaled), ?_⟩
        · intro first
          cases whole with
          | nil => cases first
          | cons digit others =>
              cases first
              cases others with
              | nil => rfl
              | cons second others => exact absurd rfl (leading second others)
        · rw [Number.ofDecimal, Text.valueOfDigits_eq]

theorem value_of_number {json : Json} (read : number input = some (json, rest)) :
    Value input json rest := by
  rw [number.eq_def] at read
  split at read
  · obtain ⟨⟨x, rest⟩, found, same⟩ := Option.map_eq_some_iff.mp read
    cases same
    obtain ⟨coefficient, power, decimal, rfl⟩ := decimal_of_magnitude found
    exact .negative decimal
  · obtain ⟨⟨x, rest⟩, found, same⟩ := Option.map_eq_some_iff.mp read
    cases same
    obtain ⟨coefficient, power, decimal, rfl⟩ := decimal_of_magnitude found
    exact .number decimal

theorem append_of_word? {word : Text} (read : word? word input = some rest) :
    input = word.units ++ rest := by
  rw [word?, Option.ite_none_right_eq_some] at read
  obtain ⟨front, same⟩ := read
  obtain ⟨behind, rfl⟩ := List.isPrefixOf_iff_prefix.mp front
  rw [← Option.some.inj same, List.drop_left]

theorem value_of_scalar {json : Json} (read : scalar input = some (json, rest)) :
    Value input json rest := by
  rw [scalar] at read
  split at read
  · next word =>
      cases read
      rw [append_of_word? word]
      exact .null
  · next word _ =>
      cases read
      rw [append_of_word? word]
      exact .true
  · next word _ _ =>
      cases read
      rw [append_of_word? word]
      exact .false
  · exact value_of_number read

/-- What the three readers find with some fuel is in the grammar. -/
structure Finds (fuel : ℕ) : Prop where
  value : ∀ {input rest json}, value fuel input = some (json, rest) →
    ∃ a, Blanks input a ∧ Value a json rest
  elements : ∀ {seen input rest json}, elements fuel seen input = some (json, rest) →
    ∃ vs, Elements input vs rest ∧ json = arr (seen.reverse ++ vs)
  members : ∀ {seen input rest json}, members fuel seen input = some (json, rest) →
    ∃ pairs, Pairs input pairs rest ∧ json = obj (Members.override seen pairs)

theorem finds_value {fuel : ℕ} (found : Finds fuel) {json : Json}
    (read : value (fuel + 1) input = some (json, rest)) :
    ∃ a, Blanks input a ∧ Value a json rest := by
  rw [value] at read
  refine ⟨skip input, blanks_skip input, ?_⟩
  split at read
  · next inner start =>
      rw [start]
      split at read
      · next same =>
          cases read
          exact .emptyObject (blanks_of_skip same)
      · obtain ⟨pairs, members, rfl⟩ := found.members read
        exact .object (members.behind (blanks_skip inner))
  · next inner start =>
      rw [start]
      split at read
      · next same =>
          cases read
          exact .emptyList (blanks_of_skip same)
      · obtain ⟨vs, elements, rfl⟩ := found.elements read
        exact .list (elements.behind (blanks_skip inner))
  · next start =>
      rw [start]
      obtain ⟨⟨t, rest⟩, found, same⟩ := Option.map_eq_some_iff.mp read
      cases same
      obtain ⟨units, spelled, rfl⟩ := characters_of_string found
      exact .text spelled
  · exact value_of_scalar read

theorem finds_elements {fuel : ℕ} (found : Finds fuel) {seen : List Json} {json : Json}
    (read : elements (fuel + 1) seen input = some (json, rest)) :
    ∃ vs, Elements input vs rest ∧ json = arr (seen.reverse ++ vs) := by
  rw [elements] at read
  split at read
  · cases read
  · next v b first =>
      obtain ⟨a, before, value⟩ := found.value first
      split at read
      · next same =>
          obtain ⟨vs, others, rfl⟩ := found.elements read
          refine ⟨v :: vs, .more (.mk before value (blanks_of_skip same)) others, ?_⟩
          rw [List.reverse_cons, List.append_assoc, List.singleton_append]
      · next same =>
          cases read
          exact ⟨[v], .last (.mk before value (blanks_of_skip same)), by rw [List.reverse_cons]⟩
      · cases read

theorem finds_members {fuel : ℕ} (found : Finds fuel) {seen : Members} {json : Json}
    (read : members (fuel + 1) seen input = some (json, rest)) :
    ∃ pairs, Pairs input pairs rest ∧ json = obj (Members.override seen pairs) := by
  rw [members] at read
  split at read
  · next start =>
      split at read
      · cases read
      · next key b spelled =>
          obtain ⟨units, characters, rfl⟩ := characters_of_string spelled
          split at read
          · next behind =>
              have name := Key.mk (blanks_of_skip start) characters (blanks_of_skip behind)
              split at read
              · cases read
              · next v d first =>
                  obtain ⟨c, before, value⟩ := found.value first
                  split at read
                  · next same =>
                      obtain ⟨pairs, others, rfl⟩ := found.members read
                      exact ⟨_, .more name (.mk before value (blanks_of_skip same)) others, rfl⟩
                  · next same =>
                      cases read
                      exact ⟨_, .last name (.mk before value (blanks_of_skip same)), rfl⟩
                  · cases read
          · cases read
  · cases read

theorem finds (fuel : ℕ) : Finds fuel := by
  induction fuel with
  | zero => exact ⟨nofun, nofun, nofun⟩
  | succ fuel found => exact ⟨finds_value found, finds_elements found, finds_members found⟩

end Reader

/-- What is read from a document is what it denotes. -/
theorem denotes_of_read? {t : Text} {json : Json} (read : read? t = some json) :
    Denotes t json := by
  rw [read?] at read
  split at read
  · next v rest found =>
      rw [Option.ite_none_right_eq_some] at read
      obtain ⟨behind, rfl⟩ := read.imp_right Option.some.inj
      obtain ⟨a, before, value⟩ := (Reader.finds _).value found
      exact .mk before value (Reader.blanks_of_skip (List.isEmpty_iff.mp behind))
  · cases read

end MeterSignals.Json
