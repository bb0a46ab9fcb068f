/-
# What is in the grammar is read

Whatever the grammar finds in an input is what the reader makes of it. The reader takes as much as
it can, so this holds only where the rest does not go on with a number; behind a value of a document
it never does, since blanks, a comma, a closer or the end follow. Each value, list and object takes
units of the input, so fuel of twice their number is enough. The induction is on the derivations:
the reader of the elements of a list passes the same input on to that of a value, with less fuel.
-/

import MeterSignals.Proofs.Json.Soundness

namespace MeterSignals.Json

namespace Reader

open Ascii
open Grammar
open Text (digit?_eq_some_iff hexDigit?_eq_some_iff)

variable {input rest : List UInt16}

/-- Blanks are skipped. -/
theorem skip_of_blanks (blanks : Blanks input rest) : skip input = skip rest := by
  induction blanks with
  | none => rfl
  | more blank _ ih =>
      rw [skip, List.dropWhile_cons_of_pos (isSeparator_iff.mpr blank)]
      exact ih

theorem unit?_of_forall₂ {a b c d : UInt16} {digits : List ℕ}
    (spelled : List.Forall₂ Text.IsHexDigit [a, b, c, d] digits) :
    unit? a b c d = some (Nat.ofDigits 16 digits.reverse).toUInt16 := by
  obtain _ | ⟨first, _ | ⟨second, _ | ⟨third, _ | ⟨fourth, _ | _⟩⟩⟩⟩ := spelled
  rw [unit?, hexDigit?_eq_some_iff.mpr first, hexDigit?_eq_some_iff.mpr second,
    hexDigit?_eq_some_iff.mpr third, hexDigit?_eq_some_iff.mpr fourth, ← Text.valueOfDigits_eq]
  rfl

/-- One unit of a text is read. -/
theorem string_of_character {middle : List UInt16} {u : UInt16} (first : Character input u middle)
    (seen : List UInt16) : string seen input = string (u :: seen) middle := by
  cases first with
  | plain printable unquoted unescaped =>
      rw [string, if_neg (UInt16.not_lt.mpr printable)]
      · exact unquoted
      · exact fun _ _ _ _ _ same => absurd same unescaped
      · exact fun _ _ same => absurd same unescaped
  | letter pair =>
      have letters : ∀ pair ∈ escapes,
          string seen (backslash :: pair.1 :: middle) = string (pair.2 :: seen) middle := by
        simp only [escapes, List.forall_mem_cons]
        exact ⟨rfl, rfl, rfl, rfl, rfl, rfl, rfl, rfl, List.forall_mem_nil _⟩
      exact letters _ pair
  | code spelled =>
      refine (string.eq_3 ..).trans ?_
      rw [unit?_of_forall₂ spelled]

/-- The rest of a text is read. -/
theorem string_of_characters {units : List UInt16} (spelled : Characters input units rest)
    (seen : List UInt16) : string seen input = some (⟨seen.reverse ++ units⟩, rest) := by
  induction spelled generalizing seen with
  | close =>
      rw [List.append_nil]
      rfl
  | more first _ ih =>
      rw [string_of_character first, ih, List.reverse_cons, List.append_assoc,
        List.singleton_append]

/-- The input does not go on with a number. -/
def Stops (input : List UInt16) : Prop :=
  ∀ u ∈ input.head?, Text.digit? u = none ∧ u ≠ dot ∧ u ≠ smallE ∧ u ≠ capitalE

theorem stops_nil : Stops [] := nofun

theorem stops_cons {u : UInt16} (other : Text.digit? u = none ∧ u ≠ dot ∧ u ≠ smallE ∧ u ≠ capitalE)
    (rest : List UInt16) : Stops (u :: rest) := by
  rintro v ⟨⟩
  exact other

/-- No blank goes on with a number. -/
theorem stops_of_blank : ∀ u ∈ [space, tab, lineFeed, carriageReturn],
    Text.digit? u = none ∧ u ≠ dot ∧ u ≠ smallE ∧ u ≠ capitalE := by
  simp only [List.forall_mem_cons]
  exact ⟨by decide, by decide, by decide, by decide, List.forall_mem_nil _⟩

theorem Stops.of_blanks (stops : Stops rest) (blanks : Blanks input rest) : Stops input := by
  cases blanks with
  | none => exact stops
  | more blank _ => exact stops_cons (stops_of_blank _ blank) _

theorem takeDigits_of_digits {digits : List ℕ} (spelled : Digits input digits rest)
    (stops : ∀ u ∈ rest.head?, Text.digit? u = none) :
    Number.takeDigits input = (digits, rest) := by
  induction spelled with
  | @one u digit rest first =>
      have none : Number.takeDigits rest = ([], rest) := by
        cases rest with
        | nil => rfl
        | cons v rest => rw [Number.takeDigits, stops v rfl]
      rw [Number.takeDigits, digit?_eq_some_iff.mpr first]
      dsimp only
      rw [none]
  | more first _ ih =>
      rw [Number.takeDigits, digit?_eq_some_iff.mpr first]
      dsimp only
      rw [ih stops]

theorem ne_of_digit {u v : UInt16} {digit : ℕ} (first : Text.digit? u = some digit)
    (other : Text.digit? v = none) : u ≠ v := by
  rintro rfl
  exact absurd (first.symm.trans other) nofun

/-- A row of digits starts with one. -/
theorem exists_of_digits {digits : List ℕ} (spelled : Digits input digits rest) :
    ∃ u more digit others, input = u :: more ∧ digits = digit :: others ∧
      Text.digit? u = some digit := by
  cases spelled with
  | one first => exact ⟨_, _, _, _, rfl, rfl, digit?_eq_some_iff.mpr first⟩
  | more first _ => exact ⟨_, _, _, _, rfl, rfl, digit?_eq_some_iff.mpr first⟩

theorem ne_of_digits {digits : List ℕ} (spelled : Digits input digits rest) {u : UInt16}
    (other : Text.digit? u = none) (more : List UInt16) : input ≠ u :: more := by
  obtain ⟨v, _, digit, _, rfl, -, first⟩ := exists_of_digits spelled
  exact fun same => ne_of_digit first other (List.cons.inj same).1

theorem exponentDigits_of_digits {digits : List ℕ} (spelled : Digits input digits rest)
    (stops : Stops rest) :
    exponentDigits input = some (Nat.ofDigits 10 digits.reverse, rest) := by
  have read := takeDigits_of_digits spelled fun u first => (stops u first).1
  obtain ⟨_, _, digit, others, -, rfl, -⟩ := exists_of_digits spelled
  rw [exponentDigits, read]
  exact congrArg (fun n => some (n, rest)) (Text.valueOfDigits_eq 10 _)

theorem power_of_sign {sign : ℤ} {digits : List ℕ} {middle : List UInt16}
    (signed : Sign input sign middle) (spelled : Digits middle digits rest) (stops : Stops rest) :
    power input = some (sign * (Nat.ofDigits 10 digits.reverse : ℕ), rest) := by
  have read := exponentDigits_of_digits spelled stops
  cases signed with
  | none =>
      rw [power, read, one_mul]
      · rfl
      · exact fun more => ne_of_digits spelled (by decide) more
      · exact fun more => ne_of_digits spelled (by decide) more
  | plus =>
      change Option.map _ (exponentDigits middle) = _
      rw [read, one_mul]
      rfl
  | minus =>
      change Option.map _ (exponentDigits middle) = _
      rw [read, neg_one_mul]
      rfl

theorem exponent_of_grammar {n : ℤ} (scaled : Exponent input n rest) (stops : Stops rest) :
    exponent input = some (n, rest) ∧ ∀ u ∈ input.head?, Text.digit? u = none ∧ u ≠ dot := by
  cases scaled with
  | none => exact ⟨exponent_of_not_letter fun u first => (stops u first).2.2,
      fun u first => ⟨(stops u first).1, (stops u first).2.1⟩⟩
  | power letter signed spelled =>
      refine ⟨(exponent_letter letter _).trans (power_of_sign signed spelled stops), ?_⟩
      rintro u ⟨⟩
      rcases letter with rfl | rfl <;> decide

theorem fraction_of_grammar {digits : List ℕ} (fractional : Fraction input digits rest)
    (stops : ∀ u ∈ rest.head?, Text.digit? u = none ∧ u ≠ dot) :
    fraction input = some (digits, rest) ∧ ∀ u ∈ input.head?, Text.digit? u = none := by
  cases fractional with
  | none =>
      refine ⟨?_, fun u first => (stops u first).1⟩
      rw [fraction]
      rintro more rfl
      exact (stops _ rfl).2 rfl
  | point spelled =>
      constructor
      · have read := takeDigits_of_digits spelled fun u first => (stops u first).1
        obtain ⟨_, _, digit, others, -, rfl, -⟩ := exists_of_digits spelled
        refine (fraction.eq_1 _).trans ?_
        rw [read]
      · rintro u ⟨⟩
        decide

theorem magnitude_of_decimal {coefficient : ℕ} {n : ℤ}
    (decimal : Decimal input coefficient n rest) (stops : Stops rest) :
    magnitude input = some (Number.nearest coefficient n, rest) := by
  obtain ⟨integral, leading, fractional, scaled⟩ := decimal
  obtain ⟨exponentRead, stops⟩ := exponent_of_grammar scaled stops
  obtain ⟨fractionRead, stops⟩ := fraction_of_grammar fractional stops
  have wholeRead := takeDigits_of_digits integral stops
  obtain ⟨_, _, digit, others, -, rfl, -⟩ := exists_of_digits integral
  rw [magnitude, wholeRead]
  dsimp only
  split
  · contradiction
  · next same =>
      cases same
      exact absurd (List.cons.inj (leading rfl)).2 (List.cons_ne_nil _ _)
  · rw [fractionRead, Option.bind_eq_bind, Option.bind_some, exponentRead, Option.bind_eq_bind,
      Option.bind_some, Number.ofDecimal, Text.valueOfDigits_eq]
    rfl

/-- A decimal starts with a digit. -/
theorem exists_of_decimal {coefficient : ℕ} {n : ℤ} (decimal : Decimal input coefficient n rest) :
    ∃ u more digit, input = u :: more ∧ Text.digit? u = some digit := by
  obtain ⟨integral, -, -, -⟩ := decimal
  obtain ⟨u, more, digit, _, rfl, -, first⟩ := exists_of_digits integral
  exact ⟨u, more, digit, rfl, first⟩

theorem word?_of_ne (word : Text) {u v : UInt16} {units : List UInt16}
    (spelled : word.units = v :: units) (other : u ≠ v) (more : List UInt16) :
    word? word (u :: more) = none := by
  rw [word?, if_neg]
  rw [spelled, List.isPrefixOf_cons_cons, beq_eq_false_iff_ne.mpr other.symm]
  exact Bool.false_ne_true

/-- What starts with none of the words is read as a number. -/
theorem scalar_of_number {u : UInt16} {more : List UInt16}
    (other : u ≠ smallN ∧ u ≠ smallT ∧ u ≠ smallF) : scalar (u :: more) = number (u :: more) := by
  obtain ⟨n, t, f⟩ := other
  rw [scalar, word?_of_ne "null" rfl n, word?_of_ne "true" rfl t, word?_of_ne "false" rfl f]

theorem scalar_of_decimal {coefficient : ℕ} {n : ℤ} (decimal : Decimal input coefficient n rest)
    (stops : Stops rest) :
    scalar input = some (num (Number.nearest coefficient n), rest) := by
  have read := magnitude_of_decimal decimal stops
  obtain ⟨u, more, digit, rfl, first⟩ := exists_of_decimal decimal
  have apart {v : UInt16} (other : Text.digit? v = none) : u ≠ v := ne_of_digit first other
  rw [scalar_of_number ⟨apart (by decide), apart (by decide), apart (by decide)⟩, number, read]
  · rfl
  · exact fun _ same => apart (by decide) (List.cons.inj same).1

theorem scalar_of_negative {coefficient : ℕ} {n : ℤ} (decimal : Decimal input coefficient n rest)
    (stops : Stops rest) :
    scalar (minus :: input) = some (num (-Number.nearest coefficient n), rest) := by
  rw [scalar_of_number (by decide)]
  change Option.map _ (magnitude input) = _
  rw [magnitude_of_decimal decimal stops]
  rfl

section Start

variable {fuel : ℕ} {before : List UInt16}

theorem value_of_scalar_start {u : UInt16} (start : skip before = u :: input)
    (other : u ≠ openBrace ∧ u ≠ openBracket ∧ u ≠ quote) :
    value (fuel + 1) before = scalar (u :: input) := by
  obtain ⟨brace, bracket, quoted⟩ := other
  rw [value, start]
  split
  · next same => exact absurd (List.cons.inj same).1 brace
  · next same => exact absurd (List.cons.inj same).1 bracket
  · next same => exact absurd (List.cons.inj same).1 quoted
  · rfl

theorem value_of_quote (start : skip before = quote :: input) :
    value (fuel + 1) before = (string [] input).map fun (t, rest) => (str t, rest) := by
  rw [value, start]
  rfl

theorem value_of_openBracket (start : skip before = openBracket :: input) :
    (∀ rest, skip input = closeBracket :: rest → value (fuel + 1) before = some (arr [], rest)) ∧
      ((∀ rest, skip input ≠ closeBracket :: rest) →
        value (fuel + 1) before = elements fuel [] (skip input)) := by
  rw [value, start]
  split
  · next same => exact absurd (List.cons.inj same).1 (by decide)
  · next inner same =>
      cases same
      refine ⟨fun rest closed => by rw [closed]; rfl, fun some_ => ?_⟩
      split
      · next closed => exact absurd closed (some_ _)
      · rfl
  · next same => exact absurd (List.cons.inj same).1 (by decide)
  · next other _ => exact absurd rfl (other input)

theorem value_of_openBrace (start : skip before = openBrace :: input) :
    (∀ rest, skip input = closeBrace :: rest → value (fuel + 1) before = some (obj [], rest)) ∧
      ((∀ rest, skip input ≠ closeBrace :: rest) →
        value (fuel + 1) before = members fuel [] (skip input)) := by
  rw [value, start]
  split
  · next inner same =>
      cases same
      refine ⟨fun rest closed => by rw [closed]; rfl, fun some_ => ?_⟩
      split
      · next closed => exact absurd closed (some_ _)
      · rfl
  · next same => exact absurd (List.cons.inj same).1 (by decide)
  · next same => exact absurd (List.cons.inj same).1 (by decide)
  · next other _ _ => exact absurd rfl (other input)

end Start

/-- No value starts with a blank or closes a list. -/
theorem exists_of_value {v : Json} (value : Value input v rest) :
    ∃ u more, input = u :: more ∧ isSeparator u = false ∧ u ≠ closeBracket := by
  cases value with
  | number decimal =>
      obtain ⟨u, more, digit, rfl, first⟩ := exists_of_decimal decimal
      refine ⟨u, more, rfl, Bool.eq_false_iff.mpr fun separator => ?_,
        ne_of_digit first (by decide)⟩
      have blank := (stops_of_blank u (isSeparator_iff.mp separator)).1
      exact ne_of_digit first blank rfl
  | _ => exact ⟨_, _, rfl, by decide, by decide⟩

theorem skip_of_value {v : Json} (value : Value input v rest) : skip input = input := by
  obtain ⟨u, more, rfl, solid, -⟩ := exists_of_value value
  rw [skip, List.dropWhile_cons_of_neg (by rw [solid]; exact Bool.false_ne_true)]

theorem skip_skip (input : List UInt16) : skip (skip input) = skip input :=
  (skip_of_blanks (blanks_skip input)).symm

/-- The elements of a list do not close it. -/
theorem skip_of_elements {vs : List Json} (elements : Elements input vs rest)
    (more : List UInt16) : skip input ≠ closeBracket :: more := by
  have first {v : Json} {rest : List UInt16} (value : Padded input v rest) :
      skip input ≠ closeBracket :: more := by
    obtain ⟨before, value, -⟩ := value
    rw [skip_of_blanks before, skip_of_value value]
    obtain ⟨u, others, rfl, -, open_⟩ := exists_of_value value
    exact fun same => open_ (List.cons.inj same).1
  cases elements with
  | last value => exact first value
  | more value _ => exact first value

theorem skip_of_key {key : Text} (name : Key input key rest) :
    ∃ a b, skip input = quote :: a ∧ string [] a = some (key, b) ∧ skip b = colon :: rest := by
  obtain ⟨before, spelled, behind⟩ := name
  exact ⟨_, _, skip_of_blanks before, string_of_characters spelled [], skip_of_blanks behind⟩

/-- One member of an object is read, with the comma or the closing brace behind it. -/
theorem members_of_key {key : Text} {before b c : List UInt16} {v : Json} {fuel : ℕ}
    {seen : Members} {result : Option (Json × Rest)} (name : Key input key rest)
    (start : skip before = skip input) (read : value fuel rest = some (v, b))
    (behind : skip b = comma :: c ∧ members fuel (Members.insert key v seen) c = result ∨
      skip b = closeBrace :: c ∧ some (obj (Members.insert key v seen), c) = result) :
    members (fuel + 1) seen before = result := by
  obtain ⟨a, d, quoted, spelled, named⟩ := skip_of_key name
  rw [members, start, quoted]
  split
  · next inner same =>
      cases same
      rw [spelled]
      dsimp only
      rw [named]
      split
      · next same =>
          cases same
          rw [read]
          dsimp only
          rcases behind with ⟨next, rfl⟩ | ⟨next, rfl⟩
          · rw [next]
            rfl
          · rw [next]
            rfl
      · next other => exact absurd rfl (other rest)
  · next other => exact absurd rfl (other a)

theorem skip_of_pairs {pairs : List (Text × Json)} (members : Pairs input pairs rest)
    (more : List UInt16) : skip input ≠ closeBrace :: more := by
  have first {key : Text} {rest : List UInt16} (name : Key input key rest) :
      skip input ≠ closeBrace :: more := by
    obtain ⟨a, -, start, -, -⟩ := skip_of_key name
    rw [start]
    exact fun same => absurd (List.cons.inj same).1 (by decide)
  cases members with
  | last name _ => exact first name
  | more name _ _ => exact first name

/-- Each of the readers needs some fuel, as each of them takes some unit. -/
theorem exists_fuel {fuel : ℕ} (taken : rest.length < input.length)
    (enough : 2 * input.length ≤ fuel + 2 * rest.length) : ∃ k, fuel = k + 1 :=
  Nat.exists_eq_add_one.mpr (by omega)

mutual

/-- A value of the grammar is read, given two units of fuel for each unit it takes. -/
theorem value_of_grammar : ∀ {input rest : List UInt16} {v : Json}, Value input v rest →
    Stops rest → ∀ {fuel : ℕ} {before : List UInt16}, skip before = input →
      2 * input.length ≤ fuel + 2 * rest.length → value fuel before = some (v, rest)
  | input, rest, v, grammar, stops, fuel, before, start, enough => by
      obtain ⟨fuel, rfl⟩ := exists_fuel grammar.length_lt enough
      cases grammar with
      | null => exact (value_of_scalar_start start (by decide)).trans rfl
      | true => exact (value_of_scalar_start start (by decide)).trans rfl
      | false => exact (value_of_scalar_start start (by decide)).trans rfl
      | number decimal =>
          have read := scalar_of_decimal decimal stops
          obtain ⟨u, more, digit, rfl, first⟩ := exists_of_decimal decimal
          rw [value_of_scalar_start start ⟨ne_of_digit first (by decide),
            ne_of_digit first (by decide), ne_of_digit first (by decide)⟩, read]
      | negative decimal =>
          rw [value_of_scalar_start start (by decide), scalar_of_negative decimal stops]
      | text spelled =>
          rw [value_of_quote start, string_of_characters spelled []]
          rfl
      | emptyList blanks => exact (value_of_openBracket start).1 _ (skip_of_blanks blanks)
      | list elements =>
          rw [(value_of_openBracket start).2 (skip_of_elements elements)]
          refine elements_of_grammar elements (skip_skip _) ?_ []
          rw [List.length_cons] at enough
          omega
      | emptyObject blanks => exact (value_of_openBrace start).1 _ (skip_of_blanks blanks)
      | object members =>
          rw [(value_of_openBrace start).2 (skip_of_pairs members)]
          refine members_of_grammar members (skip_skip _) ?_ []
          rw [List.length_cons] at enough
          omega

/-- A value between blanks is read, and so are the blanks in front of it. -/
theorem value_of_padded : ∀ {input rest : List UInt16} {v : Json}, Padded input v rest →
    Stops rest → ∀ (fuel : ℕ) {before : List UInt16}, skip before = skip input →
      2 * input.length ≤ fuel + 2 * rest.length →
        ∃ b, value fuel before = some (v, b) ∧ skip b = skip rest
  | _, _, _, .mk blanks grammar behind, stops, fuel, before, start, enough => by
      rw [skip_of_blanks blanks, skip_of_value grammar] at start
      have front := blanks.length_le
      have back := behind.length_le
      exact ⟨_, value_of_grammar grammar (stops.of_blanks behind) start (by omega),
        skip_of_blanks behind⟩

theorem elements_of_grammar : ∀ {input rest : List UInt16} {vs : List Json},
    Elements input vs rest → ∀ {fuel : ℕ} {before : List UInt16}, skip before = skip input →
      2 * input.length ≤ fuel + 2 * rest.length → ∀ seen,
        elements fuel seen before = some (arr (seen.reverse ++ vs), rest)
  | input, rest, vs, grammar, fuel, before, start, enough, seen => by
      obtain ⟨fuel, rfl⟩ := exists_fuel grammar.length_lt enough
      cases grammar with
      | last value =>
          obtain ⟨b, read, behind⟩ := value_of_padded value (stops_cons (by decide) rest) fuel
            start (by rw [List.length_cons]; omega)
          rw [elements, read]
          dsimp only
          rw [behind, ← List.reverse_cons]
          rfl
      | @more v vs _ c _ value others =>
          have taken := value.length_lt
          have left := others.length_lt
          rw [List.length_cons] at taken
          obtain ⟨b, read, behind⟩ := value_of_padded value (stops_cons (by decide) c) fuel
            start (by rw [List.length_cons]; omega)
          rw [elements, read]
          dsimp only
          rw [behind]
          refine (elements_of_grammar others rfl (by omega) (v :: seen)).trans ?_
          rw [List.reverse_cons, List.append_assoc, List.singleton_append]

theorem members_of_grammar : ∀ {input rest : List UInt16} {pairs : List (Text × Json)},
    Pairs input pairs rest → ∀ {fuel : ℕ} {before : List UInt16}, skip before = skip input →
      2 * input.length ≤ fuel + 2 * rest.length → ∀ seen,
        members fuel seen before = some (obj (Members.override seen pairs), rest)
  | input, rest, pairs, grammar, fuel, before, start, enough, seen => by
      obtain ⟨fuel, rfl⟩ := exists_fuel grammar.length_lt enough
      cases grammar with
      | last name value =>
          have taken := name.length_lt
          obtain ⟨b, read, behind⟩ := value_of_padded value (stops_cons (by decide) rest) fuel
            rfl (by rw [List.length_cons]; omega)
          exact members_of_key name start read (.inr ⟨behind, rfl⟩)
      | @more key v pairs _ a c _ name value others =>
          have taken := name.length_lt
          have inner := value.length_lt
          have left := others.length_lt
          rw [List.length_cons] at inner
          obtain ⟨b, read, behind⟩ := value_of_padded value (stops_cons (by decide) c) fuel
            rfl (by rw [List.length_cons]; omega)
          exact members_of_key name start read (.inl ⟨behind,
            members_of_grammar others rfl (by omega) (Members.insert key v seen)⟩)

end

end Reader

/-- What is read from a text is what it denotes, and a text that denotes nothing is not read. -/
theorem read?_eq_some_iff {t : Text} {json : Json} : read? t = some json ↔ Denotes t json := by
  refine ⟨denotes_of_read?, fun document => ?_⟩
  obtain ⟨b, read, behind⟩ := Reader.value_of_padded document Reader.stops_nil
    (2 * t.units.length + 2) rfl (Nat.le_add_right _ _)
  rw [read?, read]
  exact if_pos (List.isEmpty_iff.mpr behind)

/-- A text denotes one value at most. -/
theorem Denotes.unique {t : Text} {json other : Json} (document : Denotes t json)
    (document' : Denotes t other) : json = other :=
  Option.some.inj ((read?_eq_some_iff.mpr document).symm.trans (read?_eq_some_iff.mpr document'))

end MeterSignals.Json
