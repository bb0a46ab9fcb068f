/-
# The grammar of documents

The grammar is the usual one for JSON, over 16-bit units. Every rule relates an input to what it
spells and to the rest behind it, so the parts of a rule follow one another by the rest of one
being the input of the next. Nothing is said about how far a reader should go: a number may be
followed by anything, also by a digit.

An object is given its members one after the other, so that of two members with one key the later
one counts. A number is the double nearest to the decimal.
-/

import MeterSignals.Json.Reader
import MeterSignals.Proofs.Text.Numeral

namespace MeterSignals.Json

namespace Grammar

open Ascii
open Text (IsDigit IsHexDigit)

/-- Any number of spaces, tabs and line breaks. -/
inductive Blanks : List UInt16 → List UInt16 → Prop
  | none {rest : List UInt16} : Blanks rest rest
  | more {u : UInt16} {input rest : List UInt16}
      (blank : u ∈ [space, tab, lineFeed, carriageReturn]) (others : Blanks input rest) :
      Blanks (u :: input) rest

/-- The letters that may stand behind a backslash, with the units they stand for. -/
def escapes : List (UInt16 × UInt16) :=
  [(quote, quote), (backslash, backslash), (slash, slash), (smallB, 0x08), (smallF, 0x0C),
    (smallN, lineFeed), (smallR, carriageReturn), (smallT, tab)]

/-- One unit of a text, as it is or escaped. -/
inductive Character : List UInt16 → UInt16 → List UInt16 → Prop
  | plain {u : UInt16} {rest : List UInt16} (printable : 0x20 ≤ u) (unquoted : u ≠ quote)
      (unescaped : u ≠ backslash) : Character (u :: rest) u rest
  | letter {v u : UInt16} {rest : List UInt16} (pair : (v, u) ∈ escapes) :
      Character (backslash :: v :: rest) u rest
  | code {a b c d : UInt16} {digits : List ℕ} {rest : List UInt16}
      (spelled : List.Forall₂ IsHexDigit [a, b, c, d] digits) :
      Character (backslash :: smallU :: a :: b :: c :: d :: rest)
        (Nat.ofDigits 16 digits.reverse).toUInt16 rest

/-- The units of a text and its closing quote. -/
inductive Characters : List UInt16 → List UInt16 → List UInt16 → Prop
  | close {rest : List UInt16} : Characters (quote :: rest) [] rest
  | more {input middle rest units : List UInt16} {u : UInt16} (first : Character input u middle)
      (others : Characters middle units rest) : Characters input (u :: units) rest

/-- One decimal digit or more. -/
inductive Digits : List UInt16 → List ℕ → List UInt16 → Prop
  | one {u : UInt16} {digit : ℕ} {rest : List UInt16} (first : IsDigit u digit) :
      Digits (u :: rest) [digit] rest
  | more {u : UInt16} {digit : ℕ} {digits : List ℕ} {input rest : List UInt16}
      (first : IsDigit u digit) (others : Digits input digits rest) :
      Digits (u :: input) (digit :: digits) rest

/-- A point and digits, or nothing. -/
inductive Fraction : List UInt16 → List ℕ → List UInt16 → Prop
  | none {rest : List UInt16} : Fraction rest [] rest
  | point {digits : List ℕ} {input rest : List UInt16} (spelled : Digits input digits rest) :
      Fraction (dot :: input) digits rest

/-- A sign, or nothing. -/
inductive Sign : List UInt16 → ℤ → List UInt16 → Prop
  | none {rest : List UInt16} : Sign rest 1 rest
  | plus {rest : List UInt16} : Sign (Ascii.plus :: rest) 1 rest
  | minus {rest : List UInt16} : Sign (Ascii.minus :: rest) (-1) rest

/-- An exponent of ten, or nothing. -/
inductive Exponent : List UInt16 → ℤ → List UInt16 → Prop
  | none {rest : List UInt16} : Exponent rest 0 rest
  | power {u : UInt16} {sign : ℤ} {digits : List ℕ} {input middle rest : List UInt16}
      (letter : u = smallE ∨ u = capitalE) (signed : Sign input sign middle)
      (spelled : Digits middle digits rest) :
      Exponent (u :: input) (sign * (Nat.ofDigits 10 digits.reverse : ℕ)) rest

/-- A decimal without a sign: a coefficient and a power of ten. Only a single digit before the
point may be a zero in front. -/
inductive Decimal : List UInt16 → ℕ → ℤ → List UInt16 → Prop
  | mk {whole digits : List ℕ} {exponent : ℤ} {input a b rest : List UInt16}
      (integral : Digits input whole a) (leading : whole.head? = some 0 → whole = [0])
      (fractional : Fraction a digits b) (scaled : Exponent b exponent rest) :
      Decimal input (Nat.ofDigits 10 (whole ++ digits).reverse) (exponent - digits.length) rest

/-- The key of a member and the colon behind it. -/
inductive Key : List UInt16 → Text → List UInt16 → Prop
  | mk {input a b rest units : List UInt16} (before : Blanks input (quote :: a))
      (spelled : Characters a units b) (behind : Blanks b (colon :: rest)) :
      Key input ⟨units⟩ rest

mutual

/-- A value. -/
inductive Value : List UInt16 → Json → List UInt16 → Prop
  | null {rest : List UInt16} : Value (("null" : Text).units ++ rest) .null rest
  | true {rest : List UInt16} : Value (("true" : Text).units ++ rest) (.bool .true) rest
  | false {rest : List UInt16} : Value (("false" : Text).units ++ rest) (.bool .false) rest
  | number {coefficient : ℕ} {power : ℤ} {input rest : List UInt16}
      (decimal : Decimal input coefficient power rest) :
      Value input (.num (Number.nearest coefficient power)) rest
  | negative {coefficient : ℕ} {power : ℤ} {input rest : List UInt16}
      (decimal : Decimal input coefficient power rest) :
      Value (minus :: input) (.num (-Number.nearest coefficient power)) rest
  | text {input rest units : List UInt16} (spelled : Characters input units rest) :
      Value (quote :: input) (.str ⟨units⟩) rest
  | emptyList {input rest : List UInt16} (blanks : Blanks input (closeBracket :: rest)) :
      Value (openBracket :: input) (.arr []) rest
  | list {vs : List Json} {input rest : List UInt16} (elements : Elements input vs rest) :
      Value (openBracket :: input) (.arr vs) rest
  | emptyObject {input rest : List UInt16} (blanks : Blanks input (closeBrace :: rest)) :
      Value (openBrace :: input) (.obj []) rest
  | object {pairs : List (Text × Json)} {input rest : List UInt16}
      (members : Pairs input pairs rest) :
      Value (openBrace :: input) (.obj (Members.override [] pairs)) rest

/-- A value between blanks. -/
inductive Padded : List UInt16 → Json → List UInt16 → Prop
  | mk {v : Json} {input a b rest : List UInt16} (before : Blanks input a) (value : Value a v b)
      (behind : Blanks b rest) : Padded input v rest

/-- The elements of a list and its closing bracket. -/
inductive Elements : List UInt16 → List Json → List UInt16 → Prop
  | last {v : Json} {input rest : List UInt16} (value : Padded input v (closeBracket :: rest)) :
      Elements input [v] rest
  | more {v : Json} {vs : List Json} {input middle rest : List UInt16}
      (value : Padded input v (comma :: middle)) (others : Elements middle vs rest) :
      Elements input (v :: vs) rest

/-- The members of an object and its closing brace. -/
inductive Pairs : List UInt16 → List (Text × Json) → List UInt16 → Prop
  | last {key : Text} {v : Json} {input a rest : List UInt16} (name : Key input key a)
      (value : Padded a v (closeBrace :: rest)) : Pairs input [(key, v)] rest
  | more {key : Text} {v : Json} {pairs : List (Text × Json)} {input a b rest : List UInt16}
      (name : Key input key a) (value : Padded a v (comma :: b)) (others : Pairs b pairs rest) :
      Pairs input ((key, v) :: pairs) rest

end

section Blanks

variable {input a rest : List UInt16} (blanks : Blanks input a)

include blanks

/-- Blanks behind blanks. -/
theorem Blanks.trans (others : Blanks a rest) : Blanks input rest := by
  induction blanks with
  | none => exact others
  | more blank _ ih => exact .more blank (ih others)

theorem Padded.behind {v : Json} (value : Padded a v rest) : Padded input v rest := by
  obtain ⟨before, value, behind⟩ := value
  exact .mk (blanks.trans before) value behind

theorem Key.behind {key : Text} (name : Key a key rest) : Key input key rest := by
  obtain ⟨before, spelled, behind⟩ := name
  exact .mk (blanks.trans before) spelled behind

/-- More blanks may stand in front of the elements of a list. -/
theorem Elements.behind {vs : List Json} (elements : Elements a vs rest) :
    Elements input vs rest := by
  cases elements with
  | last value => exact .last (value.behind blanks)
  | more value others => exact .more (value.behind blanks) others

/-- More blanks may stand in front of the members of an object. -/
theorem Pairs.behind {pairs : List (Text × Json)} (members : Pairs a pairs rest) :
    Pairs input pairs rest := by
  cases members with
  | last name value => exact .last (name.behind blanks) value
  | more name value others => exact .more (name.behind blanks) value others

end Blanks

section Lengths

variable {input rest : List UInt16}

theorem Blanks.length_le (blanks : Blanks input rest) : rest.length ≤ input.length := by
  induction blanks with
  | none => exact Nat.le_refl _
  | more _ _ ih => exact Nat.le_succ_of_le ih

theorem Characters.length_lt {units : List UInt16} (spelled : Characters input units rest) :
    rest.length < input.length := by
  induction spelled with
  | close => exact Nat.lt_succ_self _
  | more first _ ih => cases first <;> simp only [List.length_cons] at ih ⊢ <;> omega

theorem Digits.length_lt {digits : List ℕ} (spelled : Digits input digits rest) :
    rest.length < input.length := by
  induction spelled with
  | one _ => exact Nat.lt_succ_self _
  | more _ _ ih => exact Nat.lt_succ_of_lt ih

theorem Fraction.length_le {digits : List ℕ} (fractional : Fraction input digits rest) :
    rest.length ≤ input.length := by
  cases fractional with
  | none => exact Nat.le_refl _
  | point spelled => exact Nat.le_succ_of_le spelled.length_lt.le

theorem Sign.length_le {sign : ℤ} (signed : Sign input sign rest) :
    rest.length ≤ input.length := by
  cases signed with
  | none => exact Nat.le_refl _
  | plus => exact Nat.le_succ _
  | minus => exact Nat.le_succ _

theorem Exponent.length_le {n : ℤ} (scaled : Exponent input n rest) :
    rest.length ≤ input.length := by
  cases scaled with
  | none => exact Nat.le_refl _
  | power _ signed spelled =>
      exact Nat.le_succ_of_le (spelled.length_lt.le.trans signed.length_le)

theorem Decimal.length_lt {coefficient : ℕ} {n : ℤ} (decimal : Decimal input coefficient n rest) :
    rest.length < input.length := by
  obtain ⟨integral, -, fractional, scaled⟩ := decimal
  exact (scaled.length_le.trans fractional.length_le).trans_lt integral.length_lt

theorem Key.length_lt {key : Text} (name : Key input key rest) : rest.length < input.length := by
  obtain ⟨before, spelled, behind⟩ := name
  have first := before.length_le
  have last := behind.length_le
  have inner := spelled.length_lt
  rw [List.length_cons] at first last
  omega

end Lengths

mutual

/-- A value takes at least one unit of the input. -/
theorem Value.length_lt : ∀ {input rest : List UInt16} {v : Json}, Value input v rest →
    rest.length < input.length
  | _, _, _, .null => by rw [List.length_append]; exact Nat.lt_add_of_pos_left (by decide)
  | _, _, _, .true => by rw [List.length_append]; exact Nat.lt_add_of_pos_left (by decide)
  | _, _, _, .false => by rw [List.length_append]; exact Nat.lt_add_of_pos_left (by decide)
  | _, _, _, .number decimal => decimal.length_lt
  | _, _, _, .negative decimal => Nat.lt_succ_of_lt decimal.length_lt
  | _, _, _, .text spelled => Nat.lt_succ_of_lt spelled.length_lt
  | _, _, _, .emptyList blanks => Nat.lt_succ_of_lt blanks.length_le
  | _, _, _, .list elements => Nat.lt_succ_of_lt (Elements.length_lt elements)
  | _, _, _, .emptyObject blanks => Nat.lt_succ_of_lt blanks.length_le
  | _, _, _, .object members => Nat.lt_succ_of_lt (Pairs.length_lt members)

theorem Padded.length_lt : ∀ {input rest : List UInt16} {v : Json}, Padded input v rest →
    rest.length < input.length
  | _, _, _, .mk before value behind =>
      (behind.length_le.trans_lt (Value.length_lt value)).trans_le before.length_le

theorem Elements.length_lt : ∀ {input rest : List UInt16} {vs : List Json},
    Elements input vs rest → rest.length < input.length
  | _, _, _, .last value => Nat.lt_of_succ_lt (Padded.length_lt value)
  | _, _, _, .more value others =>
      (Elements.length_lt others).trans (Nat.lt_of_succ_lt (Padded.length_lt value))

theorem Pairs.length_lt : ∀ {input rest : List UInt16} {pairs : List (Text × Json)},
    Pairs input pairs rest → rest.length < input.length
  | _, _, _, .last name value => (Nat.lt_of_succ_lt (Padded.length_lt value)).trans name.length_lt
  | _, _, _, .more name value others =>
      ((Pairs.length_lt others).trans (Nat.lt_of_succ_lt (Padded.length_lt value))).trans
        name.length_lt

end

/-- The values of an object are values of the grammar. -/
theorem Pairs.exists_value : ∀ {input rest : List UInt16} {pairs : List (Text × Json)},
    Pairs input pairs rest → ∀ {key : Text} {v : Json}, (key, v) ∈ pairs → ∃ a b, Value a v b
  | _, _, _, .last _ (.mk _ value _), key, v, member => by
      obtain rfl : v = _ := (Prod.mk.inj (List.mem_singleton.mp member)).2
      exact ⟨_, _, value⟩
  | _, _, _, .more _ (.mk _ value _) others, key, v, member => by
      rcases List.mem_cons.mp member with same | later
      · obtain rfl : v = _ := (Prod.mk.inj same).2
        exact ⟨_, _, value⟩
      · exact others.exists_value later

end Grammar

/-- The text is a value between blanks, and nothing else. -/
def Denotes (t : Text) (json : Json) : Prop := Grammar.Padded t.units json []

/-- Of the members with one key the last one counts. -/
theorem Members.lookup_override (members later : Members) (key : Text) :
    (override members later).lookup key = (later.reverse.lookup key).or (members.lookup key) := by
  induction later using List.reverseRecOn with
  | nil => rfl
  | append_singleton later last ih =>
      obtain ⟨k, v⟩ := last
      rw [override, List.foldl_append, List.foldl_cons, List.foldl_nil, List.reverse_append,
        List.reverse_singleton, List.singleton_append, List.lookup_cons]
      by_cases same : key = k
      · rw [same, lookup_insert_self, beq_self_eq_true]
        rfl
      · rw [lookup_insert_of_ne same, beq_eq_false_iff_ne.mpr same]
        exact ih

/-- The members of a document are values of the grammar. -/
theorem Denotes.exists_value {t : Text} {frame : Members} (document : Denotes t (.obj frame))
    {key : Text} {v : Json} (found : frame.lookup key = some v) :
    ∃ a b, Grammar.Value a v b := by
  obtain ⟨-, value, -⟩ := document
  cases value with
  | emptyObject _ => cases found
  | @object pairs _ _ members =>
      rw [Members.lookup_override, Option.or_eq_some_iff] at found
      have last := found.resolve_right fun none => nomatch none.2
      obtain ⟨front, back, split, -⟩ := List.lookup_eq_some_iff.mp last
      have member : (key, v) ∈ pairs.reverse := by
        rw [split]
        exact List.mem_append_right front List.mem_cons_self
      exact members.exists_value (List.mem_reverse.mp member)

end MeterSignals.Json
