/-
# Reading JSON

The grammar is the strict one: one value with nothing but blanks around it, no leading
zeros, no bare control characters in texts, no comma behind a last element. Of two
members with one key the later one counts. Escapes may name half of a surrogate pair.

Each call of the reader passes on less fuel than it got. A reader step between two
values takes at least one unit, so twice the length of the input is always enough.
-/

import MeterSignals.Json.Basic
import MeterSignals.Number.Decimal
import MeterSignals.Text.Ascii

namespace MeterSignals.Json

namespace Reader

open Ascii

/-- What is left of the input after a construct has been read. -/
abbrev Rest := List UInt16

/-- Space, tab and the two line breaks separate the parts of a document. -/
def isSeparator (u : UInt16) : Bool :=
  u == space || u == tab || u == lineFeed || u == carriageReturn

/-- The input without the blanks in front. -/
def skip (input : List UInt16) : Rest := input.dropWhile isSeparator

/-- The unit that stands for a letter behind a backslash. -/
def escaped? : UInt16 → Option UInt16
  | quote => some quote
  | backslash => some backslash
  | slash => some slash
  | smallB => some 0x08
  | smallF => some 0x0C
  | smallN => some lineFeed
  | smallR => some carriageReturn
  | smallT => some tab
  | _ => none

/-- The unit with the given four hexadecimal digits. -/
def unit? (a b c d : UInt16) : Option UInt16 := do
  let digits := [← Text.hexDigit? a, ← Text.hexDigit? b, ← Text.hexDigit? c, ← Text.hexDigit? d]
  return (Text.valueOfDigits 16 digits).toUInt16

/-- The rest of a text behind its opening quote; `seen` holds its units so far, the last
one first. -/
def string (seen : List UInt16) : List UInt16 → Option (Text × Rest)
  | [] => none
  | quote :: rest => some (⟨seen.reverse⟩, rest)
  | backslash :: smallU :: a :: b :: c :: d :: rest =>
    match unit? a b c d with
    | some u => string (u :: seen) rest
    | none => none
  | backslash :: u :: rest =>
    match escaped? u with
    | some v => string (v :: seen) rest
    | none => none
  | u :: rest => if u < 0x20 then none else string (u :: seen) rest

/-- The digits behind a decimal point; without a point there are none. -/
def fraction : List UInt16 → Option (List Nat × Rest)
  | dot :: rest =>
    match Number.takeDigits rest with
    | ([], _) => none
    | (digits, rest) => some (digits, rest)
  | rest => some ([], rest)

/-- The digits of an exponent as a number; there has to be one. -/
def exponentDigits (input : List UInt16) : Option (Nat × Rest) :=
  match Number.takeDigits input with
  | ([], _) => none
  | (digits, rest) => some (Text.valueOfDigits 10 digits, rest)

/-- An exponent with its sign; without the letter `e` it is zero. -/
def exponent : List UInt16 → Option (Int × Rest)
  | smallE :: rest | capitalE :: rest =>
    match rest with
    | minus :: rest => (exponentDigits rest).map fun (n, rest) => (-(n : Int), rest)
    | plus :: rest => (exponentDigits rest).map fun (n, rest) => (n, rest)
    | rest => (exponentDigits rest).map fun (n, rest) => (n, rest)
  | rest => some (0, rest)

/-- A number without its sign. -/
def magnitude (input : List UInt16) : Option (Float × Rest) := do
  let (whole, rest) := Number.takeDigits input
  match whole with
  | [] | 0 :: _ :: _ => none
  | _ =>
    let (digits, rest) ← fraction rest
    let (power, rest) ← exponent rest
    return (Number.ofDecimal whole digits power, rest)

/-- A number. -/
def number : List UInt16 → Option (Json × Rest)
  | minus :: rest => (magnitude rest).map fun (x, rest) => (num (-x), rest)
  | rest => (magnitude rest).map fun (x, rest) => (num x, rest)

/-- The rest of the input behind a word, if it starts with that word. -/
def word? (word : Text) (input : List UInt16) : Option Rest :=
  if word.units.isPrefixOf input then some (input.drop word.units.length) else none

/-- A value that is neither an object nor a list nor a text. -/
def scalar (input : List UInt16) : Option (Json × Rest) :=
  match word? "null" input, word? "true" input, word? "false" input with
  | some rest, _, _ => some (null, rest)
  | _, some rest, _ => some (bool true, rest)
  | _, _, some rest => some (bool false, rest)
  | none, none, none => number input

mutual

/-- A value, with blanks allowed in front. -/
def value : (fuel : Nat) → List UInt16 → Option (Json × Rest)
  | 0, _ => none
  | fuel + 1, input =>
    match skip input with
    | openBrace :: rest =>
      match skip rest with
      | closeBrace :: rest => some (obj [], rest)
      | rest => members fuel [] rest
    | openBracket :: rest =>
      match skip rest with
      | closeBracket :: rest => some (arr [], rest)
      | rest => elements fuel [] rest
    | quote :: rest => (string [] rest).map fun (t, rest) => (str t, rest)
    | rest => scalar rest

/-- The elements of a list up to its closing bracket; `seen` holds the earlier ones, the
last one first. -/
def elements : (fuel : Nat) → (seen : List Json) → List UInt16 → Option (Json × Rest)
  | 0, _, _ => none
  | fuel + 1, seen, input =>
    match value fuel input with
    | none => none
    | some (v, rest) =>
      match skip rest with
      | comma :: rest => elements fuel (v :: seen) rest
      | closeBracket :: rest => some (arr (v :: seen).reverse, rest)
      | _ => none

/-- The members of an object up to its closing brace; `seen` holds the earlier ones. -/
def members : (fuel : Nat) → (seen : Members) → List UInt16 → Option (Json × Rest)
  | 0, _, _ => none
  | fuel + 1, seen, input =>
    match skip input with
    | quote :: rest =>
      match string [] rest with
      | none => none
      | some (key, rest) =>
        match skip rest with
        | colon :: rest =>
          match value fuel rest with
          | none => none
          | some (v, rest) =>
            match skip rest with
            | comma :: rest => members fuel (Members.insert key v seen) rest
            | closeBrace :: rest => some (obj (Members.insert key v seen), rest)
            | _ => none
        | _ => none
    | _ => none

end

end Reader

/-- The value that a text denotes, if it is a JSON document. -/
def read? (t : Text) : Option Json :=
  match Reader.value (2 * t.units.length + 2) t.units with
  | some (v, rest) => if (Reader.skip rest).isEmpty then some v else none
  | none => none

end MeterSignals.Json
