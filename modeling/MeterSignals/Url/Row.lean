/-
# Rows of tables of code points

What is known of code points is written down in tables. A row of a table is one code point
or a span of them: all between its ends, with a hyphen or an equals sign between these, or
every second one of them, with a slash. Behind a colon may stand the code points, joined by
plus signs, for which the first one of the row stands. The others of the row stand for
those at the same distance from them or, with an equals sign, for the same ones. All
numbers are hexadecimal.
-/

import MeterSignals.Text.Basic

namespace MeterSignals.Url

/-- The parts of a list between the separators. -/
def split {α : Type} [DecidableEq α] (separator : α) : List α → List (List α)
  | [] => [[]]
  | c :: rest =>
    if c = separator then [] :: split separator rest
    else
      match split separator rest with
      | part :: parts => (c :: part) :: parts
      | [] => [[c]]

/-- What the code points of a span have in common. -/
inductive Span
  /-- All of the span, each with an image of its own. -/
  | every
  /-- Every second one of the span, each with an image of its own. -/
  | alternate
  /-- All of the span, with one image. -/
  | alike

/-- A row of a table of code points. -/
structure Row where
  low : Nat
  high : Nat
  span : Span
  /-- What the first code point of the row stands for. -/
  image : List Nat

namespace Row

/-- Whether a code point belongs to a row. -/
def holds (row : Row) (c : Nat) : Bool :=
  row.low ≤ c && c ≤ row.high &&
    match row.span with
    | .alternate => (c - row.low) % 2 == 0
    | .every | .alike => true

/-- What a code point of a row stands for. -/
def imageOf (row : Row) (c : Nat) : List Nat :=
  match row.span with
  | .every | .alternate => row.image.map (· + (c - row.low))
  | .alike => row.image

/-- The number that hexadecimal digits denote. -/
def readNumber (digits : List Char) : Nat :=
  Text.valueOfDigits 16 (digits.filterMap fun c => Text.hexDigit? c.toNat.toUInt16)

/-- Read the ends of a row. -/
def readEnds (ends : List Char) (image : List Nat) : Row :=
  match split '-' ends, split '/' ends, split '=' ends with
  | [low, high], _, _ => ⟨readNumber low, readNumber high, .every, image⟩
  | _, [low, high], _ => ⟨readNumber low, readNumber high, .alternate, image⟩
  | _, _, [low, high] => ⟨readNumber low, readNumber high, .alike, image⟩
  | _, _, _ => ⟨readNumber ends, readNumber ends, .every, image⟩

/-- Read a row. -/
def read (row : List Char) : Row :=
  match split ':' row with
  | [ends, image] => readEnds ends ((split '+' image).map readNumber)
  | _ => readEnds row []

/-- Read the lines of a table; blanks stand between the rows of a line. -/
def readAll (lines : List String) : List Row :=
  lines.flatMap fun line => (split ' ' line.toList).map read

/-- Whether a code point belongs to any of the rows. -/
def anyHolds (rows : List Row) (c : Nat) : Bool := rows.any (·.holds c)

/-- What a code point stands for by the first row to which it belongs. -/
def image? (rows : List Row) (c : Nat) : Option (List Nat) :=
  (rows.find? (·.holds c)).map (·.imageOf c)

end Row

end MeterSignals.Url
