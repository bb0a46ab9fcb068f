/-
# Writing JSON documents

A document is written without blanks and in ASCII: every unit outside the printable range
is an escape, so that a surrogate that stands alone keeps its place. Numbers that have no
written form are null.
-/

import MeterSignals.Json.Basic
import MeterSignals.Text.Ascii

namespace MeterSignals.Json

/-- The digit of a value below sixteen, in lower case. -/
def hexUnit (value : Nat) : UInt16 :=
  if value < 10 then Ascii.zero + value.toUInt16 else 0x61 + (value - 10).toUInt16

/-- One unit inside quotes. -/
def quotedUnit (u : UInt16) : List UInt16 :=
  if u = Ascii.quote || u = Ascii.backslash then [Ascii.backslash, u]
  else if 0x20 ≤ u && u < 0x7F then [u]
  else
    let n := u.toNat
    [Ascii.backslash, Ascii.smallU, hexUnit (n / 0x1000), hexUnit (n / 0x100 % 16),
      hexUnit (n / 16 % 16), hexUnit (n % 16)]

/-- A text between quotes. -/
def quoted (t : Text) : Text :=
  ⟨Ascii.quote :: (t.units.flatMap quotedUnit ++ [Ascii.quote])⟩

/-- The written form of a number. -/
def writtenNumber (x : Float) : Text := if x.isFinite then Number.text x else "null"

mutual

/-- The written form of a value. -/
def written : Json → Text
  | null => "null"
  | bool true => "true"
  | bool false => "false"
  | num x => writtenNumber x
  | str t => quoted t
  | arr elements => "[" ++ Text.join "," (writtenElements elements) ++ "]"
  | obj members => "\x7b" ++ Text.join "," (writtenMembers members) ++ "\x7d"

/-- The written forms of the elements of a list. -/
def writtenElements : List Json → List Text
  | [] => []
  | v :: rest => written v :: writtenElements rest

/-- The written forms of the members of an object. -/
def writtenMembers : List (Text × Json) → List Text
  | [] => []
  | (key, v) :: rest => (quoted key ++ ":" ++ written v) :: writtenMembers rest

end

end MeterSignals.Json
