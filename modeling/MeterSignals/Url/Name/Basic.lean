/-
# International host names

A host name is a row of parts with dots between them. It counts in its folded form, in
which every code point has become what it stands for and marks are composed with their
letters. A part beyond ASCII has to be in order by itself: no mark at its start, joiners
where they make a difference, and one order of reading; and it can be written in ASCII. A
part with an encoding mark stands for one beyond ASCII that has to be in order and folded.
-/

import MeterSignals.Url.Name.Direction
import MeterSignals.Url.Name.Joining
import MeterSignals.Url.Name.Mapping
import MeterSignals.Url.Name.Punycode

namespace MeterSignals.Url.Name

/-- Whether a part of a name is in order by itself. A joiner decides alone. -/
def isOrderly (part : List Nat) : Bool :=
  match part with
  | [] => false
  | first :: _ => !isMark first && (joinerFits? [] part).getD (isReadable part)

/-- Whether what stands behind an encoding mark is a folded part that is in order. -/
def isEncoded (text : List Nat) : Bool :=
  match Punycode.decode? text with
  | some part => images? part == some part && composed part == part && isOrderly part
  | none => false

/-- Whether a folded part can be one of a name. It may be empty. -/
def isPart (part : List Nat) : Bool :=
  let plain := part.all (· < 0x80)
  match part with
  | 0x78 :: 0x6E :: 0x2D :: 0x2D :: text => plain && isEncoded text
  | part => plain || (isOrderly part && Punycode.isWritable part)

/-- The folded form of a name; none if a code point is refused or a part cannot be one. -/
def folded? (name : List Nat) : Option (List Nat) := do
  let points := composed (← images? name)
  if (split 0x2E points).all isPart then some points else none

end MeterSignals.Url.Name
