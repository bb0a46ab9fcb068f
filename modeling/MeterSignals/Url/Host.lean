/-
# Hosts of addresses

The host of an address is a name, four numbers with dots between them, or eight groups of
hexadecimal digits in brackets. Schemes without rules of their own take almost any name.
-/

import MeterSignals.Text.Utf8
import MeterSignals.Url.Name.Basic

namespace MeterSignals.Url

/-- The code points that no host may contain. -/
def isForbiddenInHost (c : Nat) : Bool :=
  [0x00, 0x09, 0x0A, 0x0D, 0x20, 0x23, 0x2F, 0x3A, 0x3C, 0x3E, 0x3F, 0x40, 0x5B, 0x5C, 0x5D,
    0x5E, 0x7C].contains c

/-- The ASCII code points that no host name may contain: controls and the percent sign as
well. -/
def isForbiddenInName (c : Nat) : Bool :=
  isForbiddenInHost c || c ≤ 0x1F || c == 0x25 || c == 0x7F

/-- Value of a code point as a hexadecimal digit. -/
def hexDigit? (c : Nat) : Option Nat := if c < 0x80 then Text.hexDigit? c.toUInt16 else none

/-- Whether a code point is an ASCII decimal digit. -/
def isDigit (c : Nat) : Bool := 0x30 ≤ c && c ≤ 0x39

/-- Bytes of code points in which `%` and two hexadecimal digits stand for one byte. -/
def percentDecoded : List Nat → List UInt8
  | 0x25 :: a :: b :: rest =>
    match hexDigit? a, hexDigit? b with
    | some high, some low => (high * 16 + low).toUInt8 :: percentDecoded rest
    | _, _ => 0x25 :: percentDecoded (a :: b :: rest)
  | c :: rest => Text.utf8OfCodePoint c ++ percentDecoded rest
  | [] => []

/-- The code points of UTF-8 bytes. -/
def decoded (bytes : List UInt8) : List Nat :=
  let (reader, points) := bytes.foldl (fun (reader, points) b =>
    let (next, new) := Utf8Reader.step reader b
    (next, new.reverse ++ points)) (Utf8Reader.fresh, [])
  points.reverse ++ reader.finish

/-- A number of an address of four parts: hexadecimal behind `0x`, octal behind `0`, else
decimal. Nothing behind a prefix is zero. -/
def part? (digits : List Nat) : Option Nat :=
  match digits with
  | [] => none
  | 0x30 :: 0x78 :: rest => inBase 16 rest
  | 0x30 :: c :: rest => inBase 8 (c :: rest)
  | digits => inBase 10 digits
where
  /-- The number of digits that are all below the base. -/
  inBase (base : Nat) (digits : List Nat) : Option Nat := do
    let values ← digits.mapM hexDigit?
    if values.all (· < base) then some (Text.valueOfDigits base values) else none

/-- The parts of a name between its dots; one dot at the end does not count. -/
def parts (name : List Nat) : List (List Nat) :=
  let parts := split 0x2E name
  if 1 < parts.length && parts.getLast? == some [] then parts.dropLast else parts

/-- Whether a name has to be an address of four numbers: its last part is a number. -/
def endsInNumber (name : List Nat) : Bool :=
  match (parts name).getLast? with
  | some last => !last.isEmpty && (last.all isDigit || (part? last).isSome)
  | none => false

/-- Whether the parts of a name make an address of at most four numbers. -/
def isFourPart (name : List Nat) : Bool :=
  let parts := parts name
  match parts.mapM part? with
  | some numbers =>
    parts.length ≤ 4 && numbers.dropLast.all (· ≤ 255) &&
      numbers.getLastD 0 < Nat.pow 256 (5 - parts.length)
  | none => false

/-- Whether a name can be a host of a scheme with hosts of its own. -/
def isName (host : List Nat) : Bool :=
  match Name.folded? (decoded (percentDecoded host)) with
  | some name =>
    !name.isEmpty && !name.any isForbiddenInName && (!endsInNumber name || isFourPart name)
  | none => false

/-- Whether a part of an address of groups is four plain decimal numbers. -/
def isEmbedded (digits : List Nat) : Bool :=
  let numbers := split 0x2E digits
  numbers.length == 4 && numbers.all fun n =>
    !n.isEmpty && n.all isDigit && (n.length == 1 || n.head? != some 0x30) &&
      Text.valueOfDigits 10 (n.map (· - 0x30)) ≤ 255

/-- Whether a part is a group of one to four hexadecimal digits. -/
def isGroup (digits : List Nat) : Bool :=
  !digits.isEmpty && digits.length ≤ 4 && digits.all fun c => (hexDigit? c).isSome

/-- How many groups the parts between the colons of one side make up; four decimal
numbers at the very end count for two. -/
def groupCount? (last : Bool) : List (List Nat) → Option Nat
  | [] => some 0
  | [part] =>
    if isGroup part then some 1 else if last && isEmbedded part then some 2 else none
  | part :: rest => if isGroup part then (groupCount? last rest).map (· + 1) else none

/-- The groups of one side of a double colon, which may be empty. -/
def sideCount? (last : Bool) (side : List Nat) : Option Nat :=
  if side.isEmpty then some 0 else groupCount? last (split 0x3A side)

/-- The text before and behind the first double colon. -/
def doubleColon? : List Nat → Option (List Nat × List Nat)
  | 0x3A :: 0x3A :: rest => some ([], rest)
  | c :: rest => (doubleColon? rest).map fun (before, behind) => (c :: before, behind)
  | [] => none

/-- Whether a text between brackets is an address of eight groups, of which a double colon
may stand for one or more that are zero. -/
def isGroupAddress (address : List Nat) : Bool :=
  match doubleColon? address with
  | some (before, behind) =>
    match sideCount? false before, sideCount? true behind with
    | some m, some n => m + n ≤ 7
    | _, _ => false
  | none => groupCount? true (split 0x3A address) == some 8

/-- Whether a text can be a host. `special` schemes have hosts of their own. -/
def isHost (special : Bool) (host : List Nat) : Bool :=
  match host with
  | 0x5B :: rest => rest.getLast? == some 0x5D && isGroupAddress rest.dropLast
  | host => if special then isName host else !host.any isForbiddenInHost

end MeterSignals.Url
