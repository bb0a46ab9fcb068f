/-
# Absolute addresses

An address starts with a scheme. Some schemes are special: what follows always names a
host, however many slashes stand in front of it. For every other scheme a host comes only
behind two slashes. Paths, queries and fragments are never at fault.
-/

import MeterSignals.Url.Host

namespace MeterSignals.Url

/-- Whether a code point is an ASCII letter. -/
def isLetter (c : Nat) : Bool := (0x41 ≤ c && c ≤ 0x5A) || (0x61 ≤ c && c ≤ 0x7A)

/-- Whether a code point may stand in a scheme behind the first letter. -/
def isSchemePart (c : Nat) : Bool := isLetter c || isDigit c || [0x2B, 0x2D, 0x2E].contains c

/-- An address without the blanks and controls at its ends and without tabs and line
breaks anywhere. -/
def cleaned (t : Text) : List Nat :=
  let trimmed := ((t.codePoints.dropWhile (· ≤ 0x20)).reverse.dropWhile (· ≤ 0x20)).reverse
  trimmed.filter fun c => !([0x09, 0x0A, 0x0D].contains c)

/-- The scheme in lower case, and what follows its colon. -/
def scheme? (address : List Nat) : Option (List Nat × List Nat) :=
  match address with
  | [] => none
  | first :: _ =>
    if isLetter first then
      match address.dropWhile isSchemePart with
      | 0x3A :: rest =>
        let lower := fun c => if 0x41 ≤ c && c ≤ 0x5A then c + 0x20 else c
        some ((address.takeWhile isSchemePart).map lower, rest)
      | _ => none
    else none

/-- The code points of a word. -/
def word (w : Text) : List Nat := w.codePoints

/-- The schemes that always name a host, apart from `file`. -/
def specialSchemes : List (List Nat) :=
  [word "http", word "https", word "ws", word "wss", word "ftp"]

/-- Whether a code point ends the host of an address. -/
def endsHost (special : Bool) (c : Nat) : Bool :=
  c == 0x2F || c == 0x3F || c == 0x23 || (special && c == 0x5C)

/-- The part behind the last commercial at, and whether there is one. -/
def withoutCredentials (authority : List Nat) : List Nat × Bool :=
  let reversed := authority.reverse
  ((reversed.takeWhile (· != 0x40)).reverse, reversed.any (· == 0x40))

/-- The host in front of the first colon outside brackets, and the port behind it. -/
def hostAndPort : (inside : Bool) → List Nat → List Nat × Option (List Nat)
  | _, [] => ([], none)
  | inside, c :: rest =>
    if c == 0x3A && !inside then ([], some rest)
    else
      let inside := if c == 0x5B then true else if c == 0x5D then false else inside
      let (host, port) := hostAndPort inside rest
      (c :: host, port)

/-- Whether digits are a port; a port may be left out behind its colon. -/
def isPort (port : List Nat) : Bool :=
  port.all isDigit && Text.valueOfDigits 10 (port.map (· - 0x30)) ≤ 65535

/-- Whether a text is a host with a port and credentials as wanted. -/
def isAuthority (special : Bool) (authority : List Nat) : Bool :=
  let (location, credentials) := withoutCredentials authority
  if location.isEmpty then !special && !credentials
  else
    match hostAndPort false location with
    | (host, some port) => !host.isEmpty && isHost special host && isPort port
    | (host, none) => isHost special host

/-- Whether a text names the volume of a disk, such as `C:` or `C|`. -/
def isVolume : List Nat → Bool
  | [letter, mark] => isLetter letter && (mark == 0x3A || mark == 0x7C)
  | _ => false

/-- Whether the rest of an address behind `file:` is in order. -/
def isFileRest (rest : List Nat) : Bool :=
  match rest with
  | a :: b :: rest =>
    if (a == 0x2F || a == 0x5C) && (b == 0x2F || b == 0x5C) then
      let host := rest.takeWhile fun c => !endsHost true c
      host.isEmpty || isVolume host || isHost true host
    else true
  | _ => true

/-- Whether a text is an absolute address. -/
def isAbsolute (t : Text) : Bool :=
  match scheme? (cleaned t) with
  | none => false
  | some (scheme, rest) =>
    if scheme == word "file" then isFileRest rest
    else if specialSchemes.contains scheme then
      let rest := rest.dropWhile fun c => c == 0x2F || c == 0x5C
      isAuthority true (rest.takeWhile fun c => !endsHost true c)
    else
      match rest with
      | 0x2F :: 0x2F :: rest => isAuthority false (rest.takeWhile fun c => !endsHost false c)
      | _ => true

end MeterSignals.Url
