/-
# Text

Everything that is read, compared and written here is a text of 16-bit code units.
A character outside the basic plane takes two units, a high and a low surrogate, and
an escape inside a document may name one of them alone. Such a half has no place in a
`String`, so `Text` keeps the units themselves. String literals are read as texts.
-/

namespace MeterSignals

/-- A text, as the list of its 16-bit code units. -/
structure Text where
  units : List UInt16
  deriving DecidableEq, Inhabited

namespace Text

/-- The empty text. -/
def empty : Text := ⟨[]⟩

/-- Whether a text has no unit at all. -/
def isEmpty (t : Text) : Bool := t.units.isEmpty

/-- Whether a unit is the first half of a pair. -/
def isHighSurrogate (u : UInt16) : Bool := 0xD800 ≤ u && u < 0xDC00

/-- Whether a unit is the second half of a pair. -/
def isLowSurrogate (u : UInt16) : Bool := 0xDC00 ≤ u && u < 0xE000

/-- The units of the character with code point `c`: one in the basic plane, else a pair. -/
def unitsOfCodePoint (c : Nat) : List UInt16 :=
  if c < 0x10000 then [c.toUInt16]
  else [(0xD800 + (c - 0x10000) / 0x400).toUInt16, (0xDC00 + (c - 0x10000) % 0x400).toUInt16]

/-- The code point that a high and a low surrogate denote together. -/
def codePointOfPair (high low : UInt16) : Nat :=
  0x10000 + (high.toNat - 0xD800) * 0x400 + (low.toNat - 0xDC00)

/-- The text of a list of characters. -/
def ofChars (cs : List Char) : Text := ⟨cs.flatMap fun c => unitsOfCodePoint c.toNat⟩

/-- The text of a string. -/
def ofString (s : String) : Text := ofChars s.toList

instance : Coe String Text := ⟨ofString⟩

instance : Append Text := ⟨fun s t => ⟨s.units ++ t.units⟩⟩

/-- The texts of a list one after the other, with `separator` between neighbours. -/
def join (separator : Text) : List Text → Text
  | [] => empty
  | [t] => t
  | t :: ts => t ++ separator ++ join separator ts

/-- The code points of a text. A surrogate that stands alone counts as U+FFFD. -/
def codePoints (t : Text) : List Nat :=
  go t.units
where
  /-- Pairs are taken together, from the front. -/
  go : List UInt16 → List Nat
    | [] => []
    | [u] => [alone u]
    | u :: v :: rest =>
      if isHighSurrogate u && isLowSurrogate v then codePointOfPair u v :: go rest
      else alone u :: go (v :: rest)
  /-- A unit outside any pair. -/
  alone (u : UInt16) : Nat :=
    if isHighSurrogate u || isLowSurrogate u then 0xFFFD else u.toNat

/-- The text as a string; a surrogate that stands alone becomes U+FFFD. -/
def toString (t : Text) : String := String.ofList (t.codePoints.map Char.ofNat)

/-- The decimal digits of a natural number. -/
def ofNat (n : Nat) : Text := ofChars (Nat.toDigits 10 n)

/-- An integer in decimal, with a minus sign if it is negative. -/
def ofInt : Int → Text
  | .ofNat n => ofNat n
  | .negSucc n => ("-" : Text) ++ ofNat (n + 1)

/-- Value of an ASCII decimal digit. -/
def digit? (u : UInt16) : Option Nat :=
  if 0x30 ≤ u && u ≤ 0x39 then some (u.toNat - 0x30) else none

/-- Value of an ASCII hexadecimal digit, in either case. -/
def hexDigit? (u : UInt16) : Option Nat :=
  if 0x30 ≤ u && u ≤ 0x39 then some (u.toNat - 0x30)
  else if 0x41 ≤ u && u ≤ 0x46 then some (u.toNat - 0x41 + 10)
  else if 0x61 ≤ u && u ≤ 0x66 then some (u.toNat - 0x61 + 10)
  else none

/-- The number that a row of digits denotes in the given base, most significant digit first. -/
def valueOfDigits (base : Nat) (digits : List Nat) : Nat :=
  digits.foldl (fun value digit => value * base + digit) 0

/-- The units as ASCII, with the capital letters A to Z in lower case. -/
def asciiLower (t : Text) : Text :=
  ⟨t.units.map fun u => if 0x41 ≤ u && u ≤ 0x5A then u + 0x20 else u⟩

end Text

end MeterSignals
