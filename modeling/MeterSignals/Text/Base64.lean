/-
# Base64

Bytes in groups of three become four letters each; a last group of one or two bytes is
filled up with `=`.
-/

import MeterSignals.Text.Basic

namespace MeterSignals.Base64

/-- The letter of a six-bit number. -/
def letter (n : Nat) : Char :=
  if n < 26 then Char.ofNat (65 + n)
  else if n < 52 then Char.ofNat (97 + (n - 26))
  else if n < 62 then Char.ofNat (48 + (n - 52))
  else if n = 62 then '+' else '/'

/-- The letters of a row of bytes. -/
def letters : List UInt8 → List Char
  | [] => []
  | [a] =>
    let n := a.toNat * 0x10
    [letter (n / 0x40), letter (n % 0x40), '=', '=']
  | [a, b] =>
    let n := (a.toNat * 0x100 + b.toNat) * 4
    [letter (n / 0x1000), letter (n / 0x40 % 0x40), letter (n % 0x40), '=']
  | a :: b :: c :: rest =>
    let n := (a.toNat * 0x100 + b.toNat) * 0x100 + c.toNat
    letter (n / 0x40000) :: letter (n / 0x1000 % 0x40) :: letter (n / 0x40 % 0x40) ::
      letter (n % 0x40) :: letters rest

/-- The Base64 text of a row of bytes. -/
def encode (bytes : List UInt8) : Text := Text.ofChars (letters bytes)

end MeterSignals.Base64
