/-
# Numbers written by people

A setting that is a number is written as a decimal, with a fraction, an exponent and a
sign if wanted, or as a whole number with the prefix `0x`, `0o` or `0b` and no sign, or as
the word `Infinity`. Blanks around it do not count, and nothing but blanks is zero.
Everything else is no number.
-/

import MeterSignals.Number.Decimal
import MeterSignals.Text.Ascii
import MeterSignals.Text.Blank

namespace MeterSignals.Number.Numeral

open Ascii

/-- The value that stands for no number. -/
def notANumber : Float := 0 / 0

/-- The value that is larger than every number. -/
def infinity : Float := 1 / 0

/-- An exponent with its sign, at the end of a decimal; zero where it is left out. -/
def exponent? : List UInt16 → Option Int
  | [] => some 0
  | smallE :: rest | capitalE :: rest =>
    match rest with
    | minus :: rest => (digits? rest).map fun n => -(n : Int)
    | plus :: rest => (digits? rest).map fun n => (n : Int)
    | rest => (digits? rest).map fun n => (n : Int)
  | _ => none
where
  /-- Digits only, and at least one. -/
  digits? (units : List UInt16) : Option Nat :=
    match takeDigits units with
    | (d :: ds, []) => some (Text.valueOfDigits 10 (d :: ds))
    | _ => none

/-- A decimal without a sign. Digits may be missing on one side of the point. -/
def decimal? (units : List UInt16) : Option Float := do
  let (whole, rest) := takeDigits units
  let (fraction, rest) := match rest with
    | dot :: rest => takeDigits rest
    | rest => ([], rest)
  if whole.isEmpty && fraction.isEmpty then none
  else return ofDecimal whole fraction (← exponent? rest)

/-- A number without a sign and without a prefix. -/
def unsigned? (units : List UInt16) : Option Float :=
  if units = ("Infinity" : Text).units then some infinity else decimal? units

/-- A whole number in another base. -/
def inBase? (base : Nat) (units : List UInt16) : Option Float := do
  let digits ← units.mapM Text.hexDigit?
  if digits.isEmpty || digits.any (base ≤ ·) then none
  else some (Float.ofNat (Text.valueOfDigits base digits))

/-- The number that trimmed units denote. -/
def number? : List UInt16 → Option Float
  | [] => some 0
  | zero :: smallX :: rest | zero :: capitalX :: rest => inBase? 16 rest
  | zero :: smallO :: rest | zero :: capitalO :: rest => inBase? 8 rest
  | zero :: smallB :: rest | zero :: capitalB :: rest => inBase? 2 rest
  | minus :: rest => (unsigned? rest).map (withSign true)
  | plus :: rest => unsigned? rest
  | units => unsigned? units

/-- The number that a text denotes. -/
def value (t : Text) : Float := (number? t.trim.units).getD notANumber

end MeterSignals.Number.Numeral
