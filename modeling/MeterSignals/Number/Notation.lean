/-
# How a number is written

An integer up to 2^53 in magnitude is written in full: doubles are then at most one
apart, so no shorter row of digits denotes it. Every other finite number is
written with the digits of its shortest decimal. The point stands among the digits or
before at most five zeros as long as the whole part has at most 21 digits; outside that
range an exponent follows the digits. Both zeros are written `0`.
-/

import MeterSignals.Number.Shortest
import MeterSignals.Text.Basic

namespace MeterSignals.Number

/-- The longest whole part that is written without an exponent. -/
def longestWhole : Int := 21

/-- The most zeros that are written between the point and the first digit. -/
def mostLeadingZeros : Int := 5

/-- Digits without the zeros at their end. -/
def significant (digits : List Char) : List Char :=
  (digits.reverse.dropWhile (· == '0')).reverse

/-- Digits with the decimal point after the first `point` of them, where `point` may lie
before the first or behind the last one. -/
def layout (digits : List Char) (point : Int) : List Char :=
  let count : Int := digits.length
  if count ≤ point && point ≤ longestWhole then
    digits ++ List.replicate (point - count).toNat '0'
  else if 0 < point && point ≤ longestWhole then
    digits.take point.toNat ++ '.' :: digits.drop point.toNat
  else if -mostLeadingZeros ≤ point && point ≤ 0 then
    '0' :: '.' :: List.replicate (-point).toNat '0' ++ digits
  else
    let exponent := point - 1
    let fraction := if digits.length ≤ 1 then [] else '.' :: digits.drop 1
    let sign := if exponent < 0 then '-' else '+'
    digits.take 1 ++ fraction ++ 'e' :: sign :: Nat.toDigits 10 exponent.natAbs

/-- A positive double `mantissa * 2 ^ exponent` in decimal. -/
def magnitudeText (mantissa : Nat) (exponent : Int) : Text :=
  let decimal := shortest mantissa exponent
  let digits := Nat.toDigits 10 decimal.coefficient
  Text.ofChars (layout (significant digits) (digits.length + decimal.power))

/-- A number in decimal. -/
def text (x : Float) : Text :=
  match x.toModel.unpack with
  | .notANumber => "NaN"
  | .infinity .positive => "Infinity"
  | .infinity .negative => "-Infinity"
  | .zero _ => "0"
  | .finite s m e _ =>
    let (whole, exact) := splitWhole m e
    if exact && whole ≤ exactLimit then Text.ofInt (signed s whole)
    else
      match s with
      | .positive => magnitudeText m e
      | .negative => ("-" : Text) ++ magnitudeText m e

end MeterSignals.Number
