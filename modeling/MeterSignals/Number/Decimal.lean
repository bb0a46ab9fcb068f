/-
# Numbers from decimal digits

A decimal denotes the double nearest to it, whatever its length: too many digits give
an infinity, too small a decimal gives zero, and the sign is kept in both.
-/

import MeterSignals.Number.Exact
import MeterSignals.Text.Basic

namespace MeterSignals.Number

/-- The double nearest to `coefficient * 10 ^ power`. -/
def nearest (coefficient : Nat) (power : Int) : Float :=
  Float.ofScientific coefficient (power < 0) power.natAbs

/-- A number under a sign; the negative of zero is the negative zero. -/
def withSign (negative : Bool) (x : Float) : Float := if negative then -x else x

/-- The leading decimal digits of a row of units, and the rest of the row. -/
def takeDigits : List UInt16 → List Nat × List UInt16
  | [] => ([], [])
  | u :: rest =>
    match Text.digit? u with
    | some d => let (ds, rest) := takeDigits rest; (d :: ds, rest)
    | none => ([], u :: rest)

/-- The number that an unsigned row of decimal digits denotes, with a fraction part and
an exponent. -/
def ofDecimal (whole fraction : List Nat) (exponent : Int) : Float :=
  nearest (Text.valueOfDigits 10 (whole ++ fraction)) (exponent - fraction.length)

end MeterSignals.Number
