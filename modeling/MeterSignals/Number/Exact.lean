/-
# Exact values of numbers

Numbers are doubles. A finite double is a whole number of units of some power of two,
so questions about it (is it whole, is it odd, what is left of it modulo 2^32) are
questions about integers and are answered without rounding.
-/

namespace MeterSignals.Number

/-- The largest magnitude below which every integer is a double, 2^53. -/
def exactLimit : Nat := 9007199254740992

/-- A magnitude under the sign of a double. -/
def signed (s : Float.Model.UnpackedFloat.Sign) (magnitude : Nat) : Int :=
  match s with
  | .positive => magnitude
  | .negative => -magnitude

/-- The whole part of `mantissa * 2 ^ exponent` and whether anything is left beside it. -/
def splitWhole (mantissa : Nat) : Int → Nat × Bool
  | .ofNat k => (mantissa * Nat.pow 2 k, true)
  | .negSucc k => (mantissa / Nat.pow 2 (k + 1), mantissa % Nat.pow 2 (k + 1) = 0)

/-- The integer that a double is; `none` for a fraction, an infinity or no number. -/
def integer? (x : Float) : Option Int :=
  match x.toModel.unpack with
  | .zero _ => some 0
  | .finite s m e _ =>
    let (whole, exact) := splitWhole m e
    if exact then some (signed s whole) else none
  | _ => none

/-- The integer next to a finite double toward zero. -/
def truncate? (x : Float) : Option Int :=
  match x.toModel.unpack with
  | .zero _ => some 0
  | .finite s m e _ => some (signed s (splitWhole m e).1)
  | _ => none

/-- The least integer that is not below a finite double. -/
def ceiling? (x : Float) : Option Int :=
  match x.toModel.unpack with
  | .zero _ => some 0
  | .finite s m e _ =>
    let (whole, exact) := splitWhole m e
    match s with
    | .positive => some (if exact then whole else whole + 1)
    | .negative => some (-whole)
  | _ => none

/-- The natural number that a double is; a zero of either sign counts. -/
def natural? (x : Float) : Option Nat :=
  match integer? x with
  | some (.ofNat n) => some n
  | _ => none

/-- A double cut to its whole part and taken modulo 2^32; zero if it is not finite. -/
def wrap32 (x : Float) : UInt32 :=
  match truncate? x with
  | some n => (n % 4294967296).toNat.toUInt32
  | none => 0

/-- Whether a double is an odd integer, of either sign. -/
def isOdd (x : Float) : Bool :=
  match integer? x with
  | some n => n % 2 == 1
  | none => false

/-- Whether a double is zero with a minus sign. -/
def isNegativeZero (x : Float) : Bool :=
  match x.toModel.unpack with
  | .zero .negative => true
  | _ => false

/-- The double nearest to an integer. -/
def ofInteger (n : Int) : Float := Float.ofInt n

end MeterSignals.Number
