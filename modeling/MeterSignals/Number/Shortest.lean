/-
# Shortest decimals

A finite double is denoted by every decimal that rounds to it. Among these the shortest
are the ones with the fewest digits, and among those the one nearest to the double is
its decimal. The search is over exact natural numbers: on the grid of decimals with a
given number of digits the candidates are the two neighbours of the double, and the
first grid on which one of them rounds back to it is the answer.
-/

import MeterSignals.Number.Exact

namespace MeterSignals.Number

/-- A decimal `coefficient * 10 ^ power`. -/
structure Decimal where
  coefficient : Nat
  power : Int
  deriving DecidableEq

/-- A positive quotient of natural numbers with the open or closed interval around it
that rounds to the same double. All three are over one denominator. -/
structure Rounding where
  value : Nat
  below : Nat
  above : Nat
  denominator : Nat
  /-- The ends of the interval round to the value too. -/
  closed : Bool

namespace Rounding

/-- The interval around `mantissa * 2 ^ exponent`. Its ends lie half a unit away, but the
lower end only a quarter where the mantissa is the least of its binade. -/
def ofBinary (mantissa : Nat) (exponent : Int) : Rounding :=
  let scale := Nat.pow 2 exponent.toNat
  let narrow := mantissa == Nat.pow 2 52 && exponent != -1074
  { value := 4 * mantissa * scale
    below := (4 * mantissa - if narrow then 1 else 2) * scale
    above := (4 * mantissa + 2) * scale
    denominator := 4 * Nat.pow 2 (-exponent).toNat
    closed := mantissa % 2 == 0 }

/-- Whether `n * numerator / divisor` lies in the interval. -/
def holds (r : Rounding) (n numerator divisor : Nat) : Bool :=
  let point := n * numerator * r.denominator
  if r.closed then r.below * divisor ≤ point && point ≤ r.above * divisor
  else r.below * divisor < point && point < r.above * divisor

/-- Number of digits of a natural number in decimal. -/
def digitCount (n : Nat) : Nat := (Nat.toDigits 10 n).length

/-- The power of ten just above the value: `10 ^ (p - 1) ≤ value < 10 ^ p`. -/
def magnitude (r : Rounding) : Int :=
  if r.denominator ≤ r.value then digitCount (r.value / r.denominator)
  else 1 - (digitCount ((r.denominator - 1) / r.value) : Int)

/-- The neighbour of the value on the grid of multiples of `10 ^ power` that rounds back
to it; of two, the nearer one, and the even one in a tie. -/
def onGrid? (r : Rounding) (power : Int) : Option Nat :=
  let numerator := Nat.pow 10 power.toNat
  let divisor := Nat.pow 10 (-power).toNat
  let unit := numerator * r.denominator
  let scaled := r.value * divisor
  let low := scaled / unit
  let rest := scaled % unit
  match r.holds low numerator divisor, r.holds (low + 1) numerator divisor with
  | true, true =>
    if 2 * rest < unit || (2 * rest == unit && low % 2 == 0) then some low else some (low + 1)
  | true, false => some low
  | false, true => some (low + 1)
  | false, false => none

/-- Search from `digits` digits upward; `tries` grids are left. -/
def search (r : Rounding) (digits : Nat) : (tries : Nat) → Option Decimal
  | 0 => none
  | tries + 1 =>
    let power := r.magnitude - digits
    match r.onGrid? power with
    | some coefficient => some ⟨coefficient, power⟩
    | none => search r (digits + 1) tries

end Rounding

/-- The shortest decimal that rounds to `mantissa * 2 ^ exponent`, and the nearest of
these. Seventeen digits always suffice. -/
def shortest (mantissa : Nat) (exponent : Int) : Decimal :=
  ((Rounding.ofBinary mantissa exponent).search 1 17).getD ⟨0, 0⟩

end MeterSignals.Number
