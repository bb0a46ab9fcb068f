/-
# The publication countdown

One accepted frame is published, then `skip` of them are not. The countdown holds how many
are still to be skipped.

Whole numbers of frames are counted down exactly. Any other number may be given as well; it
is counted down as a double, and a frame is published once nothing above zero is left of it.
-/

import MeterSignals.Number.Exact

namespace MeterSignals

/-- How many frames are to be skipped. -/
inductive SkipCount
  /-- A whole number of frames. -/
  | frames (count : Nat)
  /-- A fraction, a number below zero, one from which doubles cannot take one away exactly,
  or no number at all. -/
  | other (value : Float)

namespace SkipCount

/-- The skip count that a number stands for. -/
def ofNumber (x : Float) : SkipCount :=
  match Number.natural? x with
  | some n =>
    if n ≤ Number.exactLimit && !Number.isNegativeZero x then frames n else other x
  | none => other x

/-- A skip count as a number. -/
def toNumber : SkipCount → Float
  | frames n => Number.ofInteger n
  | other x => x

end SkipCount

namespace Throttle

/-- One accepted frame: whether it is published, and the countdown after it. -/
def tick (skip : SkipCount) : SkipCount → Bool × SkipCount
  | .frames 0 => (true, skip)
  | .frames (n + 1) => (false, .frames n)
  | .other x => if x ≤ 0 then (true, skip) else (false, .ofNumber (x - 1))

/-- A row of accepted frames, each with the skip count that holds for it. -/
def run : (remaining : SkipCount) → (skips : List SkipCount) → List (Bool × SkipCount)
  | _, [] => []
  | remaining, skip :: rest =>
    let next := tick skip remaining
    next :: run next.2 rest

end Throttle

end MeterSignals
