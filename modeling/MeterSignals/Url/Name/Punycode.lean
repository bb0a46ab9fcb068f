/-
# Parts of names in ASCII alone

A part of a name with code points beyond ASCII can be written in ASCII. Its ASCII code
points come first, then a hyphen, then letters and digits which say what else goes where,
from the lowest code point to the highest. Every insertion is one number, the distance from
the place behind the last insertion; at the end of the text it goes on from the start, with
the next code point. A number is written with its lowest digit first. Its last digit is the
first that is below the threshold for its position, and the thresholds follow the size of
the numbers before. No number takes more than 31 bits, and a part that needs a higher one
cannot be written in this way.
-/

namespace MeterSignals.Url.Name.Punycode

/-- How many values a digit can have. -/
def base : Nat := 36

/-- The highest number that can be written. -/
def greatest : Nat := 0x7FFFFFFF

/-- Value of a digit: a letter from `a` to `z`, or a decimal digit for what is higher. -/
def digit? (c : Nat) : Option Nat :=
  if 0x61 ≤ c && c ≤ 0x7A then some (c - 0x61)
  else if 0x30 ≤ c && c ≤ 0x39 then some (c - 0x30 + 26)
  else none

/-- A text into which code points are being inserted. -/
structure Insertion where
  points : List Nat
  /-- The code point that was inserted last. -/
  code : Nat := 0x80
  /-- The place behind it. -/
  place : Nat := 0
  /-- Up to which position the thresholds are at their least. -/
  bias : Nat := 72
  /-- What the digits of the number make that have been read. -/
  sum : Nat := 0
  /-- What the next digit counts. -/
  weight : Nat := 1
  /-- The position of the next digit. -/
  position : Nat := base

namespace Insertion

/-- The next digit is the last of its number if it is below this. -/
def threshold (insertion : Insertion) : Nat :=
  max 1 (min 26 (insertion.position - insertion.bias))

/-- The bias for numbers about as high as the given one. -/
def biasFor (number : Nat) : Nat :=
  if 455 < number then biasFor (number / 35) + base else base * number / (number + 38)
termination_by number

/-- The bias behind an insertion at a distance. The first distance of a text, which is most
of the way from ASCII to its script, says little about the others. The text has the given
length by then. -/
def nextBias (isFirst : Bool) (distance length : Nat) : Nat :=
  let typical := if isFirst then distance / 700 else distance / 2
  biasFor (typical + typical / length)

/-- Insert a code point at a distance from the last one. -/
def insert (insertion : Insertion) (distance : Nat) : Option Insertion :=
  let length := insertion.points.length + 1
  let reached := insertion.place + distance
  let code := insertion.code + reached / length
  let place := reached % length
  if code ≤ 0x10FFFF then
    some
      { points := insertion.points.insertIdx place code
        code := code
        place := place + 1
        bias := nextBias (insertion.place = 0) distance length }
  else none

/-- Read a digit. Neither the number together with the place from which it counts nor what
the next digit counts is higher than the greatest number. -/
def step (insertion : Insertion) (digit : Nat) : Option Insertion :=
  let sum := insertion.sum + digit * insertion.weight
  let weight := insertion.weight * (base - insertion.threshold)
  if greatest < insertion.place + sum then none
  else if digit < insertion.threshold then insertion.insert sum
  else if greatest < weight then none
  else
    some
      { insertion with
        sum := sum
        weight := weight
        position := insertion.position + base }

end Insertion

/-- The part of a name that is written in ASCII alone; none if the digits are no numbers or
the last number has no end. The last hyphen is the one in front of the digits. -/
def decode? (text : List Nat) : Option (List Nat) := do
  let digits := (text.reverse.takeWhile (· ≠ 0x2D)).reverse
  let plain := text.take (text.length - digits.length - 1)
  let insertion ← (← digits.mapM digit?).foldlM Insertion.step { points := plain }
  if insertion.position = base then some insertion.points else none

/-- What is known of a part while its code points beyond ASCII are put in place. -/
structure Placement where
  /-- How many code points are in place. -/
  length : Nat
  /-- The code point that was put in place last. -/
  code : Nat := 0x80
  /-- The place behind it. -/
  place : Nat := 0
  /-- The distances of all insertions, the last one first. -/
  distances : List Nat := []

/-- Put every occurrence of a code point in place, from the left to the right. Those in place
before are the lower ones. -/
def Placement.insertAll (part : List Nat) (placement : Placement) (code : Nat) : Placement :=
  (part.foldl insertAt (placement, 0)).1
where
  /-- Go past a code point of the part. As many as the given number are in place before. -/
  insertAt : Placement × Nat → Nat → Placement × Nat
    | (placement, before), c =>
      if c < code then (placement, before + 1)
      else if c = code then
        let around := (code - placement.code) * (placement.length + 1)
        let distance := around + before - placement.place
        (⟨placement.length + 1, code, before + 1, distance :: placement.distances⟩, before + 1)
      else (placement, before)

/-- The distances of the insertions that make up a part, the last one first. -/
def distances (part : List Nat) : List Nat :=
  let (plain, others) := part.partition (· < 0x80)
  let codes := others.mergeSort.eraseReps
  (codes.foldl (Placement.insertAll part) { length := plain.length }).distances

/-- Whether a part can be written in ASCII alone. -/
def isWritable (part : List Nat) : Bool := (distances part).all (· ≤ greatest)

end MeterSignals.Url.Name.Punycode
