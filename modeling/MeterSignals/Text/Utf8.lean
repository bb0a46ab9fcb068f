/-
# UTF-8

A text is written as UTF-8 at once. Bytes arrive in pieces that may end inside a
character, so reading is a machine that takes one byte at a time and keeps the
character it is in the middle of; where the pieces were cut can then not matter.

Bytes that are no UTF-8 read as U+FFFD, one for each longest beginning of a character
that the next byte breaks off. That next byte is then read afresh. The first byte of a
character announces how many bytes belong to it, and nothing of them is given out before
the last has come or another byte has taken its place. Who reads pieces without knowing
the last one therefore never sees a character that is not complete.
-/

import MeterSignals.Text.Basic

namespace MeterSignals

namespace Text

/-- The UTF-8 bytes of one code point. -/
def utf8OfCodePoint (c : Nat) : List UInt8 :=
  if c < 0x80 then [c.toUInt8]
  else if c < 0x800 then [(0xC0 + c / 0x40).toUInt8, (0x80 + c % 0x40).toUInt8]
  else if c < 0x10000 then
    [(0xE0 + c / 0x1000).toUInt8, (0x80 + c / 0x40 % 0x40).toUInt8, (0x80 + c % 0x40).toUInt8]
  else
    [(0xF0 + c / 0x40000).toUInt8, (0x80 + c / 0x1000 % 0x40).toUInt8,
      (0x80 + c / 0x40 % 0x40).toUInt8, (0x80 + c % 0x40).toUInt8]

/-- The UTF-8 bytes of a text; a surrogate that stands alone is written as U+FFFD. -/
def toUtf8 (t : Text) : List UInt8 := t.codePoints.flatMap utf8OfCodePoint

end Text

/-- A reader of UTF-8 between two bytes. -/
inductive Utf8Reader
  /-- The next byte starts a character. -/
  | fresh
  /-- Inside a character: the bits read so far, how many bytes are still missing, and
  the range in which the next one must lie. -/
  | inside (bits missing : Nat) (low high : UInt8)
  /-- Inside what cannot become a character: how many replacements it reads as so far,
  and how many announced bytes are still missing. -/
  | spoiled (replaced missing : Nat)
  deriving DecidableEq

namespace Utf8Reader

/-- The code point of a byte or of a run of bytes that is no character. -/
def replacement : Nat := 0xFFFD

/-- Read a byte where a character starts. The ranges of second bytes leave out
overlong forms, surrogates and everything beyond U+10FFFF. -/
def start (b : UInt8) : Utf8Reader × List Nat :=
  if b < 0x80 then (fresh, [b.toNat])
  else if b == 0xC0 || b == 0xC1 then (spoiled 1 1, [])
  else if 0xC2 ≤ b && b ≤ 0xDF then (inside (b.toNat % 0x20) 1 0x80 0xBF, [])
  else if b == 0xE0 then (inside 0 2 0xA0 0xBF, [])
  else if b == 0xED then (inside 0xD 2 0x80 0x9F, [])
  else if 0xE1 ≤ b && b ≤ 0xEF then (inside (b.toNat % 0x10) 2 0x80 0xBF, [])
  else if b == 0xF0 then (inside 0 3 0x90 0xBF, [])
  else if b == 0xF4 then (inside 4 3 0x80 0x8F, [])
  else if 0xF1 ≤ b && b ≤ 0xF3 then (inside (b.toNat % 0x08) 3 0x80 0xBF, [])
  else if 0xF5 ≤ b && b ≤ 0xF7 then (spoiled 1 3, [])
  else (fresh, [replacement])

/-- Whether a byte can only continue a character. -/
def isContinuation (b : UInt8) : Bool := 0x80 ≤ b && b ≤ 0xBF

/-- Read one byte: the code points it completes and the reader after it. -/
def step : Utf8Reader → UInt8 → Utf8Reader × List Nat
  | fresh, b => start b
  | inside bits missing low high, b =>
    if low ≤ b && b ≤ high then
      let bits := bits * 0x40 + b.toNat % 0x40
      if missing ≤ 1 then (fresh, [bits]) else (inside bits (missing - 1) 0x80 0xBF, [])
    else if isContinuation b then (spoiled 2 (missing - 1), [])
    else
      let (next, points) := start b
      (next, replacement :: points)
  | spoiled replaced missing, b =>
    if isContinuation b then
      if missing ≤ 1 then (fresh, List.replicate (replaced + 1) replacement)
      else (spoiled (replaced + 1) (missing - 1), [])
    else
      let (next, points) := start b
      (next, List.replicate replaced replacement ++ points)

/-- What the bytes that are kept read as when no more follow. -/
def finish : Utf8Reader → List Nat
  | fresh => []
  | inside .. => [replacement]
  | spoiled replaced _ => List.replicate replaced replacement

end Utf8Reader

end MeterSignals
