/-
# Lines of the input

Bytes become characters and characters become lines, one byte at a time. A line feed, a
carriage return, and the two of them in this order each end a line. Where the bytes were cut
does not matter: the reader keeps the character it is in the middle of, the line that has no
end yet, and whether a line feed would still belong to the last ending. Only a piece without
any byte leaves a trace. It parts a carriage return from a line feed that comes after it, so
that each of the two ends a line.
-/

import MeterSignals.Log.Entry
import MeterSignals.Text.Ascii
import MeterSignals.Text.Utf8

namespace MeterSignals

/-- A reader of lines between two bytes. -/
structure LineReader where
  decoder : Utf8Reader
  /-- The units of the line that has no end yet, the last one first. -/
  pending : List UInt16
  /-- The last unit was a carriage return. -/
  afterReturn : Bool
  /-- The lines that have been completed and not been taken yet, the last one first. -/
  completed : List Text
  deriving DecidableEq

namespace LineReader

/-- Nothing has been read. -/
def initial : LineReader := ⟨.fresh, [], false, []⟩

/-- End the line. -/
def endLine (reader : LineReader) : LineReader :=
  { reader with pending := [], completed := ⟨reader.pending.reverse⟩ :: reader.completed }

/-- Read one unit. -/
def pushUnit (reader : LineReader) : UInt16 → LineReader
  | Ascii.lineFeed =>
    if reader.afterReturn then { reader with afterReturn := false } else reader.endLine
  | Ascii.carriageReturn => { reader.endLine with afterReturn := true }
  | u => { reader with pending := u :: reader.pending, afterReturn := false }

/-- Read the units of some code points. -/
def pushPoints (reader : LineReader) (points : List Nat) : LineReader :=
  (points.flatMap Text.unitsOfCodePoint).foldl pushUnit reader

/-- Read one byte. -/
def push (reader : LineReader) (byte : UInt8) : LineReader :=
  let (decoder, points) := reader.decoder.step byte
  { reader with decoder := decoder }.pushPoints points

/-- Read a piece of the input. -/
def feed (reader : LineReader) : List UInt8 → LineReader
  | [] => { reader with afterReturn := false }
  | bytes => bytes.foldl push reader

/-- The end of the input: a character that is not complete is left out, and a line that
has no end counts unless it is empty. -/
def finish (reader : LineReader) : LineReader :=
  let last := { reader with decoder := .fresh }
  if last.pending.isEmpty then last else last.endLine

/-- The lines that have been completed, in their order, and the reader without them. -/
def take (reader : LineReader) : List Text × LineReader :=
  (reader.completed.reverse, { reader with completed := [] })

/-- The lines of an input that comes in pieces. -/
def linesOf (pieces : List (List UInt8)) : List Text :=
  (pieces.foldl feed initial).finish.take.1

end LineReader

/-- A report about the input. -/
inductive InputNotice
  | closed
  deriving DecidableEq

namespace InputNotice

/-- The report as an entry of the log. -/
def entry : InputNotice → Log.Entry
  | closed => .bare .input .info "Input closed"

end InputNotice

end MeterSignals
