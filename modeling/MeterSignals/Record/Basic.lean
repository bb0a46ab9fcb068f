/-
# Telemetry records

A record holds the fields of one frame that was marked valid. Frames are sparse: a code
that a frame lacks reads as absent, and so does a field whose data are of another kind
than the reader asks for.
-/

import MeterSignals.Number.Decimal
import MeterSignals.Number.Notation
import MeterSignals.Text.Ascii
import MeterSignals.Text.Blank

namespace MeterSignals

/-- The payload of a field. -/
inductive Datum
  | number (value : Float)
  | text (value : Text)

/-- A field of a record. -/
structure RecordField where
  data : Datum
  timestamp : Option Text

/-- The fields of one valid frame, by code. -/
structure Record where
  fields : List (Text × RecordField)

namespace Datum

/-- The number that a text of decimal digits denotes; one minus sign may stand in front,
blanks around it. -/
def integerOfText? (t : Text) : Option Float :=
  match t.trim.units with
  | Ascii.minus :: digits => (magnitude? digits).map (Number.withSign true)
  | digits => magnitude? digits
where
  /-- Digits only, and at least one. -/
  magnitude? (units : List UInt16) : Option Float :=
    match Number.takeDigits units with
    | ([], _) => none
    | (digits, []) => some (Number.ofDecimal digits [] 0)
    | (_, _ :: _) => none

/-- The payload as an integer: a whole number, or a text of decimal digits. -/
def integer? : Datum → Option Float
  | number x => if (Number.integer? x).isSome then some x else none
  | text t => integerOfText? t

/-- The payload as a text. -/
def shown : Datum → Text
  | number x => Number.text x
  | text t => t

/-- The number that one to eight hexadecimal digits denote, with blanks allowed around
them. -/
def registerOfText? (t : Text) : Option UInt32 :=
  let units := t.trim.units
  match units.mapM Text.hexDigit? with
  | some digits =>
    if 1 ≤ digits.length && digits.length ≤ 8 then
      some (Text.valueOfDigits 16 digits).toUInt32
    else none
  | none => none

/-- The payload as a 32-bit register: an integer modulo 2^32, or hexadecimal digits. -/
def register? : Datum → Option UInt32
  | number x => if (Number.integer? x).isSome then some (Number.wrap32 x) else none
  | text t => registerOfText? t

end Datum

namespace Record

/-- The field with a code. -/
def field? (record : Record) (code : Text) : Option RecordField := record.fields.lookup code

/-- The field with a code, as an integer. -/
def integer? (record : Record) (code : Text) : Option Float :=
  (record.field? code).bind (·.data.integer?)

/-- The field with a code, as a text. -/
def text? (record : Record) (code : Text) : Option Text :=
  (record.field? code).map (·.data.shown)

/-- The field with a code, as a 32-bit register. -/
def register? (record : Record) (code : Text) : Option UInt32 :=
  (record.field? code).bind (·.data.register?)

end Record

end MeterSignals
