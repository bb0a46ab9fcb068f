/-
# From a line to a record

A line holds one JSON object. One of its members marks the frame as valid; every other
member that is an object with a number or a text as `data` is a field. Members of any
other shape are left out, and so is whatever else stands beside the data of a field.
-/

import MeterSignals.Json.Reader
import MeterSignals.Record.Basic
import MeterSignals.Record.Rejection

namespace MeterSignals

/-- Whether the value of a validity marker says that the frame is valid. -/
def isTruthyMarker : Option Json → Bool
  | some (.bool b) => b
  | some (.num x) => x != 0 && !x.isNaN
  | some (.str t) => t != Text.empty && t != "0"
  | _ => false

namespace RecordField

/-- The field that a member of a frame describes. The time stamp may be missing, but
where it stands it is a text. -/
def ofJson? (value : Json) : Option RecordField := do
  let data ← match value.get? "data" with
    | some (.num x) => some (Datum.number x)
    | some (.str t) => some (Datum.text t)
    | _ => none
  match value.get? "horodate" with
  | none => some ⟨data, none⟩
  | some (.str t) => some ⟨data, some t⟩
  | some _ => none

end RecordField

namespace Record

/-- The one key that a frame cannot use: a member of this name is ignored. -/
def reservedCode : Text := "__proto__"

/-- The validity marker of a frame. Under the reserved key there is always an empty
object, which marks nothing. -/
def marker? (frame : Json.Members) (validity : Text) : Option Json :=
  if validity = reservedCode then some (.obj []) else frame.lookup validity

/-- The fields of a frame. -/
def fieldsOf (frame : Json.Members) (validity : Text) : List (Text × RecordField) :=
  frame.filterMap fun (code, value) =>
    if code = validity || code = reservedCode then none
    else (RecordField.ofJson? value).map (code, ·)

/-- The record of a frame, if the frame is marked valid. -/
def ofFrame (frame : Json.Members) (validity : Text) : Except Rejection Record :=
  let marker := marker? frame validity
  if isTruthyMarker marker then .ok ⟨fieldsOf frame validity⟩
  else .error (.invalidFrame ("Validity marker \"" ++ validity ++ "\" not set") marker)

/-- The record of a line. -/
def ofLine (validity line : Text) : Except Rejection Record :=
  match Json.read? line with
  | none => .error (.malformedLine "Line is not valid JSON" (some (.fault Fault.notJson)))
  | some (.obj frame) => ofFrame frame validity
  | some _ => .error (.notAFrame "Line does not hold a JSON object")

end Record

end MeterSignals
