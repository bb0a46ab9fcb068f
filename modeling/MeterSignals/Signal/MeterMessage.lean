/-
# The message of a meter

A meter repeats its free text in frame after frame. Only a change of it is news; a frame
without the text changes nothing.
-/

import MeterSignals.Record.Basic

namespace MeterSignals.MeterMessage

/-- The message to remember after a frame, and the message if it is new. -/
structure Change where
  last : Option Text
  changed : Option Text
  deriving DecidableEq

/-- Compare the text of a frame with the one remembered. -/
def compare (last text : Option Text) : Change :=
  match text with
  | none => ⟨last, none⟩
  | some t => if last = some t then ⟨last, none⟩ else ⟨some t, some t⟩

/-- Track the message in the field with a code. -/
def track (last : Option Text) (record : Record) (code : Text) : Change :=
  compare last (record.text? code)

end MeterSignals.MeterMessage
