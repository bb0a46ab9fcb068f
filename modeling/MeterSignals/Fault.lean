/-
# Faults

What goes wrong outside this library comes back either as a fault, which has a name and
a message, or as a bare value that somebody threw. A bare value becomes a fault whose
message is the value as running text.
-/

import MeterSignals.Json.Basic

namespace MeterSignals

/-- Something that went wrong, with the name of its kind. -/
structure Fault where
  name : Text
  message : Text
  deriving DecidableEq, Inhabited

namespace Fault

/-- A fault of no particular kind. -/
def plain (message : Text) : Fault := ⟨"Error", message⟩

/-- A text that should have been a JSON document is none. -/
def notJson : Fault := ⟨"SyntaxError", "not a JSON document"⟩

/-- A number is not one of those that are taken. -/
def outOfRange : Fault := ⟨"RangeError", "out of range"⟩

end Fault

/-- What a call outside this library may throw. -/
inductive Failure
  | fault (fault : Fault)
  | value (value : Json)
  deriving Inhabited

namespace Failure

/-- The failure as a fault. -/
def toFault : Failure → Fault
  | fault f => f
  | value v => Fault.plain v.shown

/-- What the failure says of itself. A bare value says something if it has a message. -/
def message? : Failure → Option Json
  | fault f => some (.str f.message)
  | value v => v.get? "message"

/-- The failure as the cause of an error. A bare value that counts as nothing is none. -/
def asCause : Failure → Option Failure
  | fault f => some (fault f)
  | value v => if v.isSomething then some (value v) else none

end Failure

end MeterSignals
