/-
# Why a line is rejected

A line that yields no record is rejected for one of three reasons.
-/

import MeterSignals.Fault

namespace MeterSignals

/-- The reason why a line yields no record. -/
inductive Rejection
  /-- The line is no JSON document. -/
  | malformedLine (message : Text) (cause : Option Failure)
  /-- The document is no object. -/
  | notAFrame (message : Text)
  /-- The validity marker, which may be missing, does not say that the frame is valid. -/
  | invalidFrame (message : Text) (marker : Option Json)
  deriving Inhabited

namespace Rejection

/-- The name of the reason. -/
def kind : Rejection → Text
  | malformedLine .. => "MALFORMED_LINE"
  | notAFrame .. => "NOT_A_FRAME"
  | invalidFrame .. => "INVALID_FRAME"

/-- What is said about the line. -/
def message : Rejection → Text
  | malformedLine m _ => m
  | notAFrame m => m
  | invalidFrame m _ => m

/-- The reason in words. -/
def formatted : Rejection → Text
  | malformedLine m _ => "Malformed line: " ++ m
  | notAFrame m => "Not a frame: " ++ m
  | invalidFrame m _ => "Invalid frame: " ++ m

end Rejection

end MeterSignals
