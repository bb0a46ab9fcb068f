/-
# Requests and answers

What is asked of a web service and what comes back. Sending is not done here. Before a request is
sent, an alarm is set that goes off when the request is to be given up. Setting it may throw, and
then nothing is sent.
-/

import MeterSignals.Fault
import MeterSignals.Json.Reader

namespace MeterSignals.Http

/-- A request. -/
structure Request where
  method : Text
  url : Text
  headers : List (Text × Text)
  body : Option Text
  /-- Milliseconds after which the request is given up. -/
  timeout : Float

/-- The body of an answer as it came in. -/
inductive Body
  | text (text : Text)
  /-- The body could not be read to its end. -/
  | broken (failure : Failure)

/-- An answer. -/
structure Response where
  status : Float
  statusText : Text
  body : Body

/-- What becomes of a request. -/
abbrev Reply := Except Failure Response

/-- What setting an alarm throws, if it does, by the milliseconds after which the alarm is to go
off. -/
abbrev Alarm := Float → Option Failure

namespace Alarm

/-- The milliseconds are a whole number of 32 bits. -/
def isWhole (timeout : Float) : Bool :=
  (Number.integer? timeout).any fun n => 0 ≤ n && n < 4294967296

/-- An alarm is set for a whole number of milliseconds, and for nothing else. -/
def wholeMilliseconds : Alarm := fun timeout =>
  if isWhole timeout then none else some (.fault Fault.outOfRange)

end Alarm

namespace Response

/-- Whether the status says that the request was carried out. -/
def isOk (response : Response) : Bool := 200 ≤ response.status && response.status ≤ 299

/-- The status as a line of text. -/
def statusLine (response : Response) : Text :=
  "HTTP " ++ Number.text response.status ++ ": " ++ response.statusText

/-- The body as a document. -/
def json (response : Response) : Except Failure Json :=
  match response.body with
  | .broken failure => .error failure
  | .text t =>
    match Json.read? t with
    | some v => .ok v
    | none => .error (.fault Fault.notJson)

end Response

end MeterSignals.Http
