/-
# Taking in a line

Everything that a line does before anything leaves the program: it is decoded, its message
is compared with the last one, its power goes through the filter, and the countdown says
whether it is published. A line that is rejected changes nothing.
-/

import MeterSignals.ShedFilter
import MeterSignals.Record.Decode
import MeterSignals.Signal.Batch
import MeterSignals.Signal.MeterMessage
import MeterSignals.Stream.Notice
import MeterSignals.Throttle

namespace MeterSignals

/-- The settings of a stream of lines. -/
structure StreamOptions where
  /-- The code of the validity marker. -/
  validity : Text
  codes : SignalCodes
  /-- The code of the message. -/
  message : Text
  filter : ShedFilter Float
  /-- The tariff index that asks for load shedding, if there is one. -/
  redPeak : Option Float
  /-- Accepted lines that are not published between two that are. -/
  skip : SkipCount
  topics : Topics

/-- What a stream remembers between two lines. -/
structure StreamState where
  /-- The power estimate of the filter. -/
  estimate : Float
  /-- Accepted lines that are still not to be published. -/
  remaining : SkipCount
  lastMessage : Option Text

/-- What becomes of a line. -/
inductive Verdict
  | rejected (rejection : Rejection)
  | throttled (signals : Signals)
  /-- The signals are to be published. -/
  | due (signals : Signals)

/-- A line that has been taken in. -/
structure Intake where
  state : StreamState
  verdict : Verdict
  notices : List StreamNotice

namespace StreamState

/-- Nothing has been read. -/
def initial : StreamState := ⟨0, .frames 0, none⟩

/-- Take in the record of a line. -/
def takeRecord (options : StreamOptions) (state : StreamState) (record : Record) : Intake :=
  let message := MeterMessage.track state.lastMessage record options.message
  let extract := Extract.ofRecord options.codes options.redPeak record
  let (estimate, flag) := options.filter.step state.estimate extract.power
  let (publish, remaining) := Throttle.tick options.skip state.remaining
  let signals := extract.signals flag
  { state := ⟨estimate, remaining, message.last⟩
    verdict := if publish then .due signals else .throttled signals
    notices := (message.changed.map StreamNotice.meterMessage).toList }

/-- Take in a line. -/
def take (options : StreamOptions) (state : StreamState) (line : Text) : Intake :=
  match Record.ofLine options.validity line with
  | .error e => ⟨state, .rejected e, [.dropped e]⟩
  | .ok record => state.takeRecord options record

end StreamState

end MeterSignals
