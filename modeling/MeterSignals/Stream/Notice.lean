/-
# What the processing of lines reports
-/

import MeterSignals.Broker.Error
import MeterSignals.Log.Entry
import MeterSignals.Record.Rejection
import MeterSignals.Relay
import MeterSignals.Signal.Derived

namespace MeterSignals

/-- A report about a line. -/
inductive StreamNotice
  | relayFailed (error : RelayError)
  | dropped (rejection : Rejection)
  | meterMessage (message : Text)
  | notPublished (error : PublishError)
  | published (signals : Signals)
  /-- The processing of a line, given by its number, broke off. -/
  | lineFailed (message : Text) (line : Nat)

/-- Signals as a document. -/
def Signals.toJson (signals : Signals) : Json :=
  .obj
    [ ("loadShed", .orNull (signals.loadShed.map .bool)),
      ("hotWaterAllowed", .bool signals.hotWaterAllowed),
      ("peakOffPeak", .str signals.period.label),
      ("dayColor", .str (DayColor.labelOrUnknown signals.dayColor)),
      ("nextDayColor", .str (DayColor.labelOrUnknown signals.nextDayColor)),
      ("power", .orNull (signals.power.map .num)) ]

namespace StreamNotice

/-- The report as an entry of the log. -/
def entry : StreamNotice → Log.Entry
  | relayFailed e => .bare .pipeline .warn e.formatted
  | dropped e =>
    .detailed .pipeline .debug [("reason", .str e.kind)] ("Record dropped: " ++ e.formatted)
  | meterMessage message => .detailed .meter .info [("message", .str message)] "Meter message"
  | notPublished e =>
    .detailed .pipeline .warn [("errorType", .str e.kind)]
      ("Signal batch not published: " ++ e.formatted)
  | published signals =>
    .detailed .pipeline .debug [("signals", signals.toJson)] "Signals published"
  | lineFailed message line =>
    .detailed .pipeline .error [("error", .str message), ("line", .int line)]
      "Error processing line"

end StreamNotice

end MeterSignals
