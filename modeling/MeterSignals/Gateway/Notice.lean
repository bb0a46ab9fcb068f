/-
# What the gateway as a whole reports
-/

import MeterSignals.Fallback.Schedule
import MeterSignals.Log.Setup
import MeterSignals.Relay

namespace MeterSignals

/-- A signal that asks the gateway to stop. -/
inductive StopSignal
  | terminate
  | interrupt
  deriving DecidableEq

/-- The settings that are reported at the start. -/
structure ConfigurationSummary where
  environment : Log.Environment
  brokerUrl : Text
  retain : Bool
  skip : Float
  threshold : Float
  timeConstant : Float
  redPeak : Option Float

/-- A report of the gateway. -/
inductive GatewayNotice
  | configured (summary : ConfigurationSummary)
  | relayEnabled (target : RelayTarget)
  | relayDisabled
  | fallbackEnabled (calendarUrl : Text) (window : FetchWindow)
  | fallbackDisabled
  | publishingEnabled
  | publishingPaused
  | stopping (signal : StopSignal)
  | inputEnded (lines : Nat)
  | shutdownComplete
  | crashed (failure : Failure)

/-- The name of a signal. -/
def StopSignal.label : StopSignal → Text
  | terminate => "SIGTERM"
  | interrupt => "SIGINT"

/-- A window as a document. -/
def FetchWindow.toJson (window : FetchWindow) : Json :=
  .obj
    [ ("hour", .int window.hour), ("minute", .int window.minute),
      ("durationMinutes", .int window.duration) ]

namespace GatewayNotice

/-- The report as an entry of the log. -/
def entry : GatewayNotice → Log.Entry
  | configured summary =>
    .detailed .pipeline .info
      [ ("env", .str summary.environment.label),
        ("mqttBroker", .str summary.brokerUrl),
        ("retain", .bool summary.retain),
        ("skipCount", .num summary.skip),
        ("vaThreshold", .num summary.threshold),
        ("timeConstant", .num summary.timeConstant),
        ("redPeakTariffIndex", .orNull (summary.redPeak.map .num)) ]
      "Configuration loaded"
  | relayEnabled target =>
    .detailed .pipeline .info [("host", .str target.host), ("port", .num target.port)]
      "UDP relay: ENABLED"
  | relayDisabled => .bare .pipeline .info "UDP relay: DISABLED"
  | fallbackEnabled url window =>
    .detailed .pipeline .info [("calendarUrl", .str url), ("window", window.toJson)]
      "Calendar fallback: ENABLED"
  | fallbackDisabled => .bare .pipeline .info "Calendar fallback: DISABLED"
  | publishingEnabled => .bare .pipeline .info "Publishing enabled"
  | publishingPaused =>
    .bare .pipeline .warn "Publishing paused until the broker is back"
  | stopping signal =>
    .detailed .pipeline .info [("signal", .str signal.label)]
      (signal.label ++ " received. Shutting down gracefully...")
  | inputEnded lines => .detailed .pipeline .info [("lines", .int lines)] "Input ended"
  | shutdownComplete => .bare .pipeline .info "Shutdown complete"
  | crashed failure => .failed .pipeline .fatal failure "Pipeline crashed"

end GatewayNotice

end MeterSignals
