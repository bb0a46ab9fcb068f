/-
# What the broker connection reports
-/

import MeterSignals.Log.Entry

namespace MeterSignals

/-- A report of the broker connection. -/
inductive BrokerNotice
  | alreadyRunning
  | connecting (url : Text)
  | connectFailed (failure : Failure)
  | connected
  | clientError (message : Text)
  | closed
  | reconnecting
  | offline
  | batchPublished (topics : List Text)
  | disconnecting

namespace BrokerNotice

/-- The report as an entry of the log. -/
def entry : BrokerNotice → Log.Entry
  | alreadyRunning => .bare .mqtt .warn "MQTT client already initialized"
  | connecting url => .detailed .mqtt .info [("broker", .str url)] "Connecting to MQTT broker..."
  | connectFailed failure => .failed .mqtt .error failure "Failed to initialize MQTT client"
  | connected => .bare .mqtt .info "Connected to MQTT broker"
  | clientError message => .detailed .mqtt .error [("error", .str message)] "MQTT client error"
  | closed => .bare .mqtt .warn "MQTT connection closed"
  | reconnecting => .bare .mqtt .info "Reconnecting to MQTT broker..."
  | offline => .bare .mqtt .warn "MQTT client offline"
  | batchPublished topics =>
    .detailed .mqtt .debug [("topics", .arr (topics.map .str))] "Signal batch published"
  | disconnecting => .bare .mqtt .info "Disconnecting MQTT client..."

end BrokerNotice

end MeterSignals
