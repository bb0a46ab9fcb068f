/-
# Reports

Each part of the program reports in its own terms. Where reports of several parts come in
one order, they are put together here, and every one of them is one entry of the log.
-/

import MeterSignals.Calendar.Notice
import MeterSignals.Fallback.Scheduler
import MeterSignals.Lines
import MeterSignals.Broker.Notice
import MeterSignals.Gateway.Notice
import MeterSignals.Stream.Notice

namespace MeterSignals

/-- A report of any part. -/
inductive Notice
  | stream (notice : StreamNotice)
  | fallback (notice : FallbackNotice)
  | calendar (notice : CalendarNotice)
  | broker (notice : BrokerNotice)
  | relay (notice : RelayNotice)
  | input (notice : InputNotice)
  | gateway (notice : GatewayNotice)

namespace Notice

/-- The report as an entry of the log. -/
def entry : Notice → Log.Entry
  | stream n => n.entry
  | fallback n => n.entry
  | calendar n => n.entry
  | broker n => n.entry
  | relay n => n.entry
  | input n => n.entry
  | gateway n => n.entry

end Notice

end MeterSignals
