/-
# What a calendar lookup reports
-/

import MeterSignals.Log.Operation
import MeterSignals.Signal.DayColor

namespace MeterSignals

/-- A report of a calendar lookup. -/
inductive CalendarNotice
  | started
  | requestingToken (url : Text)
  | usingCachedToken
  | tokenCleared
  | completed (duration : Float) (color : DayColor) (start : Text)
  | failed (reason : Text)

namespace CalendarNotice

/-- The name of a lookup in the log. -/
def operation : Text := "fetchTempoCalendar"

/-- The report as an entry of the log. -/
def entry : CalendarNotice → Log.Entry
  | started => Log.Operation.started .tempo operation []
  | requestingToken url =>
    .detailed .tempo .debug [("url", .str url)] "Fetching calendar access token..."
  | usingCachedToken => .bare .tempo .debug "Using cached access token"
  | tokenCleared => .bare .tempo .debug "Token cache cleared"
  | completed duration color start =>
    Log.Operation.completed .tempo operation duration
      [("color", .str color.label), ("startDate", .str start)]
  | failed reason => Log.Operation.failed .tempo operation reason []

end CalendarNotice

end MeterSignals
