/-
# When the calendar gives no color

Every failure of the calendar can be overcome by asking again later. The kinds tell which
side is at fault.
-/

import MeterSignals.Fault

namespace MeterSignals

/-- Why the calendar gives no color. -/
inductive CalendarError
  /-- The service refuses the credentials or the token. -/
  | authFailed (message : Text) (status : Option Float)
  /-- A request failed or its answer could not be read. -/
  | networkError (message : Text) (cause : Option Failure)
  /-- The service answered something else than it should. -/
  | invalidResponse (message : Text) (data : Option Json)
  /-- The answer holds no entry. -/
  | noData (message : Text)
  /-- The entry is not about the day to come. -/
  | staleData (message : Text)
  deriving Inhabited

namespace CalendarError

/-- The name of the kind. -/
def kind : CalendarError → Text
  | authFailed .. => "AUTH_FAILED"
  | networkError .. => "NETWORK_ERROR"
  | invalidResponse .. => "INVALID_RESPONSE"
  | noData _ => "NO_DATA"
  | staleData _ => "STALE_DATA"

/-- What is said about the failure. -/
def message : CalendarError → Text
  | authFailed m _ => m
  | networkError m _ => m
  | invalidResponse m _ => m
  | noData m => m
  | staleData m => m

/-- The failure in words. -/
def formatted : CalendarError → Text
  | authFailed m _ => "Authentication failed: " ++ m
  | networkError m _ => "Network error: " ++ m
  | invalidResponse m _ => "Invalid response: " ++ m
  | noData m => "No data: " ++ m
  | staleData m => "Stale data: " ++ m

end CalendarError

end MeterSignals
