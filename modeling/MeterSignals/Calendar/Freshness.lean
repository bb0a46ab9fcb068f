/-
# Which entry counts, and whether it is fresh

Of the entries of an answer the one that starts last counts; of several with that start
it is the first. It is fresh if it was changed on the local day of the check and its own
day has not started yet.
-/

import MeterSignals.Calendar.Entry
import MeterSignals.Calendar.Error
import MeterSignals.Time.Stamp

namespace MeterSignals.CalendarEntry

/-- Whether an entry starts later than another one. An entry whose start is no instant
starts neither before nor after any other. -/
def startsAfter (home : Zone) (entry other : CalendarEntry) : Bool :=
  match Stamp.instant? home entry.start, Stamp.instant? home other.start with
  | some a, some b => b < a
  | _, _ => false

/-- The later one of two entries; the first if neither is later. -/
def later (home : Zone) (latest entry : CalendarEntry) : CalendarEntry :=
  if entry.startsAfter home latest then entry else latest

/-- The entry that counts. -/
def selectLatest (home : Zone) : List CalendarEntry → Except CalendarError CalendarEntry
  | [] => .error (.noData "Calendar response holds no entry")
  | entry :: rest => .ok (rest.foldl (later home) entry)

/-- The color of an entry that is fresh at the time of the check. -/
def freshColor (home : Zone) (entry : CalendarEntry) (now : Option Instant) :
    Except CalendarError DayColor :=
  match Stamp.instant? home entry.updated, Stamp.instant? home entry.start with
  | some updated, some start =>
    if !home.isSameDay (some updated) now then
      .error (.staleData ("Calendar last updated " ++ entry.updated))
    else if now.any (start ≤ ·) then
      .error (.staleData ("Calendar entry started " ++ entry.start))
    else .ok entry.color
  | _, _ => .error (.invalidResponse "Unparseable calendar dates" (some entry.toJson))

end MeterSignals.CalendarEntry
