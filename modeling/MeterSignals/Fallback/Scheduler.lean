/-
# The fallback for an unknown next day

Where the meter does not know the color of the next day, the calendar is asked in the
background, one lookup at a time. Nobody waits for the answer: as long as it has not come,
the color stays unknown. A color that the meter knows always wins.
-/

import MeterSignals.Calendar.Freshness
import MeterSignals.Fallback.Schedule
import MeterSignals.Log.Entry

namespace MeterSignals

/-- A report of the fallback. -/
inductive FallbackNotice
  | lookupStarted
  | colorCached (color : DayColor)
  | missed (error : CalendarError)
  | rejected (failure : Failure)

namespace FallbackNotice

/-- The report as an entry of the log. -/
def entry : FallbackNotice → Log.Entry
  | lookupStarted => .bare .tempo .debug "Starting calendar fallback fetch"
  | colorCached color =>
    .detailed .tempo .info [("color", .str color.label)] "Tomorrow color cached from calendar"
  | missed e =>
    .detailed .tempo .warn [("errorType", .str e.kind)]
      ("Calendar fallback missed: " ++ e.formatted)
  | rejected failure => .failed .tempo .error failure "Calendar fetch rejected unexpectedly"

end FallbackNotice

/-- The state of the fallback. -/
structure Scheduler where
  schedule : Schedule
  /-- A lookup is on its way. -/
  inFlight : Bool

/-- How a lookup comes back: with an entry, with the reason why there is none, or not in
the agreed way at all. -/
inductive LookupOutcome
  | entry (entry : CalendarEntry)
  | error (error : CalendarError)
  | rejected (failure : Failure)

/-- What the fallback says to one question for the color of the next day. -/
structure Resolution where
  scheduler : Scheduler
  /-- The color, or what the start of a lookup threw. -/
  color : Except Failure (Option DayColor)
  /-- A lookup was started or its start was tried. -/
  asked : Bool
  notices : List FallbackNotice

namespace Scheduler

/-- Nothing is known and no lookup is on its way. -/
def initial : Scheduler := ⟨Schedule.initial, false⟩

/-- Whether a lookup has to be started when the color is wanted at `now`. -/
def needsLookup (scheduler : Scheduler) (home : Zone) (window : FetchWindow)
    (now : Option Instant) : Bool :=
  !scheduler.inFlight && scheduler.schedule.isFetchDue home now window

/-- The color of the next day at `now`, where `localColor` is what the meter says. If a
lookup has to be started and its start throws, `thrown` is what it throws. -/
def resolve (scheduler : Scheduler) (home : Zone) (window : FetchWindow)
    (now : Option Instant) (localColor : Option DayColor) (thrown : Option Failure) :
    Resolution :=
  let rolled := { scheduler with schedule := scheduler.schedule.rollOver home now }
  match localColor, rolled.schedule.cachedColor with
  | some color, _ => ⟨rolled, .ok (some color), false, []⟩
  | none, some color => ⟨rolled, .ok (some color), false, []⟩
  | none, none =>
    if rolled.needsLookup home window now then
      match thrown with
      | some failure => ⟨rolled, .error failure, true, [.lookupStarted]⟩
      | none => ⟨{ rolled with inFlight := true }, .ok none, true, [.lookupStarted]⟩
    else ⟨rolled, .ok none, false, []⟩

/-- The lookup on its way comes back at `now`. -/
def finish (scheduler : Scheduler) (home : Zone) (now : Option Instant) :
    LookupOutcome → Scheduler × List FallbackNotice
  | .rejected failure => ({ scheduler with inFlight := false }, [.rejected failure])
  | .error e => (⟨scheduler.schedule.rollOver home now, false⟩, [.missed e])
  | .entry entry =>
    match entry.freshColor home now with
    | .ok color => (⟨Schedule.ofSuccess home color now, false⟩, [.colorCached color])
    | .error e => (⟨scheduler.schedule.rollOver home now, false⟩, [.missed e])

end Scheduler

end MeterSignals
