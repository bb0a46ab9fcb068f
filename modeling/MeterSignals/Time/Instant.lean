/-
# Instants and zones

An instant is a whole number of milliseconds since 1 January 1970, 00:00 UTC, at most
100 million days away from it. A clock may also show no instant at all, which is `none`.
A zone is a fixed distance from UTC; it says on which day and at which minute of it an
instant falls.
-/

import MeterSignals.Number.Exact
import MeterSignals.Time.Civil

namespace MeterSignals

/-- Milliseconds since the start of 1970 in UTC. -/
abbrev Instant := Int

namespace Instant

/-- Milliseconds of a day. -/
def dayLength : Int := 86400000

/-- Milliseconds of a minute. -/
def minuteLength : Int := 60000

/-- The greatest distance of an instant from the start of 1970. -/
def limit : Int := 100000000 * dayLength

/-- The number of milliseconds as an instant, if it is in range. -/
def ofMilliseconds? (ms : Int) : Option Instant :=
  if -limit ≤ ms && ms ≤ limit then some ms else none

/-- The instant of a clock reading: a fraction of a millisecond is cut off. -/
def ofNumber? (x : Float) : Option Instant := (Number.truncate? x).bind ofMilliseconds?

end Instant

/-- A time zone, as milliseconds that its clocks are ahead of UTC at all times. Clocks that are put
forward in summer are not covered: on days on which the distance changes a local day is not 24 hours
long, and a time of day may come twice or not at all. -/
structure Zone where
  offset : Int

namespace Zone

/-- The number of the local day of an instant. -/
def dayNumber (zone : Zone) (t : Instant) : Int := (t + zone.offset) / Instant.dayLength

/-- The local date of an instant. -/
def date (zone : Zone) (t : Instant) : CivilDate := CivilDate.ofDayNumber (zone.dayNumber t)

/-- Whole minutes from the local midnight to an instant. -/
def minuteOfDay (zone : Zone) (t : Instant) : Int :=
  (t + zone.offset) % Instant.dayLength / Instant.minuteLength

/-- Whether two clock readings have the same local date. No instant is on no day. -/
def isSameDay (zone : Zone) : Option Instant → Option Instant → Bool
  | some a, some b => zone.date a == zone.date b
  | _, _ => false

end Zone

end MeterSignals
