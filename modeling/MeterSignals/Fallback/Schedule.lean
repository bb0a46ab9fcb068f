/-
# The fetch window and what is remembered of it

The calendar may be asked inside a window that opens once a day at a local time. What it
answered is remembered until the day of the month changes.
-/

import MeterSignals.Signal.DayColor
import MeterSignals.Time.Instant

namespace MeterSignals

/-- A daily window: its start as a local time, and its length in minutes. -/
structure FetchWindow where
  hour : Int
  minute : Int
  duration : Int

/-- A remembered day of the month. -/
inductive DayMark
  | never
  | day (day : Int)
  /-- The clock showed no instant; no later reading is on this day. -/
  | unreadable
  /-- A number that is no whole one; no reading is on this day. -/
  | other (number : Float)

/-- What is remembered of the calendar. -/
structure Schedule where
  lastSuccessDay : DayMark
  lastSeenDay : DayMark
  /-- The color of the next day, as long as it is the next day. -/
  cachedColor : Option DayColor

namespace DayMark

/-- The mark of a clock reading. -/
def ofReading (home : Zone) : Option Instant → DayMark
  | some now => day (home.date now).day
  | none => unreadable

/-- The mark that a number stands for. -/
def ofNumber (x : Float) : DayMark :=
  if x.isNaN then unreadable
  else if Number.isNegativeZero x then other x
  else
    match Number.integer? x with
    | some 0 => never
    | some n => day n
    | none => other x

/-- A mark as a number. -/
def toNumber : DayMark → Float
  | never => 0
  | day n => Number.ofInteger n
  | unreadable => 0 / 0
  | other x => x

/-- Whether a reading is on a remembered day. -/
def isOn (home : Zone) (mark : DayMark) (now : Option Instant) : Bool :=
  match mark, now with
  | day n, some now => n == (home.date now).day
  | _, _ => false

end DayMark

namespace FetchWindow

/-- The first minute that no clock reads. -/
def endOfDay : Int := 1440

/-- The window that is never open. -/
def closed : FetchWindow := ⟨0, 0, 0⟩

/-- The window that starts at a local time and lasts for some minutes, all of which may be
any numbers. Clocks are read in whole minutes, so it covers those whole minutes that are
not before its start and before its end. Without a start it covers none, and without an
end the rest of the day. -/
def ofNumbers (hour minute duration : Float) : FetchWindow :=
  let start := hour * 60 + minute
  let stop := start + duration
  match Number.ceiling? start, Number.ceiling? stop with
  | some first, some past => ⟨0, first, past - first⟩
  | some first, none => if 0 < stop then ⟨0, first, endOfDay - first⟩ else closed
  | none, _ => closed

/-- The minute of the day at which a window opens. -/
def start (window : FetchWindow) : Int := window.hour * 60 + window.minute

/-- Whether the window is open. It closes at the end of the day at the latest. -/
def isOpen (window : FetchWindow) (home : Zone) : Option Instant → Bool
  | some now =>
    window.start ≤ home.minuteOfDay now && home.minuteOfDay now < window.start + window.duration
  | none => false

end FetchWindow

namespace Schedule

/-- Nothing has been seen and nothing is known. -/
def initial : Schedule := ⟨.never, .never, none⟩

/-- Forget the color when the day of the month is another one than at the last look. -/
def rollOver (home : Zone) (schedule : Schedule) (now : Option Instant) : Schedule :=
  if schedule.lastSeenDay.isOn home now then schedule
  else { schedule with lastSeenDay := DayMark.ofReading home now, cachedColor := none }

/-- Whether the calendar is to be asked: no color is known and the window is open. -/
def isFetchDue (home : Zone) (schedule : Schedule) (now : Option Instant)
    (window : FetchWindow) : Bool :=
  schedule.cachedColor.isNone && window.isOpen home now

/-- What is remembered after the calendar gave a color. -/
def ofSuccess (home : Zone) (color : DayColor) (now : Option Instant) : Schedule :=
  let today := DayMark.ofReading home now
  ⟨today, today, some color⟩

end Schedule

end MeterSignals
