/-
# Time stamps

A stamp is a year, which may be followed by a month and that by a day, all between
hyphens; then, behind a `T`, a time of day and the distance of its zone from UTC. A year
has four digits, or six and a sign. A date alone is in UTC; a time without a zone is
local. Hour 24 is the end of the day, a day past the end of its month belongs to the
next one, and digits behind the milliseconds are ignored.

These are the stamps of ISO 8601 that every reader of dates must take, and no others are read here.
A reader may take more forms, such as `2024/01/16` or the dates of RFC 1123, each as it likes.
-/

import MeterSignals.Text.Ascii
import MeterSignals.Time.Instant

namespace MeterSignals.Stamp

open Ascii

/-- What is left of a stamp after a part of it has been read. -/
abbrev Rest := List UInt16

/-- Exactly `count` decimal digits. -/
def digits (count : Nat) (input : List UInt16) : Option (Nat × Rest) := do
  let ds ← (input.take count).mapM Text.digit?
  if ds.length = count then some (Text.valueOfDigits 10 ds, input.drop count) else none

/-- Exactly `count` decimal digits whose number is within bounds. -/
def bounded (count low high : Nat) (input : List UInt16) : Option (Nat × Rest) := do
  let (n, rest) ← digits count input
  if low ≤ n && n ≤ high then some (n, rest) else none

/-- A year. Year zero has no sign. -/
def year : List UInt16 → Option (Int × Rest)
  | plus :: rest => (digits 6 rest).map fun (n, rest) => (n, rest)
  | minus :: rest => do
    let (n, rest) ← digits 6 rest
    if n = 0 then none else some (-n, rest)
  | rest => (digits 4 rest).map fun (n, rest) => (n, rest)

/-- A month or a day behind its hyphen; 1 where it is left out. -/
def hyphenated (high : Nat) : List UInt16 → Option (Nat × Bool × Rest)
  | minus :: rest => (bounded 2 1 high rest).map fun (n, rest) => (n, true, rest)
  | rest => some (1, false, rest)

/-- The date at the front of a stamp. -/
def date (input : List UInt16) : Option (CivilDate × Rest) := do
  let (y, rest) ← year input
  let (m, more, rest) ← hyphenated 12 rest
  if more then
    let (d, _, rest) ← hyphenated 31 rest
    return (⟨y, m, d⟩, rest)
  else
    return (⟨y, m, 1⟩, rest)

/-- The leading decimal digits of a row of units, and the rest of the row. -/
def digitRun (input : List UInt16) : List Nat × Rest :=
  ((input.takeWhile isDigit).filterMap Text.digit?, input.dropWhile isDigit)

/-- Milliseconds from the digits of a fraction of a second. -/
def milliseconds (fraction : List Nat) : Nat :=
  Text.valueOfDigits 10 ((fraction ++ [0, 0, 0]).take 3)

/-- The digits of the fraction of a second behind its point; none where it is left out. -/
def fraction : List UInt16 → Option (List Nat × Rest)
  | dot :: rest =>
    match digitRun rest with
    | ([], _) => none
    | (ds, rest) => some (ds, rest)
  | rest => some ([], rest)

/-- Seconds and the digits of their fraction; zero where they are left out. -/
def seconds : List UInt16 → Option (Nat × List Nat × Rest)
  | colon :: rest => do
    let (s, rest) ← bounded 2 0 59 rest
    let (ds, rest) ← fraction rest
    return (s, ds, rest)
  | rest => some (0, [], rest)

/-- A time of day in milliseconds. Only midnight may be written with the hour 24, and then
every digit behind the hour is zero, also one that would be ignored. -/
def timeOfDay (input : List UInt16) : Option (Int × Rest) := do
  let (h, rest) ← bounded 2 0 24 input
  match rest with
  | colon :: rest =>
    let (m, rest) ← bounded 2 0 59 rest
    let (s, ds, rest) ← seconds rest
    if h = 24 && (m ≠ 0 || s ≠ 0 || ds.any (· ≠ 0)) then none
    else some (h * 3600000 + m * 60000 + s * 1000 + milliseconds ds, rest)
  | _ => none

/-- Hours and minutes of the distance from UTC, in milliseconds. -/
def distance (input : List UInt16) : Option (Int × Rest) := do
  let (h, rest) ← bounded 2 0 23 input
  let rest := match rest with
    | colon :: rest => rest
    | rest => rest
  let (m, rest) ← bounded 2 0 59 rest
  return (h * 3600000 + m * 60000, rest)

/-- How far the clock of a stamp is ahead of UTC, at the end of the stamp. -/
def zone (home : Zone) : List UInt16 → Option Int
  | [] => some home.offset
  | [capitalZ] => some 0
  | plus :: rest =>
    match distance rest with
    | some (ms, []) => some ms
    | _ => none
  | minus :: rest =>
    match distance rest with
    | some (ms, []) => some (-ms)
    | _ => none
  | _ => none

/-- The instant that a stamp denotes; `home` is the zone of a time without one. A text of any other
form denotes none. -/
def instant? (home : Zone) (stamp : Text) : Option Instant := do
  let (day, rest) ← date stamp.units
  let midnight := day.dayNumber * Instant.dayLength
  match rest with
  | [] => Instant.ofMilliseconds? midnight
  | capitalT :: rest =>
    let (time, rest) ← timeOfDay rest
    let ahead ← zone home rest
    Instant.ofMilliseconds? (midnight + time - ahead)
  | _ => none

end MeterSignals.Stamp
