/-
# Log entries

Every entry belongs to a channel and has a level, a text and, where there is something to
add, a context of named details. Entries below a chosen threshold are not written.
-/

import MeterSignals.Fault

namespace MeterSignals.Log

/-- The part of the program that an entry speaks for. -/
inductive Channel
  | pipeline
  | meter
  | tempo
  | mqtt
  | relay
  | input
  deriving DecidableEq

/-- How much an entry matters. -/
inductive Level
  | trace
  | debug
  | info
  | warn
  | error
  | fatal
  deriving DecidableEq

/-- The least level that is written; `silent` writes nothing. -/
inductive Threshold
  | atLeast (level : Level)
  | silent
  deriving DecidableEq

namespace Channel

/-- All channels. -/
def all : List Channel := [pipeline, meter, tempo, mqtt, relay, input]

/-- The name of a channel. -/
def label : Channel → Text
  | pipeline => "pipeline"
  | meter => "meter"
  | tempo => "tempo"
  | mqtt => "mqtt"
  | relay => "relay"
  | input => "input"

end Channel

namespace Level

/-- All levels, the least first. -/
def all : List Level := [trace, debug, info, warn, error, fatal]

/-- The place of a level among all of them. -/
def rank : Level → Nat
  | trace => 0
  | debug => 1
  | info => 2
  | warn => 3
  | error => 4
  | fatal => 5

/-- The name of a level. -/
def label : Level → Text
  | trace => "trace"
  | debug => "debug"
  | info => "info"
  | warn => "warn"
  | error => "error"
  | fatal => "fatal"

end Level

namespace Threshold

/-- The name of a threshold. -/
def label : Threshold → Text
  | atLeast level => level.label
  | silent => "silent"

/-- All thresholds, the least first. -/
def all : List Threshold := Level.all.map atLeast ++ [silent]

/-- Whether entries of a level are written. -/
def admits : Threshold → Level → Bool
  | atLeast least, level => least.rank ≤ level.rank
  | silent, _ => false

end Threshold

/-- A detail of an entry: a value, or what somebody threw. -/
inductive Detail
  | value (value : Json)
  | failure (failure : Failure)

/-- Named details. -/
abbrev Context := List (Text × Detail)

/-- One entry of the log. -/
structure Entry where
  channel : Channel
  level : Level
  context : Option Context
  text : Text

namespace Entry

/-- An entry without details. -/
def bare (channel : Channel) (level : Level) (text : Text) : Entry :=
  ⟨channel, level, none, text⟩

/-- An entry whose details are values. -/
def detailed (channel : Channel) (level : Level) (details : List (Text × Json)) (text : Text) :
    Entry :=
  ⟨channel, level, some (details.map fun (name, v) => (name, .value v)), text⟩

/-- An entry about something that was thrown. -/
def failed (channel : Channel) (level : Level) (failure : Failure) (text : Text) : Entry :=
  ⟨channel, level, some [("error", .failure failure)], text⟩

end Entry

end MeterSignals.Log
