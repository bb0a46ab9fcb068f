/-
# How the channels are written

A channel is written as structured data. For development it is made readable: each line
starts with the time and the name of its channel in the channel's color.
-/

import MeterSignals.Log.Entry

namespace MeterSignals.Log

/-- Where the program runs. -/
inductive Environment
  | development
  | production
  | test
  deriving DecidableEq

namespace Environment

/-- All environments. -/
def all : List Environment := [development, production, test]

/-- The name of an environment. -/
def label : Environment → Text
  | development => "development"
  | production => "production"
  | test => "test"

end Environment

/-- The parameter of the terminal sequence that selects the color of a channel. -/
def Channel.color : Channel → Text
  | .pipeline => "34"
  | .meter => "35"
  | .tempo => "33"
  | .mqtt => "91"
  | .relay => "36"
  | .input => "32"

/-- The terminal sequence that selects a color; the color `0` is the usual one. -/
def colorSequence (color : Text) : Text := "\x1b[" ++ color ++ "m"

/-- The form of a readable line of a channel. -/
def Channel.lineFormat (channel : Channel) : Text :=
  colorSequence channel.color ++ "[\x7bname\x7d]" ++ colorSequence "0" ++ " \x7bmsg\x7d"

/-- The settings under which a channel is written. -/
def setup (environment : Environment) (threshold : Threshold) (channel : Channel) : Json :=
  let members : Json.Members :=
    [("name", Json.str channel.label), ("level", Json.str threshold.label)]
  match environment with
  | .development =>
    let readable : Json.Members :=
      [ ("colorize", .bool true),
        ("messageFormat", .str channel.lineFormat),
        ("ignore", .str "pid,hostname"),
        ("translateTime", .str "HH:MM:ss") ]
    let transport : Json.Members :=
      [("target", .str "pino-pretty"), ("options", .obj readable)]
    .obj (Json.Members.insert "transport" (.obj transport) members)
  | _ => .obj members

end MeterSignals.Log
