/-
# Entries about operations

An operation that takes its time is logged when it starts and when it ends, well or
badly. The details of an entry name the operation; further details may be given, and one
of the same name takes the place of the usual one.
-/

import MeterSignals.Log.Entry

namespace MeterSignals.Log.Operation

/-- An operation starts. -/
def started (channel : Channel) (operation : Text) (further : Json.Members) : Entry :=
  .detailed channel .info (Json.Members.override [("operation", .str operation)] further)
    ("→ " ++ operation ++ " started")

/-- An operation has ended well after some milliseconds. -/
def completed (channel : Channel) (operation : Text) (duration : Float)
    (further : Json.Members) : Entry :=
  .detailed channel .info
    (Json.Members.override [("operation", .str operation), ("durationMs", .num duration)] further)
    ("✓ " ++ operation ++ " completed (" ++ Number.text duration ++ "ms)")

/-- An operation has failed. -/
def failed (channel : Channel) (operation reason : Text) (further : Json.Members) : Entry :=
  .detailed channel .error
    (Json.Members.override [("operation", .str operation), ("error", .str reason)] further)
    ("✗ " ++ operation ++ " failed: " ++ reason)

end MeterSignals.Log.Operation
