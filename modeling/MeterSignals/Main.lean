/-
# The command line

The settings come from the environment and the lines from the standard input. The log goes
to the standard error. What the gateway does to the outside is written to the standard
output, one document a line, and a transport behind it carries it out: the broker counts
as connected from the start, every message and datagram as accepted, and the calendar
service as out of reach. Days are those of UTC.
-/

import MeterSignals.Config.Document
import MeterSignals.Gateway.Document
import MeterSignals.Json.Writer
import Std.Time.Format

namespace MeterSignals.Shell

/-- The outside as it looks from behind a pipe. -/
def surroundings : Surroundings :=
  { home := ⟨0⟩
    connectThrown := none
    closeThrown := none
    sendFailure := none
    acceptance := fun _ => .accepted
    alarm := Http.Alarm.wholeMilliseconds }

/-- What becomes of every request. -/
def outOfReach : Http.Reply := .error (.fault (Fault.plain "out of reach"))

/-- Milliseconds since the epoch. -/
def currentTime : IO Float := do
  let now ← Std.Time.Timestamp.now
  return Number.ofInteger now.toMillisecondsSinceUnixEpoch.val

/-- The variables that are set, of those that matter. -/
def environment : IO Environment := do
  let values ← Config.variableNames.mapM fun name => do
    return (← IO.getEnv name).map fun value => ((name : Text), (value : Text))
  return values.filterMap id

/-- One event, and an end to the lookup it may have begun. -/
def react (now : Float) (gateway : Gateway) (event : GatewayEvent) : GatewayStep :=
  (gateway.step surroundings now event).andThen fun next =>
    if next.lookup.isSome then next.step surroundings now (.answer outOfReach) else .still next

/-- Write what a step reports and does; the status with which it wants to end, if it does. -/
def carryOut (step : GatewayStep) : IO (Option UInt32) := do
  let log ← IO.getStderr
  let output ← IO.getStdout
  for notice in step.notices do
    if step.gateway.config.logLevel.admits notice.entry.level then
      log.putStrLn notice.entry.toJson.written.toString
  for effect in step.effects do
    output.putStrLn effect.toJson.written.toString
  output.flush
  return step.effects.findSome? fun
    | .exit status => some status.toUInt32
    | _ => none

/-- Read the input piece by piece until it ends. -/
partial def serve (gateway : Gateway) : IO UInt32 := do
  let piece ← (← IO.getStdin).read 65536
  let event := if piece.isEmpty then .endOfInput else .input piece.toList
  let step := react (← currentTime) gateway event
  match ← carryOut step with
  | some status => return status
  | none => if piece.isEmpty then return 0 else serve step.gateway

/-- Run the gateway until the input ends, or complain about the settings. -/
def run : IO UInt32 := do
  match Config.load (← environment) with
  | .error refusal =>
    let log ← IO.getStderr
    log.putStrLn refusal.heading.toString
    log.putStrLn refusal.report.written.toString
    return refusal.status.toUInt32
  | .ok config =>
    let output ← IO.getStdout
    for line in Gateway.banner do
      output.putStrLn line.toString
    let started := (Gateway.start config surroundings).andThen fun gateway =>
      react 0 gateway (.client (some .connect) true)
    match ← carryOut started with
    | some status => return status
    | none => serve started.gateway

end MeterSignals.Shell

/-- The program. -/
def main : IO UInt32 := MeterSignals.Shell.run
