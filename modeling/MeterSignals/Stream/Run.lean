/-
# Reading a stream to its end

Lines are read one at a time: the next line enters when the one before it is done. A line
that breaks off is reported with its number, and the reading goes on. What was still under
way for it stays under way; it ends later, beside the lines that follow.
-/

import MeterSignals.Stream.Basic

namespace MeterSignals

/-- A stream that is being read. -/
structure StreamRun where
  stream : Stream
  /-- How many lines have entered. -/
  count : Nat
  /-- The line that the reading waits for, with its number. -/
  current : Option (Nat × Flight)
  /-- Earlier lines of which something is still under way. -/
  left : List (Nat × Flight)

/-- Something that happens while a stream is read. -/
inductive RunEvent
  /-- A line enters; it is ignored while another one is not done. -/
  | line (line : Text) (now : Option Instant) (thrown : Option Failure)
  /-- The send of a line, given by its number, ends. -/
  | relaySettled (number : Nat) (reply : RelayReply)
  /-- The publication of a line, given by its number, ends. -/
  | publicationSettled (number : Nat) (reply : PublishReply)
  /-- The reading goes on if the line that it waits for is done. -/
  | resumed
  /-- A calendar lookup comes back. -/
  | lookupFinished (now : Option Instant) (outcome : LookupOutcome)

/-- What an event leads to. -/
structure RunStep where
  run : StreamRun
  relay : Option Text
  batch : Option Batch
  asked : Bool
  notices : List Notice

/-- A line that is to be read, and how its two legs will end. -/
structure Passage where
  line : Text
  now : Option Instant
  /-- What the start of a calendar lookup throws. -/
  thrown : Option Failure
  relay : RelayReply
  publish : PublishReply

/-- What the reading of one line came to. -/
structure Reading where
  /-- The text for the observer. -/
  relay : Option Text
  /-- The batch for the broker. -/
  batch : Option Batch
  /-- The line as it was when the reading went on. -/
  flight : Option Flight
  notices : List Notice

namespace StreamRun

/-- Nothing has been read. -/
def initial (stream : Stream) : StreamRun := ⟨stream, 0, none, []⟩

/-- A step that sends nothing. -/
private def quiet (run : StreamRun) (notices : List Notice) : RunStep :=
  ⟨run, none, none, false, notices⟩

/-- Apply a change to the line with a number, whether the reading waits for it or not. -/
def update (run : StreamRun) (number : Nat)
    (change : Flight → Flight × List StreamNotice) : StreamRun × List StreamNotice :=
  match run.current with
  | some (n, flight) =>
    if n = number then
      let (flight, notices) := change flight
      ({ run with current := some (n, flight) }, notices)
    else updateLeft run
  | none => updateLeft run
where
  /-- Look for the line among the earlier ones. -/
  updateLeft (run : StreamRun) : StreamRun × List StreamNotice :=
    let changed := run.left.map fun (n, flight) =>
      if n = number then
        let (flight, notices) := change flight
        ((n, flight), notices)
      else ((n, flight), [])
    ({ run with left := (changed.map (·.1)).filter fun (_, flight) => !flight.isLanded },
      changed.flatMap (·.2))

/-- The report on a line that broke off. -/
def failureNotice (number : Nat) : Failure → StreamNotice
  | .fault fault => .lineFailed fault.message number
  | .value _ => .lineFailed "Unknown error" number

/-- One event. -/
def step (run : StreamRun) : RunEvent → RunStep
  | .line line now thrown =>
    match run.current with
    | some _ => quiet run []
    | none =>
      let entrance := run.stream.enter line now thrown
      { run :=
          { run with
            stream := entrance.stream
            count := run.count + 1
            current := some (run.count + 1, entrance.flight) }
        relay := entrance.relay
        batch := entrance.batch
        asked := entrance.asked
        notices := entrance.notices }
  | .relaySettled number reply =>
    let (run, notices) := run.update number (·.settleRelay reply)
    quiet run (notices.map Notice.stream)
  | .publicationSettled number reply =>
    let (run, notices) := run.update number (·.settlePublication reply)
    quiet run (notices.map Notice.stream)
  | .resumed =>
    match run.current with
    | some (number, flight) =>
      let rest := if flight.isLanded then run.left else run.left ++ [(number, flight)]
      match flight.result with
      | some (.ok _) => quiet { run with current := none, left := rest } []
      | some (.error failure) =>
        quiet { run with current := none, left := rest }
          [.stream (failureNotice number failure)]
      | none => quiet run []
    | none => quiet run []
  | .lookupFinished now outcome =>
    let (stream, notices) := run.stream.finishLookup now outcome
    quiet { run with stream := stream } notices

/-- Read a line to its end: it enters, its send ends, its publication ends, and the reading
goes on. -/
def read (run : StreamRun) (passage : Passage) : StreamRun × Reading :=
  let entered := run.step (.line passage.line passage.now passage.thrown)
  let number := entered.run.count
  let relayed := entered.run.step (.relaySettled number passage.relay)
  let published := relayed.run.step (.publicationSettled number passage.publish)
  let resumed := published.run.step .resumed
  (resumed.run,
    { relay := entered.relay
      batch := entered.batch
      flight := published.run.current.map (·.2)
      notices := entered.notices ++ relayed.notices ++ published.notices ++ resumed.notices })

/-- Read lines to their ends, one after the other. -/
def readAll : StreamRun → List Passage → StreamRun × List Reading
  | run, [] => (run, [])
  | run, passage :: rest =>
    let (next, reading) := run.read passage
    let (final, readings) := readAll next rest
    (final, reading :: readings)

end StreamRun

end MeterSignals
