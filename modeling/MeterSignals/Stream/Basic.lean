/-
# Streams of lines

A stream is what one meter sends. A line that enters is taken in at once; if its signals
are to be published and the meter does not know the next day's color, the fallback is
asked for it. What comes out is the line for the observer and the batch for the broker.
-/

import MeterSignals.Stream.Flight

namespace MeterSignals

/-- The calendar fallback of a stream. -/
structure Fallback where
  home : Zone
  window : FetchWindow
  scheduler : Scheduler

/-- A stream with what it remembers. -/
structure Stream where
  options : StreamOptions
  /-- Lines are sent to an observer. -/
  relayed : Bool
  state : StreamState
  fallback : Option Fallback

/-- A line that has entered a stream. -/
structure Entrance where
  stream : Stream
  flight : Flight
  /-- The text for the observer. -/
  relay : Option Text
  /-- The batch for the broker. -/
  batch : Option Batch
  /-- A calendar lookup was started or its start was tried. -/
  asked : Bool
  notices : List Notice

namespace Fallback

/-- A fallback that knows nothing yet. -/
def initial (home : Zone) (window : FetchWindow) : Fallback := ⟨home, window, Scheduler.initial⟩

/-- The color of the next day at `now`. -/
def resolve (fallback : Fallback) (now : Option Instant) (localColor : Option DayColor)
    (thrown : Option Failure) : Resolution :=
  fallback.scheduler.resolve fallback.home fallback.window now localColor thrown

/-- The lookup on its way comes back at `now`. -/
def finish (fallback : Fallback) (now : Option Instant) (outcome : LookupOutcome) :
    Fallback × List FallbackNotice :=
  let (scheduler, notices) := fallback.scheduler.finish fallback.home now outcome
  ({ fallback with scheduler := scheduler }, notices)

end Fallback

namespace Entrance

/-- Both legs of the line end at once, the send to the observer first: the line as it is
then, and all that was reported from its entrance on. -/
def settle (entrance : Entrance) (relay : RelayReply) (publish : PublishReply) :
    Flight × List Notice :=
  let (flight, relayNotices) := entrance.flight.settleRelay relay
  let (flight, publishNotices) := flight.settlePublication publish
  (flight, entrance.notices ++ (relayNotices ++ publishNotices).map Notice.stream)

end Entrance

namespace Stream

/-- A stream before its first line. -/
def initial (options : StreamOptions) (relayed : Bool) (fallback : Option Fallback) : Stream :=
  ⟨options, relayed, StreamState.initial, fallback⟩

/-- The signals to publish, with the color of the next day that the fallback gives; or
what the start of a lookup threw. -/
def complete (fallback : Option Fallback) (signals : Signals) (now : Option Instant)
    (thrown : Option Failure) :
    Option Fallback × Except Failure Signals × Bool × List FallbackNotice :=
  match fallback with
  | none => (none, .ok signals, false, [])
  | some f =>
    let answer := f.resolve now signals.nextDayColor thrown
    (some { f with scheduler := answer.scheduler },
      answer.color.map fun color => { signals with nextDayColor := color },
      answer.asked, answer.notices)

/-- A line enters at `now`. If a calendar lookup is started and its start throws, `thrown`
is what it throws. -/
def enter (stream : Stream) (line : Text) (now : Option Instant) (thrown : Option Failure) :
    Entrance :=
  let intake := stream.state.take stream.options line
  let stream := { stream with state := intake.state }
  let relay := if stream.relayed then some (relayedText line) else none
  let notices := intake.notices.map Notice.stream
  match intake.verdict with
  | .rejected e =>
    ⟨stream, .start stream.relayed (.done (.rejected e)), relay, none, false, notices⟩
  | .throttled signals =>
    ⟨stream, .start stream.relayed (.done (.throttled signals)), relay, none, false, notices⟩
  | .due signals =>
    let (fallback, completed, asked, more) := complete stream.fallback signals now thrown
    let stream := { stream with fallback := fallback }
    let notices := notices ++ more.map Notice.fallback
    match completed with
    | .error failure =>
      ⟨stream, .start stream.relayed (.broken failure), relay, none, asked, notices⟩
    | .ok signals =>
      ⟨stream, .start stream.relayed (.publishing signals), relay,
        some (signals.batch stream.options.topics), asked, notices⟩

/-- A calendar lookup comes back at `now`. Nothing happens if none is on its way. -/
def finishLookup (stream : Stream) (now : Option Instant) (outcome : LookupOutcome) :
    Stream × List Notice :=
  match stream.fallback with
  | some f =>
    if f.scheduler.inFlight then
      let (fallback, notices) := f.finish now outcome
      ({ stream with fallback := some fallback }, notices.map Notice.fallback)
    else (stream, [])
  | none => (stream, [])

end Stream

end MeterSignals
