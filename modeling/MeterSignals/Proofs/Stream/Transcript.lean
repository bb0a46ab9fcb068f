/-
# What a run sends and reports

While a stream is read, the send and the publication of a line end whenever they end, in
either order and possibly after later lines have entered. A transcript follows a run event
by event and keeps what it sends and reports. The part of it that says what was sent and
what the stream remembers is moved by lines and calendar lookups alone; the ends of sends
and publications, and with them all failures, change nothing of it.
-/

import MeterSignals.Proofs.Fallback.Scheduler
import MeterSignals.Proofs.Stream.Reading

namespace MeterSignals

/-- A run with all that it has sent and reported. -/
structure Transcript where
  run : StreamRun
  /-- The texts for the observer. -/
  relayed : List Text
  /-- The batches for the broker, each with the number of its line. -/
  batches : List (Nat × Batch)
  notices : List Notice

/-- What lines and lookups by themselves have led to. -/
structure Progress where
  stream : Stream
  /-- How many lines have entered. -/
  count : Nat
  relayed : List Text
  batches : List (Nat × Batch)

/-- Whether an end that was not agreed upon breaks the line off. -/
def breaksOff {α : Type} : Except Failure α → Bool
  | .error _ => true
  | .ok _ => false

@[simp]
theorem breaksOff_error {α : Type} (failure : Failure) :
    breaksOff (.error failure : Except Failure α) = true := rfl

@[simp]
theorem breaksOff_ok {α : Type} (value : α) :
    breaksOff (.ok value : Except Failure α) = false := rfl

namespace RunEvent

def isLine : RunEvent → Bool
  | .line .. => true
  | _ => false

/-- Lines and lookups reach the stream; the other events do not. -/
def reachesStream : RunEvent → Bool
  | .line .. => true
  | .lookupFinished .. => true
  | _ => false

end RunEvent

/-- The number of the line that a report says was broken off. -/
def Notice.failedLine : Notice → Option Nat
  | .stream (.lineFailed _ number) => some number
  | _ => none

namespace Progress

/-- Nothing has entered. -/
def initial (stream : Stream) : Progress := ⟨stream, 0, [], []⟩

/-- One event, of which only lines and lookups count. -/
def next (progress : Progress) : RunEvent → Progress
  | .line line now thrown =>
    let entrance := progress.stream.enter line now thrown
    let number := progress.count + 1
    ⟨entrance.stream, number, progress.relayed ++ entrance.relay.toList,
      progress.batches ++ entrance.batch.toList.map (number, ·)⟩
  | .lookupFinished now outcome =>
    { progress with stream := (progress.stream.finishLookup now outcome).1 }
  | _ => progress

/-- Events that do not reach the stream may be left out. -/
theorem foldl_next_filter (events : List RunEvent) (progress : Progress) :
    (events.filter RunEvent.reachesStream).foldl next progress = events.foldl next progress := by
  induction events generalizing progress with
  | nil => rfl
  | cons event events ih =>
      cases event with
      | line line now thrown => exact ih _
      | lookupFinished now outcome => exact ih _
      | relaySettled number reply => exact ih _
      | publicationSettled number reply => exact ih _
      | resumed => exact ih _

end Progress

namespace Transcript

/-- Nothing has happened. -/
def initial (stream : Stream) : Transcript := ⟨.initial stream, [], [], []⟩

/-- One event. -/
def next (transcript : Transcript) (event : RunEvent) : Transcript :=
  let step := transcript.run.step event
  { run := step.run
    relayed := transcript.relayed ++ step.relay.toList
    batches := transcript.batches ++ step.batch.toList.map (step.run.count, ·)
    notices := transcript.notices ++ step.notices }

/-- A row of events. -/
def after (transcript : Transcript) (events : List RunEvent) : Transcript :=
  events.foldl next transcript

/-- The transcript of a row of events. -/
def of (stream : Stream) (events : List RunEvent) : Transcript := (initial stream).after events

theorem after_append (transcript : Transcript) (earlier later : List RunEvent) :
    transcript.after (earlier ++ later) = (transcript.after earlier).after later :=
  List.foldl_append

theorem of_snoc (stream : Stream) (earlier : List RunEvent) (event : RunEvent) :
    of stream (earlier ++ [event]) = (of stream earlier).next event := after_append ..

/-- What lines and lookups have led to. -/
def progress (transcript : Transcript) : Progress :=
  ⟨transcript.run.stream, transcript.run.count, transcript.relayed, transcript.batches⟩

/-- The numbers of the lines that were reported as broken off. -/
def failures (transcript : Transcript) : List Nat :=
  transcript.notices.filterMap Notice.failedLine

/-- Whether a line was given to the broker. -/
def submitted (transcript : Transcript) (number : Nat) : Bool :=
  transcript.batches.any fun batch => batch.1 == number

end Transcript

namespace Stream

variable (stream : Stream)

/-- A lookup that comes back moves nothing but the fallback, and brings none about. -/
theorem finishLookup_kept (now : Option Instant) (outcome : LookupOutcome) :
    let later := (stream.finishLookup now outcome).1
    later.options = stream.options ∧ later.relayed = stream.relayed ∧
      later.state = stream.state ∧ (stream.fallback = none → later = stream) := by
  simp only [finishLookup]
  cases fallback : stream.fallback with
  | none => exact ⟨rfl, rfl, rfl, fun _ => rfl⟩
  | some found =>
      dsimp only
      split
      · exact ⟨rfl, rfl, rfl, fun absent => by cases absent⟩
      · exact ⟨rfl, rfl, rfl, fun absent => by cases absent⟩

end Stream

namespace Progress

/-- Without a fallback the lookups may be left out, too. -/
theorem foldl_next_lines (events : List RunEvent) {progress : Progress}
    (alone : progress.stream.fallback = none) :
    (events.filter RunEvent.isLine).foldl next progress = events.foldl next progress := by
  induction events generalizing progress with
  | nil => rfl
  | cons event events ih =>
      cases event with
      | line line now thrown =>
          exact ih (Stream.enter_of_no_fallback alone line now thrown).1
      | lookupFinished now outcome =>
          obtain ⟨-, -, -, absent⟩ := progress.stream.finishLookup_kept now outcome
          have same : progress.next (.lookupFinished now outcome) = progress := by
            rw [next, absent alone]
          rw [List.foldl_cons, same]
          exact ih alone
      | relaySettled number reply => exact ih alone
      | publicationSettled number reply => exact ih alone
      | resumed => exact ih alone

/-- The state of the stream is moved by lines alone, with a fallback as well as without. -/
theorem foldl_next_state (events : List RunEvent) {progress other : Progress}
    (options : other.stream.options = progress.stream.options)
    (state : other.stream.state = progress.stream.state) :
    ((events.filter RunEvent.isLine).foldl next other).stream.state =
      (events.foldl next progress).stream.state := by
  induction events generalizing progress other with
  | nil => exact state
  | cons event events ih =>
      cases event with
      | line line now thrown =>
          refine ih ?_ ?_
          · simp [next, options]
          · simp [next, options, state]
      | lookupFinished now outcome =>
          obtain ⟨kept, -, held, -⟩ := progress.stream.finishLookup_kept now outcome
          exact ih (options.trans kept.symm) (state.trans held.symm)
      | relaySettled number reply => exact ih options state
      | publicationSettled number reply => exact ih options state
      | resumed => exact ih options state

end Progress

/-- What is said when a line is taken in is not that it broke off. -/
theorem StreamState.failedLine_of_mem_take {options : StreamOptions} {state : StreamState}
    {line : Text} {notice : StreamNotice} (member : notice ∈ (state.take options line).notices) :
    (Notice.stream notice).failedLine = none := by
  cases read : Record.ofLine options.validity line with
  | error rejection =>
      rw [StreamState.take_of_error read, List.mem_singleton] at member
      rw [member]
      rfl
  | ok record =>
      rw [StreamState.take_of_ok read, takeRecord, Option.mem_toList,
        Option.map_eq_some_iff] at member
      obtain ⟨message, -, rfl⟩ := member
      rfl

/-- What is said when a line enters comes from its intake and from the fallback. -/
theorem Stream.enter_notices (stream : Stream) (line : Text) (now : Option Instant)
    (thrown : Option Failure) :
    ∃ more : List FallbackNotice, (stream.enter line now thrown).notices =
      (stream.state.take stream.options line).notices.map Notice.stream ++
        more.map Notice.fallback := by
  simp only [enter]
  split
  · exact ⟨[], (List.append_nil _).symm⟩
  · exact ⟨[], (List.append_nil _).symm⟩
  · split <;> exact ⟨_, rfl⟩

/-- What is said when a line enters is not that it broke off. -/
theorem Stream.failedLine_of_mem_enter {stream : Stream} {line : Text} {now : Option Instant}
    {thrown : Option Failure} {notice : Notice}
    (member : notice ∈ (stream.enter line now thrown).notices) : notice.failedLine = none := by
  obtain ⟨more, notices⟩ := stream.enter_notices line now thrown
  rw [notices, List.mem_append] at member
  rcases member with early | late
  · obtain ⟨said, found, rfl⟩ := List.mem_map.mp early
    exact StreamState.failedLine_of_mem_take found
  · obtain ⟨said, -, rfl⟩ := List.mem_map.mp late
    rfl

/-- What is said when a lookup comes back comes from the fallback. -/
theorem Stream.finishLookup_notices (stream : Stream) (now : Option Instant)
    (outcome : LookupOutcome) :
    ∃ said : List FallbackNotice,
      (stream.finishLookup now outcome).2 = said.map Notice.fallback := by
  unfold finishLookup
  split
  · split
    · exact ⟨_, rfl⟩
    · exact ⟨[], rfl⟩
  · exact ⟨[], rfl⟩

/-- What is said when a lookup comes back is not that a line broke off. -/
theorem Stream.failedLine_of_mem_finishLookup {stream : Stream} {now : Option Instant}
    {outcome : LookupOutcome} {notice : Notice}
    (member : notice ∈ (stream.finishLookup now outcome).2) : notice.failedLine = none := by
  obtain ⟨said, notices⟩ := stream.finishLookup_notices now outcome
  rw [notices] at member
  obtain ⟨one, -, rfl⟩ := List.mem_map.mp member
  rfl

/-- A question to the fallback breaks off only if the start of a lookup throws. -/
theorem Stream.complete_ok {fallback : Option Fallback} {thrown : Option Failure}
    (calm : fallback = none ∨ thrown = none) (signals : Signals) (now : Option Instant) :
    ∃ completed, (complete fallback signals now thrown).2.1 = .ok completed := by
  cases fallback with
  | none => exact ⟨signals, rfl⟩
  | some found =>
      obtain rfl : thrown = none := calm.resolve_left (Option.some_ne_none found)
      obtain ⟨color, answer⟩ := @Scheduler.resolve_fills_in found.scheduler found.home
        found.window now signals.nextDayColor
      exact ⟨{ signals with nextDayColor := signals.nextDayColor.or color }, by
        simp only [complete, Fallback.resolve, answer]
        rfl⟩

/-- A line that enters without a throw from the fallback is on its way to the broker if it has
a batch, and done with if it has none. -/
theorem Stream.enter_flight_of_calm {stream : Stream} {thrown : Option Failure}
    (calm : stream.fallback = none ∨ thrown = none) (line : Text) (now : Option Instant) :
    let entrance := stream.enter line now thrown
    (∃ signals batch, entrance.flight = .start stream.relayed (.publishing signals) ∧
        entrance.batch = some batch) ∨
      ∃ outcome, entrance.flight = .start stream.relayed (.done outcome) ∧
        entrance.batch = none := by
  simp only [enter]
  split
  · exact .inr ⟨_, rfl, rfl⟩
  · exact .inr ⟨_, rfl, rfl⟩
  · next signals due =>
      obtain ⟨completed, complete⟩ := Stream.complete_ok calm signals now
      simp only [complete]
      exact .inl ⟨_, _, rfl, rfl⟩

namespace Flight

/-- All that is said at the end of a send is that it failed. -/
theorem eq_of_mem_settleRelay {flight : Flight} {reply : RelayReply} {notice : StreamNotice}
    (member : notice ∈ (flight.settleRelay reply).2) : ∃ e, notice = .relayFailed e := by
  unfold settleRelay at member
  split at member
  · cases member
  · cases member
  · exact ⟨_, List.mem_singleton.mp member⟩
  · cases member

/-- All that is said at the end of a publication is whether the batch was published. -/
theorem eq_of_mem_settlePublication {flight : Flight} {reply : PublishReply}
    {notice : StreamNotice} (member : notice ∈ (flight.settlePublication reply).2) :
    (∃ signals, notice = .published signals) ∨ ∃ e, notice = .notPublished e := by
  unfold settlePublication at member
  split at member
  · split at member
    · cases member
    · rw [List.mem_singleton.mp member]
      split
      · exact .inl ⟨_, rfl⟩
      · exact .inr ⟨_, rfl⟩
  · cases member

/-- The end of a send is never reported as the end of the line. -/
theorem failedLine_of_mem_settleRelay {flight : Flight} {reply : RelayReply}
    {notice : StreamNotice} (member : notice ∈ (flight.settleRelay reply).2) :
    (Notice.stream notice).failedLine = none := by
  obtain ⟨e, rfl⟩ := eq_of_mem_settleRelay member
  rfl

/-- The end of a publication is never reported as the end of the line. -/
theorem failedLine_of_mem_settlePublication {flight : Flight} {reply : PublishReply}
    {notice : StreamNotice} (member : notice ∈ (flight.settlePublication reply).2) :
    (Notice.stream notice).failedLine = none := by
  rcases eq_of_mem_settlePublication member with ⟨signals, rfl⟩ | ⟨e, rfl⟩ <;> rfl

end Flight

namespace StreamRun

variable (run : StreamRun) (number : Nat) (change : Flight → Flight × List StreamNotice)

theorem update_stream : (run.update number change).1.stream = run.stream := by
  unfold update
  split
  · split <;> rfl
  · rfl

theorem update_count : (run.update number change).1.count = run.count := by
  unfold update
  split
  · split <;> rfl
  · rfl

/-- The line that the run waits for is changed if it has the number. -/
theorem update_current :
    (run.update number change).1.current =
      run.current.map fun (n, flight) =>
        (n, if n = number then (change flight).1 else flight) := by
  unfold update
  cases current : run.current with
  | none => exact current
  | some found =>
      obtain ⟨n, flight⟩ := found
      by_cases same : n = number
      · simp only [same, if_true, Option.map_some]
      · simp only [same, if_false, Option.map_some]
        exact current

/-- An update reports only what the change of a line reports. -/
theorem mem_update {notice : StreamNotice} (member : notice ∈ (run.update number change).2) :
    ∃ flight, notice ∈ (change flight).2 := by
  have inLeft (other : StreamRun) (found : notice ∈ (update.updateLeft number change other).2) :
      ∃ flight, notice ∈ (change flight).2 := by
    simp only [update.updateLeft, List.mem_flatMap, List.mem_map] at found
    obtain ⟨changed, ⟨⟨n, flight⟩, -, rfl⟩, said⟩ := found
    by_cases same : n = number
    · simp only [same, if_true] at said
      exact ⟨flight, said⟩
    · simp [same] at said
  unfold update at member
  split at member
  · split at member
    · exact ⟨_, member⟩
    · exact inLeft _ member
  · exact inLeft _ member

/-- What is reported when the reading goes on after a line. -/
def closing (number : Nat) : Except Failure Outcome → List Notice
  | .ok _ => []
  | .error failure => [.stream (failureNotice number failure)]

theorem failedLine_closing (number : Nat) (result : Except Failure Outcome) :
    (closing number result).filterMap Notice.failedLine =
      if breaksOff result then [number] else [] := by
  cases result with
  | ok outcome => rfl
  | error failure => cases failure <;> rfl

/-- The reading goes on after the line that it waits for if that is done, and says so only if
the line was broken off. -/
theorem step_resumed_of_current {flight : Flight}
    (current : run.current = some (number, flight)) :
    (flight.result = none ∧ run.step .resumed = ⟨run, none, none, false, []⟩) ∨
      ∃ result left, flight.result = some result ∧
        run.step .resumed =
          ⟨{ run with current := none, left := left }, none, none, false,
            closing number result⟩ := by
  simp only [step, current]
  cases done : flight.result with
  | none => exact .inl ⟨rfl, rfl⟩
  | some result => cases result <;> exact .inr ⟨_, _, rfl, rfl⟩

theorem step_resumed_of_idle (idle : run.current = none) :
    run.step .resumed = ⟨run, none, none, false, []⟩ := by
  simp only [step, idle]
  rfl

theorem step_relaySettled (reply : RelayReply) :
    run.step (.relaySettled number reply) =
      ⟨(run.update number (·.settleRelay reply)).1, none, none, false,
        (run.update number (·.settleRelay reply)).2.map Notice.stream⟩ := rfl

theorem step_publicationSettled (reply : PublishReply) :
    run.step (.publicationSettled number reply) =
      ⟨(run.update number (·.settlePublication reply)).1, none, none, false,
        (run.update number (·.settlePublication reply)).2.map Notice.stream⟩ := rfl

theorem step_lookupFinished (now : Option Instant) (outcome : LookupOutcome) :
    run.step (.lookupFinished now outcome) =
      ⟨{ run with stream := (run.stream.finishLookup now outcome).1 }, none, none, false,
        (run.stream.finishLookup now outcome).2⟩ := rfl

end StreamRun

namespace Transcript

variable {transcript : Transcript}

/-- A line counts for the progress of a run that waits for none. -/
theorem progress_next_line (idle : transcript.run.current = none) (line : Text)
    (now : Option Instant) (thrown : Option Failure) :
    (transcript.next (.line line now thrown)).progress =
      transcript.progress.next (.line line now thrown) := by
  simp only [next, progress, StreamRun.step_line_of_idle idle, Progress.next]

/-- What is no line counts for the progress as it does for the run. -/
theorem progress_next_of_not_line {event : RunEvent} (other : event.isLine = false) :
    (transcript.next event).progress = transcript.progress.next event := by
  cases event with
  | line line now thrown => cases other
  | relaySettled number reply =>
      simp [next, progress, StreamRun.step_relaySettled, StreamRun.update_stream,
        StreamRun.update_count, Progress.next]
  | publicationSettled number reply =>
      simp [next, progress, StreamRun.step_publicationSettled, StreamRun.update_stream,
        StreamRun.update_count, Progress.next]
  | resumed =>
      cases current : transcript.run.current with
      | none => simp [next, progress, transcript.run.step_resumed_of_idle current, Progress.next]
      | some waiting =>
          rcases transcript.run.step_resumed_of_current _ current with
            ⟨-, step⟩ | ⟨result, left, -, step⟩ <;>
          simp [next, progress, step, Progress.next]
  | lookupFinished now outcome =>
      simp [next, progress, StreamRun.step_lookupFinished, Progress.next]

/-- Reports among which none says that a line was broken off. -/
theorem failures_append_of_silent {notices : List Notice}
    (silent : ∀ notice ∈ notices, notice.failedLine = none) :
    (transcript.notices ++ notices).filterMap Notice.failedLine = transcript.failures := by
  rw [List.filterMap_append, List.filterMap_eq_nil_iff.mpr silent, List.append_nil, failures]

theorem failures_next_line (idle : transcript.run.current = none) (line : Text)
    (now : Option Instant) (thrown : Option Failure) :
    (transcript.next (.line line now thrown)).failures = transcript.failures := by
  simp only [next, failures, StreamRun.step_line_of_idle idle]
  exact failures_append_of_silent fun notice member => Stream.failedLine_of_mem_enter member

theorem failures_next_relaySettled (number : Nat) (reply : RelayReply) :
    (transcript.next (.relaySettled number reply)).failures = transcript.failures := by
  refine failures_append_of_silent fun notice member => ?_
  obtain ⟨said, found, rfl⟩ := List.mem_map.mp member
  obtain ⟨flight, source⟩ := transcript.run.mem_update number _ found
  exact Flight.failedLine_of_mem_settleRelay source

theorem failures_next_publicationSettled (number : Nat) (reply : PublishReply) :
    (transcript.next (.publicationSettled number reply)).failures = transcript.failures := by
  refine failures_append_of_silent fun notice member => ?_
  obtain ⟨said, found, rfl⟩ := List.mem_map.mp member
  obtain ⟨flight, source⟩ := transcript.run.mem_update number _ found
  exact Flight.failedLine_of_mem_settlePublication source

theorem failures_next_lookupFinished (now : Option Instant) (outcome : LookupOutcome) :
    (transcript.next (.lookupFinished now outcome)).failures = transcript.failures := by
  exact failures_append_of_silent fun notice member =>
    Stream.failedLine_of_mem_finishLookup member

end Transcript

end MeterSignals
