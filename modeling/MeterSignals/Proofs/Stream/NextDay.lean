/-
# What the fallback adds to a stream

A stream with a fallback is followed beside the same stream without one, through the same lines,
sends, publications and lookups. Line by line they come to the same, but for the color of the next
day where the meter does not say it. The lines that are to be published are the only ones that ask
the fallback, each of them once, and each is published with the answer.

The two are kept side by side by one equation: the run with the fallback is the run without it,
with a color filled in for each line and with a fallback that has been asked what the lines so far
had to ask.
-/

import MeterSignals.Proofs.Stream.Observation

namespace MeterSignals

namespace Stream

/-- A line that enters a stream with a fallback: what it adds is the answer to one question, and
only where the line is to be published. -/
theorem enter_completed {stream : Stream} (alone : stream.fallback = none) (home : Zone)
    (window : FetchWindow) (traffic : Traffic) (line : Text) (now : Option Instant)
    (number : Nat) :
    let due := (stream.state.take stream.options line).verdict.due?
    let later := traffic.after home window (due.toList.map fun signals =>
      DueLine.question ⟨number, now, signals⟩)
    let own := stream.enter line now none
    let aided := ({ stream with fallback := some ⟨home, window, traffic.scheduler⟩ }).enter line
      now none
    ∃ color,
      aided.stream = { own.stream with fallback := some ⟨home, window, later.scheduler⟩ } ∧
      aided.flight = own.flight.completed color ∧ aided.relay = own.relay ∧
      own.batch = due.map (·.batch stream.options.topics) ∧
      aided.batch = due.map (fun signals =>
        (signals.completed color).batch stream.options.topics) ∧
      (later.answers = traffic.answers ++ due.toList.map fun signals =>
        .ok (signals.completed color).nextDayColor) ∧
      later.calls = traffic.calls + aided.asked.toNat ∧ later.returned = traffic.returned := by
  simp only [enter, alone, complete]
  cases (stream.state.take stream.options line).verdict with
  | rejected rejection =>
      exact ⟨none, rfl, Flight.completed_start none _ (.done (.rejected rejection)), rfl, rfl, rfl,
        (List.append_nil _).symm, rfl, rfl⟩
  | throttled signals =>
      exact ⟨none, rfl, Flight.completed_start none _ (.done (.throttled signals)), rfl, rfl, rfl,
        (List.append_nil _).symm, rfl, rfl⟩
  | due signals =>
      obtain ⟨color, answer⟩ := @Scheduler.resolve_fills_in traffic.scheduler home window now
        signals.nextDayColor
      refine ⟨color, ?_⟩
      simp only [Fallback.resolve, answer]
      exact ⟨rfl, Flight.completed_start color _ (.publishing signals), rfl, rfl, rfl,
        congrArg (traffic.answers ++ [·]) answer, rfl, rfl⟩

end Stream

namespace StreamRun

variable (run : StreamRun) (home : Zone) (window : FetchWindow)

/-- The run with a color for every line, and with the fallback of a traffic. -/
def aided (colors : Nat → Option DayColor) (traffic : Traffic) : StreamRun :=
  run.completed colors (some ⟨home, window, traffic.scheduler⟩)

/-- At an event, a run with a fallback and the run without it send and lead to the same, but for
the colors; and the fallback has had to do with the event what it should. -/
structure InStep (colors : Nat → Option DayColor) (traffic : Traffic) (event : RunEvent) :
    Prop where
  later : ((run.aided home window colors traffic).step event).run =
    (run.step event).run.aided home window colors
      (traffic.after home window (run.dealings event))
  relay : ((run.aided home window colors traffic).step event).relay = (run.step event).relay
  ownBatch : (run.step event).batch =
    (run.due? event).map fun line => line.signals.batch run.stream.options.topics
  batch : ((run.aided home window colors traffic).step event).batch =
    (run.due? event).map fun line =>
      (line.signals.completed (colors line.number)).batch run.stream.options.topics
  answers : (traffic.after home window (run.dealings event)).answers =
    traffic.answers ++ (run.due? event).toList.map fun line =>
      .ok (line.signals.completed (colors line.number)).nextDayColor
  calls : (traffic.after home window (run.dealings event)).calls =
    traffic.calls + ((run.aided home window colors traffic).step event).asked.toNat
  returned : (traffic.after home window (run.dealings event)).returned = 0

variable {run home window} {colors : Nat → Option DayColor} {traffic : Traffic}

/-- At an event that sends nothing and does not ask the fallback, it is enough that the runs
come to the same. -/
theorem InStep.of_silent {event : RunEvent} (due : run.due? event = none)
    (own : (run.step event).IsSilent)
    (aided : ((run.aided home window colors traffic).step event).IsSilent)
    (later : ((run.aided home window colors traffic).step event).run =
      (run.step event).run.aided home window colors
        (traffic.after home window (run.dealings event)))
    (answers : (traffic.after home window (run.dealings event)).answers = traffic.answers)
    (calls : (traffic.after home window (run.dealings event)).calls = traffic.calls)
    (returned : (traffic.after home window (run.dealings event)).returned = 0) :
    run.InStep home window colors traffic event where
  later := later
  relay := aided.relay.trans own.relay.symm
  ownBatch := by rw [own.batch, due]; rfl
  batch := by rw [aided.batch, due]; rfl
  answers := by rw [answers, due]; exact (List.append_nil _).symm
  calls := by rw [calls, aided.asked]; rfl
  returned := returned

/-- At an event with which the fallback has nothing to do, it is enough that the runs come to the
same with the fallback as it is. -/
theorem InStep.of_no_dealings {event : RunEvent} (settled : traffic.returned = 0)
    (due : run.due? event = none) (dealings : run.dealings event = [])
    (own : (run.step event).IsSilent)
    (aided : ((run.aided home window colors traffic).step event).IsSilent)
    (later : ((run.aided home window colors traffic).step event).run =
      (run.step event).run.aided home window colors traffic) :
    run.InStep home window colors traffic event := by
  refine .of_silent due own aided ?_ ?_ ?_ ?_
  · rw [dealings]
    exact later
  · rw [dealings]
    rfl
  · rw [dealings]
    rfl
  · rw [dealings]
    exact settled

/-- The ends of sends and publications and the going on of the reading. -/
theorem InStep.aside (settled : traffic.returned = 0) {event : RunEvent}
    (aside : event.reachesStream = false) : run.InStep home window colors traffic event := by
  obtain ⟨other, due, dealings⟩ := run.due?_of_aside aside
  exact .of_no_dealings settled due dealings (run.step_isSilent other) (step_isSilent _ other)
    (run.completed_step colors _ aside)

/-- A lookup that comes back. -/
theorem InStep.lookup (alone : run.stream.fallback = none) (count : traffic.KeepsCount)
    (settled : traffic.returned = 0) (now : Option Instant) (outcome : LookupOutcome) :
    run.InStep home window colors traffic (.lookupFinished now outcome) := by
  obtain ⟨scheduler, returned, calls, answers⟩ :=
    count.after_lookup home window settled now outcome
  refine .of_silent rfl (run.step_isSilent rfl) (step_isSilent _ rfl) ?_ answers calls returned
  obtain ⟨-, -, -, absent⟩ := run.stream.finishLookup_kept now outcome
  rw [step_lookupFinished, step_lookupFinished, absent alone, aided, aided, dealings, scheduler]
  simp only [completed, Stream.finishLookup, Fallback.finish]
  split <;> rfl

/-- A line that enters while another one is not done. -/
theorem InStep.busy (settled : traffic.returned = 0) (busy : run.current.isSome) (line : Text)
    (now : Option Instant) (thrown : Option Failure) :
    run.InStep home window colors traffic (.line line now thrown) := by
  have due : run.due? (.line line now thrown) = none := if_pos busy
  have dealings : run.dealings (.line line now thrown) = [] := by
    simp only [StreamRun.dealings, due]
    rfl
  have own := run.step_line_of_busy busy line now thrown
  have aided := (run.aided home window colors traffic).step_line_of_busy
    (Option.isSome_map.trans busy) line now thrown
  refine .of_no_dealings settled due dealings ?_ ?_ ?_
  · rw [own]
    exact ⟨rfl, rfl, rfl⟩
  · rw [aided]
    exact ⟨rfl, rfl, rfl⟩
  · rw [own, aided]

/-- A line that enters is given its color. -/
theorem InStep.idle (home : Zone) (window : FetchWindow) (colors : Nat → Option DayColor)
    (alone : run.stream.fallback = none) (settled : traffic.returned = 0)
    (idle : run.current = none) (line : Text) (now : Option Instant) :
    ∃ color, run.InStep home window (Function.update colors (run.count + 1) color) traffic
      (.line line now none) := by
  obtain ⟨color, stream, flight, relay, ownBatch, batch, answers, calls, returned⟩ :=
    Stream.enter_completed alone home window traffic line now (run.count + 1)
  have free : ¬ run.current.isSome := Option.not_isSome_iff_eq_none.mpr idle
  have due : run.due? (.line line now none) =
      (run.stream.state.take run.stream.options line).verdict.due?.map
        (⟨run.count + 1, now, ·⟩) := by
    rw [due?, if_neg free]
  have dealings : run.dealings (.line line now none) =
      (run.stream.state.take run.stream.options line).verdict.due?.toList.map fun signals =>
        DueLine.question ⟨run.count + 1, now, signals⟩ := by
    simp only [StreamRun.dealings, due, Option.toList_map, List.map_map, Function.comp_def]
  refine ⟨color, ?_⟩
  -- Of the colors only the one of this line is looked at; the earlier lines keep theirs.
  generalize fresh : Function.update colors (run.count + 1) color = others
  have given : others (run.count + 1) = color := by
    rw [← fresh, Function.update_self]
  have own := step_line_of_idle idle line now none
  have aided := @step_line_of_idle (run.aided home window others traffic)
    (Option.map_eq_none_iff.mpr idle) line now none
  constructor
  case later =>
    rw [own, aided, dealings]
    simp only [StreamRun.aided, completed] at stream flight ⊢
    simp only [stream, flight, Option.map_some, completedLine, given]
  case relay =>
    rw [own, aided]
    exact relay
  case ownBatch =>
    rw [own, due, Option.map_map]
    exact ownBatch
  case batch =>
    rw [aided, due, Option.map_map]
    simp only [Function.comp_def, given]
    exact batch
  case answers =>
    rw [dealings, due, Option.toList_map, List.map_map]
    simp only [Function.comp_def, given]
    exact answers
  case calls =>
    rw [dealings, aided]
    exact calls
  case returned =>
    rw [dealings]
    exact returned.trans settled

/-- At every event the runs keep in step, with the colors of the lines so far. -/
theorem exists_inStep (alone : run.stream.fallback = none) (count : traffic.KeepsCount)
    (settled : traffic.returned = 0) (colors : Nat → Option DayColor) {event : RunEvent}
    (calm : ∀ line now thrown, event = .line line now thrown → thrown = none) :
    ∃ others, (∀ number ≤ run.count, colors number = others number) ∧
      run.InStep home window others traffic event := by
  cases event with
  | line line now thrown =>
      obtain rfl := calm line now thrown rfl
      by_cases busy : run.current.isSome
      · exact ⟨colors, fun _ _ => rfl, .busy settled busy line now none⟩
      · obtain ⟨color, inStep⟩ := InStep.idle home window colors alone settled
          (Option.not_isSome_iff_eq_none.mp busy) line now
        refine ⟨_, fun number earlier => ?_, inStep⟩
        exact (Function.update_of_ne (Nat.ne_of_lt (Nat.lt_succ_of_le earlier)) ..).symm
  | relaySettled number reply => exact ⟨colors, fun _ _ => rfl, .aside settled rfl⟩
  | publicationSettled number reply => exact ⟨colors, fun _ _ => rfl, .aside settled rfl⟩
  | resumed => exact ⟨colors, fun _ _ => rfl, .aside settled rfl⟩
  | lookupFinished now outcome =>
      exact ⟨colors, fun _ _ => rfl, .lookup alone count settled now outcome⟩

end StreamRun

namespace Transcript

/-- After a row of events, two streams have come to the same, the one with a fallback and the
other without, but for the colors; and the fallback has had to do what it should. -/
structure Accords (own aided : Stream) (home : Zone) (window : FetchWindow)
    (events : List RunEvent) (colors : Nat → Option DayColor) : Prop where
  run : (of aided events).run = (of own events).run.aided home window colors
    (Traffic.of home window (dealings own events))
  relayed : (of aided events).relayed = (of own events).relayed
  outcomes : outcomes aided events = (outcomes own events).map (completedOutcome colors)
  ownBatches : (of own events).batches = (dueLines own events).map fun line =>
    (line.number, line.signals.batch own.options.topics)
  batches : (of aided events).batches = (dueLines own events).map fun line =>
    (line.number, (line.signals.completed (colors line.number)).batch own.options.topics)
  answers : (Traffic.of home window (dealings own events)).answers =
    (dueLines own events).map fun line =>
      .ok (line.signals.completed (colors line.number)).nextDayColor
  dealings : dealings aided events = dealings own events
  lookups : lookups aided events = (Traffic.of home window (Transcript.dealings own events)).calls
  returned : (Traffic.of home window (Transcript.dealings own events)).returned = 0

variable {own aided : Stream} {home : Zone} {window : FetchWindow} {events : List RunEvent}
  {colors others : Nat → Option DayColor}

/-- Only the colors of lines that have entered count. -/
theorem Accords.recolored (accords : Accords own aided home window events colors)
    (same : ∀ number ≤ (of own events).run.count, colors number = others number) :
    Accords own aided home window events others := by
  obtain ⟨numbered, due, closed⟩ := numbered_of own events
  refine { accords with run := ?_, outcomes := ?_, batches := ?_, answers := ?_ }
  · rw [accords.run]
    exact StreamRun.completed_congr _ _ _ fun line member => same _ (numbered line member)
  · rw [accords.outcomes]
    refine List.map_congr_left fun line member => ?_
    rw [completedOutcome, completedOutcome, same _ (closed line member)]
  · rw [accords.batches]
    refine List.map_congr_left fun line member => ?_
    rw [same _ (due line member)]
  · rw [accords.answers]
    refine List.map_congr_left fun line member => ?_
    rw [same _ (due line member)]

/-- Runs that keep in step at the next event accord after it. -/
theorem Accords.snoc (accords : Accords own aided home window events colors)
    (options : (of own events).run.stream.options = own.options) {event : RunEvent}
    (inStep : (of own events).run.InStep home window colors
      (Traffic.of home window (Transcript.dealings own events)) event) :
    Accords own aided home window (events ++ [event]) colors := by
  have traffic : Traffic.of home window (Transcript.dealings own (events ++ [event])) =
      (Traffic.of home window (Transcript.dealings own events)).after home window
        ((of own events).run.dealings event) := by
    rw [dealings_snoc, Traffic.of_append]
  have count : ((of aided events).run.step event).run.count =
      ((of own events).run.step event).run.count := by
    rw [accords.run, inStep.later]
    rfl
  constructor
  case run =>
    rw [of_snoc, of_snoc, traffic, next, next, accords.run]
    exact inStep.later
  case relayed =>
    rw [of_snoc, of_snoc, next, next, accords.relayed, accords.run, inStep.relay]
  case outcomes =>
    rw [outcomes_snoc, outcomes_snoc, accords.outcomes, accords.run, StreamRun.aided,
      StreamRun.completed_closed?, List.map_append, Option.toList_map]
  case ownBatches =>
    rw [of_snoc, dueLines_snoc, List.map_append, ← accords.ownBatches, next, inStep.ownBatch,
      StreamRun.numbered_batch, options]
  case batches =>
    rw [of_snoc, dueLines_snoc, List.map_append, ← accords.batches, next, count, accords.run,
      inStep.batch, StreamRun.numbered_batch, options]
  case answers =>
    rw [traffic, inStep.answers, accords.answers, dueLines_snoc, List.map_append]
  case dealings =>
    rw [dealings_snoc, dealings_snoc, accords.dealings, accords.run, StreamRun.aided,
      StreamRun.completed_dealings]
  case lookups =>
    rw [lookups_snoc, traffic, inStep.calls, accords.lookups, accords.run]
  case returned =>
    rw [traffic]
    exact inStep.returned

/-- Two streams that differ in the fallback alone accord after any events in which no start of a
lookup throws. -/
theorem exists_accords (options : StreamOptions) (relayed : Bool) (home : Zone)
    (window : FetchWindow) (events : List RunEvent)
    (calm : ∀ line now thrown, RunEvent.line line now thrown ∈ events → thrown = none) :
    ∃ colors, Accords (.initial options relayed none)
      (.initial options relayed (some (.initial home window))) home window events colors := by
  induction events using List.reverseRecOn with
  | nil => exact ⟨fun _ => none, rfl, rfl, rfl, rfl, rfl, rfl, rfl, rfl, rfl⟩
  | append_singleton events event ih =>
      obtain ⟨colors, accords⟩ := ih fun line now thrown earlier =>
        calm line now thrown (List.mem_append_left _ earlier)
      -- The next line is given its color only now, and no line so far has its number.
      obtain ⟨kept, alone⟩ := @of_stream_kept (.initial options relayed none) rfl events
      obtain ⟨others, same, inStep⟩ := StreamRun.exists_inStep alone
        (Traffic.keepsCount_of home window _) accords.returned colors fun line now thrown last =>
          calm line now thrown (List.mem_append_right _ (List.mem_singleton.mpr last.symm))
      exact ⟨others, (accords.recolored same).snoc kept inStep⟩

/-- The only questions to the fallback are those of the lines that are to be published. -/
theorem filter_isQuestion_dealings (stream : Stream) (events : List RunEvent) :
    (dealings stream events).filter TrafficEvent.isQuestion =
      (dueLines stream events).map DueLine.question := by
  have questions (lines : List DueLine) :
      (lines.map DueLine.question).filter TrafficEvent.isQuestion =
        lines.map DueLine.question :=
    List.filter_eq_self.mpr fun question member => by
      obtain ⟨line, -, rfl⟩ := List.mem_map.mp member
      rfl
  induction events using List.reverseRecOn with
  | nil => rfl
  | append_singleton events event ih =>
      rw [dealings_snoc, dueLines_snoc, List.filter_append, List.map_append, ih]
      cases event with
      | lookupFinished now outcome => rfl
      | _ => exact congrArg _ (questions _)

/-- A stream with a fallback and the same stream without one, through the same lines, ends of
sends and publications, and lookups that come back in any way, where no start of a lookup throws.
The state of the streams and the texts for the observer are the same. The fallback has been asked
what the lines so far had to ask, which is one question for each line that is to be published and
none for any other. And there is a color for each line, or none, such that whatever the lines come
to and whatever is handed to the broker differs by this color alone, which is filled in only where
the record does not tell the color of the next day, and which is what the fallback answered. -/
theorem fallback_fills_in (options : StreamOptions) (relayed : Bool) (home : Zone)
    (window : FetchWindow) (events : List RunEvent)
    (calm : ∀ line now thrown, RunEvent.line line now thrown ∈ events → thrown = none) :
    let alone := Stream.initial options relayed none
    let aided := Stream.initial options relayed (some (.initial home window))
    let due := dueLines alone events
    let traffic := Traffic.of home window (dealings aided events)
    (of aided events).run.stream.state = (of alone events).run.stream.state ∧
    (of aided events).relayed = (of alone events).relayed ∧
    (dealings aided events).filter TrafficEvent.isQuestion = due.map DueLine.question ∧
    lookups aided events = traffic.calls ∧
    due.Pairwise (·.number < ·.number) ∧
    (∀ number outcome, (number, .ok outcome) ∈ outcomes alone events →
      outcome.IsOf (signalsOf due number)) ∧
    ∃ colors : Nat → Option DayColor,
      (of aided events).run =
        (of alone events).run.completed colors (some ⟨home, window, traffic.scheduler⟩) ∧
      outcomes aided events = (outcomes alone events).map (fun line =>
        (line.1, line.2.map (·.completed (colors line.1)))) ∧
      (of alone events).batches = due.map (fun line =>
        (line.number, line.signals.batch options.topics)) ∧
      (of aided events).batches = due.map (fun line =>
        (line.number, (line.signals.completed (colors line.number)).batch options.topics)) ∧
      traffic.answers = due.map fun line =>
        .ok (line.signals.completed (colors line.number)).nextDayColor := by
  intro alone aided due traffic
  obtain ⟨colors, accords⟩ := exists_accords options relayed home window events calm
  have same : traffic = Traffic.of home window (dealings alone events) :=
    congrArg (Traffic.of home window) accords.dealings
  refine ⟨?_, accords.relayed, ?_, ?_, dueLines_increasing alone events,
    fun number outcome closed => isOf_of_mem_outcomes rfl events closed, colors, ?_,
    accords.outcomes, accords.ownBatches, accords.batches, ?_⟩
  · rw [accords.run]
    rfl
  · rw [accords.dealings]
    exact filter_isQuestion_dealings alone events
  · rw [accords.lookups, same]
  · rw [accords.run, same]
    rfl
  · rw [same, accords.answers]

/-- The line of 10:45 asks and goes out without a color for the next day. The lookup brings red,
which then is in what the line of 10:47 hands to the broker, and not without the fallback. -/
theorem red_filled_in_after_a_lookup :
    let home : Zone := ⟨0⟩
    let window : FetchWindow := ⟨10, 40, 30⟩
    let entry : CalendarEntry :=
      ⟨"2024-01-16T00:00:00.000Z", .red, "2024-01-15T10:30:00.000Z", []⟩
    let events : List RunEvent :=
      [.line r#"{"_tvalide":1}"# (some 1705315500000) none, .publicationSettled 1 (.ok (.ok ())),
        .resumed, .lookupFinished (some 1705315560000) (.entry entry),
        .line r#"{"_tvalide":1}"# (some 1705315620000) none]
    let alone := Stream.initial (.usual 0) false none
    let aided := Stream.initial (.usual 0) false (some (.initial home window))
    let batch (tomorrow : Text) : Batch :=
      [⟨"water", "0"⟩, ⟨"peak", "UNKNOWN"⟩, ⟨"today", "UNKNOWN"⟩, ⟨"tomorrow", tomorrow⟩]
    (∀ line now thrown, RunEvent.line line now thrown ∈ events → thrown = none) ∧
      (of aided events).run.stream.state = (of alone events).run.stream.state ∧
      (of alone events).batches = [(1, batch "UNKNOWN"), (2, batch "UNKNOWN")] ∧
      (of aided events).batches = [(1, batch "UNKNOWN"), (2, batch "RED")] := by
  intro home window entry events
  have calm : ∀ line now thrown, RunEvent.line line now thrown ∈ events → thrown = none := by
    intro line now thrown member
    simp only [events, List.mem_cons, RunEvent.line.injEq, List.not_mem_nil, or_false, false_or,
      reduceCtorEq] at member
    rcases member with ⟨-, -, rfl⟩ | ⟨-, -, rfl⟩ <;> rfl
  obtain ⟨state, -⟩ := fallback_fills_in (.usual 0) false home window events calm
  refine ⟨calm, state, ?_, ?_⟩
  · decide +kernel
  · decide +kernel

end Transcript

end MeterSignals
