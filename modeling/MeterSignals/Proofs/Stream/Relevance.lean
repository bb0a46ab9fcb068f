/-
# Which part of a line matters

Of a line that is accepted, five fields are read, and of each of these only the data. Two streams
with the same settings are followed side by side through lines of which both reject one or both
accept it with the same data under those codes, while all that happens from outside is the same.
They come to the same, but for why lines were rejected: a rejection is kept with the line as what it
came to, and is reported, and goes nowhere else.

The two runs are compared without these reasons. A step takes runs that are the same without the
reasons to runs that are the same without the reasons, for any two events that are alike.
-/

import MeterSignals.Proofs.Record.Fields
import MeterSignals.Proofs.Stream.Observation

namespace MeterSignals

namespace StreamOptions

variable (options : StreamOptions)

/-- The codes of the fields that are read. -/
def readCodes : List Text :=
  [options.codes.power, options.codes.tariff, options.codes.relays, options.codes.status,
    options.message]

/-- Two records have the same data, or both no field, under each code that is read. -/
def Agree (record other : Record) : Prop :=
  ∀ code ∈ options.readCodes, record.datum? code = other.datum? code

instance (record other : Record) : Decidable (options.Agree record other) :=
  List.decidableBAll ..

/-- Two lines are both rejected, or both accepted with records that agree. -/
inductive Alike (line other : Text) : Prop
  | rejected {reason otherReason : Rejection}
      (first : Record.ofLine options.validity line = .error reason)
      (second : Record.ofLine options.validity other = .error otherReason)
  | accepted {record otherRecord : Record}
      (first : Record.ofLine options.validity line = .ok record)
      (second : Record.ofLine options.validity other = .ok otherRecord)
      (agree : options.Agree record otherRecord)

instance (line other : Text) : Decidable (options.Alike line other) :=
  match first : Record.ofLine options.validity line,
      second : Record.ofLine options.validity other with
  | .error _, .error _ => .isTrue (.rejected first second)
  | .ok record, .ok otherRecord =>
    decidable_of_iff (options.Agree record otherRecord)
      ⟨.accepted first second, fun
        | .rejected one _ => nomatch first.symm.trans one
        | .accepted one two agree => by
          cases first.symm.trans one
          cases second.symm.trans two
          exact agree⟩
  | .error _, .ok _ => .isFalse fun
    | .rejected _ two => nomatch second.symm.trans two
    | .accepted one _ _ => nomatch first.symm.trans one
  | .ok _, .error _ => .isFalse fun
    | .rejected one _ => nomatch first.symm.trans one
    | .accepted _ two _ => nomatch second.symm.trans two

variable {options}

/-- Records that agree say the same. -/
theorem Agree.extract {record other : Record} (agree : options.Agree record other) :
    options.extract record = options.extract other := by
  have power := agree options.codes.power (by simp [readCodes])
  have tariff := agree options.codes.tariff (by simp [readCodes])
  have relays := agree options.codes.relays (by simp [readCodes])
  have status := agree options.codes.status (by simp [readCodes])
  simp only [StreamOptions.extract, Extract.ofRecord, Record.integer?_eq, Record.register?_eq,
    power, tariff, relays, status]

/-- Records that agree bring the same message. -/
theorem Agree.text? {record other : Record} (agree : options.Agree record other) :
    record.text? options.message = other.text? options.message := by
  rw [Record.text?_eq, Record.text?_eq, agree options.message (by simp [readCodes])]

end StreamOptions

/-- Two frames that are both marked valid or both not, and have the same entries under the codes
that are read, make lines that are alike. -/
theorem StreamOptions.alike_of_frames (options : StreamOptions) {line other : Text}
    {frame otherFrame : Json.Members} (read : Json.read? line = some (.obj frame))
    (otherRead : Json.read? other = some (.obj otherFrame))
    (marked : isTruthyMarker (Record.marker? frame options.validity) =
      isTruthyMarker (Record.marker? otherFrame options.validity))
    (same : ∀ code ∈ options.readCodes, Record.SameEntry frame otherFrame code) :
    options.Alike line other := by
  have first : Record.ofLine options.validity line = Record.ofFrame frame options.validity := by
    rw [Record.ofLine, read]
  have second : Record.ofLine options.validity other =
      Record.ofFrame otherFrame options.validity := by
    rw [Record.ofLine, otherRead]
  rw [Record.ofFrame] at first
  rw [Record.ofFrame, ← marked] at second
  cases marker : isTruthyMarker (Record.marker? frame options.validity) with
  | false =>
      rw [marker, if_neg Bool.false_ne_true] at first second
      exact .rejected first second
  | true =>
      rw [marker, if_pos rfl] at first second
      refine .accepted first second fun code member => ?_
      exact (same code member).datum? (Json.isKeyed_of_read? read)
        (Json.isKeyed_of_read? otherRead) options.validity

/-- Two events are the same, but for what is not read in a line. -/
inductive RunEvent.Alike (options : StreamOptions) : RunEvent → RunEvent → Prop
  | line {line other : Text} (alike : options.Alike line other) (now : Option Instant)
      (thrown : Option Failure) : Alike options (.line line now thrown) (.line other now thrown)
  | same (event : RunEvent) : Alike options event event

/-- What a line came to, if it was accepted. -/
def Outcome.accepted? : Outcome → Option Outcome
  | .rejected _ => none
  | outcome => some outcome

/-- What a line came to, without the reason if it was rejected. -/
def Outcome.blurred : Outcome → Outcome
  | .rejected _ => .rejected default
  | outcome => outcome

/-- A report, if it is not why a line was rejected. -/
def Notice.unlessDropped? : Notice → Option Notice
  | .stream (.dropped _) => none
  | notice => some notice

/-- The message of the meter that is reported. -/
def Notice.meterMessage? : Notice → Option Text
  | .stream (.meterMessage message) => some message
  | _ => none

/-- Leaving out why a line was rejected. -/
def Revision.blurring : Revision :=
  ⟨id, Outcome.blurred, fun _ _ => rfl⟩

/-- A message is reported by a report that is not about a rejection. -/
theorem filterMap_meterMessage? (notices : List Notice) :
    notices.filterMap Notice.meterMessage? =
      (notices.map Notice.unlessDropped?).filterMap (·.bind Notice.meterMessage?) := by
  rw [List.filterMap_map]
  congr 1
  funext notice
  cases notice with
  | stream notice => cases notice <;> rfl
  | _ => rfl

namespace StreamState

variable {options : StreamOptions} {line other : Text}

theorem takeRecord_of_agree {record second : Record} (agree : options.Agree record second)
    (state : StreamState) :
    state.takeRecord options record = state.takeRecord options second := by
  have extract : Extract.ofRecord options.codes options.redPeak record =
      Extract.ofRecord options.codes options.redPeak second := agree.extract
  simp only [takeRecord, MeterMessage.track, extract, agree.text?]

/-- Lines that are alike are taken in the same way, or both rejected. -/
theorem take_of_alike (alike : options.Alike line other) (state : StreamState) :
    state.take options line = state.take options other ∨
      ∃ reason otherReason,
        state.take options line = ⟨state, .rejected reason, [.dropped reason]⟩ ∧
        state.take options other = ⟨state, .rejected otherReason, [.dropped otherReason]⟩ := by
  cases alike with
  | rejected first second =>
      exact .inr ⟨_, _, take_of_error first state, take_of_error second state⟩
  | accepted first second agree =>
      rw [take_of_ok first, take_of_ok second]
      exact .inl (takeRecord_of_agree agree state)

end StreamState

namespace Stream

variable {stream : Stream} {line other : Text}

/-- Lines that are taken in the same way enter in the same way. -/
theorem enter_of_take_eq
    (same : stream.state.take stream.options line = stream.state.take stream.options other)
    (now : Option Instant) (thrown : Option Failure) :
    stream.enter line now thrown =
      { stream.enter other now thrown with relay := (stream.enter line now thrown).relay } := by
  rw [enter_relay]
  simp only [enter, same]
  split
  · rfl
  · rfl
  · split <;> rfl

/-- A line that is rejected enters with its reason. -/
theorem enter_of_rejected {reason : Rejection}
    (rejected : stream.state.take stream.options line =
      ⟨stream.state, .rejected reason, [.dropped reason]⟩)
    (now : Option Instant) (thrown : Option Failure) :
    stream.enter line now thrown =
      ⟨stream, .start stream.relayed (.done (.rejected reason)),
        (stream.enter line now thrown).relay, none, false, [.stream (.dropped reason)]⟩ := by
  rw [enter_relay]
  simp only [enter, rejected]
  rfl

end Stream

/-- What can be seen of a step if it is not looked at why lines were rejected. -/
structure RunView where
  run : StreamRun
  batch : Option Batch
  asked : Bool
  notices : List (Option Notice)

namespace StreamRun

/-- The run without the reasons why lines were rejected. -/
def blurred (run : StreamRun) : StreamRun := run.revised (fun _ => .blurring) run.stream

end StreamRun

/-- A step without the reasons why lines were rejected. -/
def RunStep.view (step : RunStep) : RunView :=
  ⟨step.run.blurred, step.batch, step.asked, step.notices.map Notice.unlessDropped?⟩

namespace Revision

theorem blurred_blurred (outcome : Outcome) : outcome.blurred.blurred = outcome.blurred := by
  cases outcome <;> rfl

theorem blurring_blurring (line : Flight) :
    blurring.flight (blurring.flight line) = blurring.flight line := by
  obtain ⟨relay, derivation, result⟩ := line
  have derived : blurring.derivation (blurring.derivation derivation) =
      blurring.derivation derivation := by
    cases derivation with
    | done outcome => exact congrArg Derivation.done (blurred_blurred outcome)
    | _ => rfl
  have settled : (result.map (·.map Outcome.blurred)).map (·.map Outcome.blurred) =
      result.map (·.map Outcome.blurred) := by
    rcases result with _ | _ | outcome
    · rfl
    · rfl
    · exact congrArg (some ∘ Except.ok) (blurred_blurred outcome)
  simp only [flight, derived]
  exact congrArg (Flight.mk relay _) settled

theorem blurring_settleRelay (line : Flight) (reply : RelayReply) :
    ((blurring.flight line).settleRelay reply).2 = (line.settleRelay reply).2 := by
  rw [flight_settleRelay]

theorem blurring_settlePublication (line : Flight) (reply : PublishReply) :
    ((blurring.flight line).settlePublication reply).2 = (line.settlePublication reply).2 := by
  obtain ⟨relay, derivation, result⟩ := line
  cases derivation with
  | publishing sent => cases reply <;> rfl
  | _ => rfl

end Revision

namespace StreamRun

variable (run : StreamRun)

/-- What an update reports. -/
theorem update_notices (number : Nat) (change : Flight → Flight × List StreamNotice) :
    (run.update number change).2 =
      if run.current.any (·.1 == number) then
        run.current.toList.flatMap fun line => (change line.2).2
      else run.left.flatMap fun line => if line.1 = number then (change line.2).2 else [] := by
  have left : (update.updateLeft number change run).2 =
      run.left.flatMap fun line => if line.1 = number then (change line.2).2 else [] := by
    rw [update.updateLeft]
    dsimp only
    rw [List.flatMap_map]
    congr 1
    funext line
    split <;> rfl
  unfold update
  cases current : run.current with
  | none => exact left
  | some found =>
      obtain ⟨n, flight⟩ := found
      by_cases same : n = number
      · simp [same]
      · simp [same, left]

/-- A change of one line reports the same without the reasons, if it does so for the line alone. -/
theorem blurred_update_notices {number : Nat} {change : Flight → Flight × List StreamNotice}
    (along : ∀ flight, (change (Revision.blurring.flight flight)).2 = (change flight).2) :
    (run.blurred.update number change).2 = (run.update number change).2 := by
  rw [update_notices, update_notices, blurred, revised_any]
  simp only [revised, Option.toList_map, List.flatMap_map, revisedLine, along]

theorem map_blurring_twice (lines : List (Nat × Flight)) :
    (lines.map (revisedLine fun _ => .blurring)).map (revisedLine fun _ => .blurring) =
      lines.map (revisedLine fun _ => .blurring) := by
  rw [List.map_map]
  refine List.map_congr_left fun line _ => ?_
  simp only [Function.comp_apply, revisedLine, Revision.blurring_blurring]

theorem blurred_blurred : run.blurred.blurred = run.blurred := by
  obtain ⟨stream, count, current, left⟩ := run
  simp only [blurred, revised, map_blurring_twice]
  cases current with
  | none => rfl
  | some line => simp only [Option.map_some, revisedLine, Revision.blurring_blurring]

theorem blurred_resumed_notices :
    (run.blurred.step .resumed).notices = (run.step .resumed).notices := by
  obtain ⟨stream, count, current, left⟩ := run
  cases current with
  | none => rfl
  | some line =>
      obtain ⟨number, relay, derivation, result⟩ := line
      rcases result with _ | _ | _ <;> rfl

/-- Aside from lines and lookups, a step without the reasons is the step without the reasons, if it
reports the same. -/
theorem view_blurred_of_aside {event : RunEvent} (aside : event.reachesStream = false)
    (other : event.isLine = false)
    (notices : (run.blurred.step event).notices = (run.step event).notices) :
    (run.blurred.step event).view = (run.step event).view := by
  have own := run.step_isSilent other
  have blind := run.blurred.step_isSilent other
  have later : (run.blurred.step event).run = (run.step event).run.blurred := by
    rw [blurred, run.revised_step _ _ aside, blurred, run.step_stream_of_aside aside]
  rw [RunStep.view, RunStep.view, own.batch, own.asked, blind.batch, blind.asked, notices, later,
    blurred_blurred]

/-- A step of a run without the reasons, seen without the reasons. -/
theorem view_blurred (event : RunEvent) :
    (run.blurred.step event).view = (run.step event).view := by
  cases event with
  | line line now thrown =>
      have kept : run.blurred.current.isSome = run.current.isSome := Option.isSome_map
      by_cases busy : run.current.isSome
      · rw [run.step_line_of_busy busy, run.blurred.step_line_of_busy (kept.trans busy),
          RunStep.view, RunStep.view, blurred_blurred]
      · have idle := Option.not_isSome_iff_eq_none.mp busy
        have blurredIdle : run.blurred.current = none := Option.map_eq_none_iff.mpr idle
        rw [step_line_of_idle idle, step_line_of_idle blurredIdle]
        simp only [RunStep.view, blurred, revised, map_blurring_twice]
  | relaySettled number reply =>
      exact run.view_blurred_of_aside rfl rfl
        (congrArg (List.map Notice.stream) (run.blurred_update_notices fun flight =>
          Revision.blurring_settleRelay flight reply))
  | publicationSettled number reply =>
      exact run.view_blurred_of_aside rfl rfl
        (congrArg (List.map Notice.stream) (run.blurred_update_notices fun flight =>
          Revision.blurring_settlePublication flight reply))
  | resumed => exact run.view_blurred_of_aside rfl rfl run.blurred_resumed_notices
  | lookupFinished now outcome =>
      obtain ⟨stream, count, current, left⟩ := run
      have again := blurred_blurred ⟨(stream.finishLookup now outcome).1, count, current, left⟩
      rw [step_lookupFinished, step_lookupFinished, RunStep.view, RunStep.view]
      exact congrArg (RunView.mk · none false _) again

/-- Two events that are alike lead a run to the same, seen without the reasons. -/
theorem view_of_alike {event other : RunEvent} (alike : event.Alike run.stream.options other) :
    (run.step event).view = (run.step other).view := by
  cases alike with
  | same => rfl
  | @line line other alike now thrown =>
      by_cases busy : run.current.isSome
      · rw [run.step_line_of_busy busy, run.step_line_of_busy busy]
      · have idle := Option.not_isSome_iff_eq_none.mp busy
        rw [step_line_of_idle idle, step_line_of_idle idle]
        rcases StreamState.take_of_alike alike run.stream.state with
          same | ⟨reason, otherReason, rejected, otherRejected⟩
        · rw [Stream.enter_of_take_eq same]
          rfl
        · rw [Stream.enter_of_rejected rejected, Stream.enter_of_rejected otherRejected]
          have started (why : Rejection) :
              Revision.blurring.flight (.start run.stream.relayed (.done (.rejected why))) =
                .start run.stream.relayed (.done (.rejected default)) :=
            (Revision.blurring.flight_start ..).symm
          simp only [RunStep.view, blurred, revised, Option.map_some, revisedLine, started]
          rfl

variable {run} {second : StreamRun} {event other : RunEvent}

/-- Runs that are the same without the reasons are so after events that are alike. -/
theorem view_step (same : run.blurred = second.blurred)
    (alike : event.Alike second.stream.options other) :
    (run.step event).view = (second.step other).view :=
  calc (run.step event).view
      = (run.blurred.step event).view := (run.view_blurred event).symm
    _ = (second.blurred.step event).view := by rw [same]
    _ = (second.step event).view := second.view_blurred event
    _ = (second.step other).view := second.view_of_alike alike

/-- What the lines came to that the runs go on after is the same without the reasons. -/
theorem accepted_closed? (same : run.blurred = second.blurred)
    (alike : event.Alike second.stream.options other) :
    (run.closed? event).map (fun line => (line.1, line.2.map Outcome.accepted?)) =
      (second.closed? other).map fun line => (line.1, line.2.map Outcome.accepted?) := by
  have blind (run : StreamRun) (event : RunEvent) :
      (run.blurred.closed? event).map (fun line => (line.1, line.2.map Outcome.accepted?)) =
        (run.closed? event).map fun line => (line.1, line.2.map Outcome.accepted?) := by
    rw [blurred, revised_closed?, Option.map_map]
    refine Option.map_congr fun line _ => ?_
    obtain ⟨number, result⟩ := line
    rcases result with _ | outcome
    · rfl
    · cases outcome <;> rfl
  cases alike with
  | same => rw [← blind run, same, blind second]
  | line => rfl

end StreamRun

namespace Transcript

/-- Two transcripts are the same but for why lines were rejected. -/
structure Resembles (transcript other : Transcript) : Prop where
  run : transcript.run.blurred = other.run.blurred
  batches : transcript.batches = other.batches
  notices : transcript.notices.map Notice.unlessDropped? =
    other.notices.map Notice.unlessDropped?

variable {transcript second : Transcript} {options : StreamOptions}

/-- Events that are alike keep transcripts so. -/
theorem Resembles.next (resembles : transcript.Resembles second) {event other : RunEvent}
    (alike : event.Alike second.run.stream.options other) :
    (transcript.next event).Resembles (second.next other) := by
  have view := StreamRun.view_step resembles.run alike
  have run : (transcript.run.step event).run.blurred = (second.run.step other).run.blurred :=
    congrArg RunView.run view
  have batch : (transcript.run.step event).batch = (second.run.step other).batch :=
    congrArg RunView.batch view
  have notices : (transcript.run.step event).notices.map Notice.unlessDropped? =
      (second.run.step other).notices.map Notice.unlessDropped? :=
    congrArg RunView.notices view
  have count : (transcript.run.step event).run.count = (second.run.step other).run.count := by
    change (transcript.run.step event).run.blurred.count = _
    rw [run]
    rfl
  constructor
  · exact run
  · rw [Transcript.next, Transcript.next, resembles.batches, count, batch]
  · rw [Transcript.next, Transcript.next, List.map_append, List.map_append, resembles.notices,
      notices]

/-- A row of events and another one are alike, event by event. -/
theorem Resembles.after (resembles : transcript.Resembles second)
    (settings : second.run.stream.options = options) {events others : List RunEvent}
    (alike : List.Forall₂ (RunEvent.Alike options) events others) :
    (transcript.after events).Resembles (second.after others) := by
  induction alike generalizing transcript second with
  | nil => exact resembles
  | cons first rest ih =>
      exact ih (resembles.next (settings ▸ first))
        ((second.run.step_stream_kept _).1.trans settings)

/-- What is observed of runs that are the same without the reasons is the same in the course of
events that are alike, if it is so for each of the events. -/
theorem Resembles.observed {α β : Type} (observe : StreamRun → RunEvent → List α) (see : α → β)
    (along : ∀ {run second : StreamRun} {event other : RunEvent}, run.blurred = second.blurred →
      event.Alike second.stream.options other →
      (observe run event).map see = (observe second other).map see)
    (resembles : transcript.Resembles second) (settings : second.run.stream.options = options)
    {events others : List RunEvent}
    (alike : List.Forall₂ (RunEvent.Alike options) events others) :
    (transcript.observed observe events).map see = (second.observed observe others).map see := by
  induction alike generalizing transcript second with
  | nil => rfl
  | cons first rest ih =>
      have kept := settings ▸ first
      rw [Transcript.observed, Transcript.observed, List.map_append, List.map_append,
        along resembles.run kept,
        ih (resembles.next kept) ((second.run.step_stream_kept _).1.trans settings)]

/-- Two rows of events in which all is the same but for the lines, and of these each is rejected in
both or accepted in both with the same data, or both no field, under each code that is read. They
leave the stream in the same state, fallback included, hand over the same batches, ask for the same
number of lookups, and the lines that are accepted come to the same. They report the same messages
of the meter, and the same altogether but for why lines were rejected. So nothing else in a frame
has any influence: frames whose validity markers say the same are alike if under each code that is
read both have the same data, or both none, and a time stamp that is missing or a text, or both one
that is neither; what else is in those entries, what other entries there are and in which order all
of it comes does not matter. -/
theorem only_read_codes_matter (options : StreamOptions) (relayed : Bool)
    (fallback : Option Fallback) {events others : List RunEvent}
    (alike : List.Forall₂ (RunEvent.Alike options) events others) :
    let stream := Stream.initial options relayed fallback
    (of stream events).run.stream = (of stream others).run.stream ∧
    (of stream events).batches = (of stream others).batches ∧
    (outcomes stream events).map (fun line => (line.1, line.2.map Outcome.accepted?)) =
      (outcomes stream others).map (fun line => (line.1, line.2.map Outcome.accepted?)) ∧
    (of stream events).notices.filterMap Notice.meterMessage? =
      (of stream others).notices.filterMap Notice.meterMessage? ∧
    (of stream events).notices.map Notice.unlessDropped? =
      (of stream others).notices.map Notice.unlessDropped? ∧
    lookups stream events = lookups stream others ∧
    ∀ line other frame otherFrame,
      Json.read? line = some (.obj frame) → Json.read? other = some (.obj otherFrame) →
      isTruthyMarker (Record.marker? frame options.validity) =
        isTruthyMarker (Record.marker? otherFrame options.validity) →
      (∀ code ∈ options.readCodes, Record.SameEntry frame otherFrame code) →
      options.Alike line other := by
  intro stream
  have start : (initial stream).Resembles (initial stream) := ⟨rfl, rfl, rfl⟩
  have later : (of stream events).Resembles (of stream others) := start.after rfl alike
  have closed : (outcomes stream events).map (fun line =>
      (line.1, line.2.map Outcome.accepted?)) =
      (outcomes stream others).map fun line => (line.1, line.2.map Outcome.accepted?) :=
    start.observed _ _ (fun same alike => by
      rw [← Option.toList_map, ← Option.toList_map, StreamRun.accepted_closed? same alike])
      rfl alike
  have asked : (initial stream).observed (fun run event => [(run.step event).asked]) events =
      (initial stream).observed (fun run event => [(run.step event).asked]) others := by
    have seen := start.observed (fun run event => [(run.step event).asked]) id
      (fun same alike => congrArg (fun view : RunView => [view.asked])
        (StreamRun.view_step same alike)) rfl alike
    rwa [List.map_id, List.map_id] at seen
  refine ⟨?_, later.batches, closed, ?_, later.notices, ?_, ?_⟩
  · change (of stream events).run.blurred.stream = (of stream others).run.blurred.stream
    rw [later.run]
  · rw [filterMap_meterMessage?, filterMap_meterMessage?, later.notices]
  · rw [lookups, asked, lookups]
  · intro line other frame otherFrame read otherRead marked same
    exact options.alike_of_frames read otherRead marked same

/-- A frame, and the same one with its entries in another order, one more of them, and other time
stamps and units; then two lines that are rejected for different reasons. -/
theorem only_read_codes_matter_of_two_lines :
    let first : Text :=
      r#"{"_tvalide":1,"NTARF":{"data":"6","unit":"a"},"SINSTS":{"data":"8000","horodate":"E"}}"#
    let second : Text :=
      r#"{"X":[],"SINSTS":{"data":"8000","horodate":""},"NTARF":{"desc":0,"data":"6"},"_tvalide":1}"#
    let events : List RunEvent := [.line first none none, .publicationSettled 1 (.ok (.ok ())),
      .resumed, .line "?" none none, .resumed]
    let others : List RunEvent := [.line second none none, .publicationSettled 1 (.ok (.ok ())),
      .resumed, .line "[]" none none, .resumed]
    let stream := Stream.initial (.usual 0) false none
    List.Forall₂ (RunEvent.Alike (.usual 0)) events others ∧
      (of stream events).batches = (of stream others).batches ∧
      (of stream events).batches.length = 1 := by
  intro first second events others stream
  have alike : (StreamOptions.usual 0).Alike first second := by decide +kernel
  have rejected : (StreamOptions.usual 0).Alike "?" "[]" := by decide +kernel
  have all : List.Forall₂ (RunEvent.Alike (.usual 0)) events others :=
    .cons (.line alike none none) (.cons (.same _) (.cons (.same _)
      (.cons (.line rejected none none) (.cons (.same _) .nil))))
  exact ⟨all, (only_read_codes_matter (.usual 0) false none all).2.1, by decide +kernel⟩

end Transcript

end MeterSignals
