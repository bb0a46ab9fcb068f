/-
# The batches of a run

Every batch of a run belongs to a line that has entered, and the lines up to that one decide
its signals: the record of the line says all of them but two, the powers so far say the flag of
the filter, and a fallback may fill in the color of the next day. Nothing else gets into a
batch, and nothing is left over from the batch of an earlier line.
-/

import MeterSignals.Proofs.Stream.Observation

namespace MeterSignals

/-- The batch is that of the line with a number: it states the signals that the lines up to this
one decide, with some color of the next day where the meter knows none. -/
def StreamOptions.IsBatchOf (options : StreamOptions) (lines : List Text) (number : Nat)
    (batch : Batch) : Prop :=
  ∃ earlier line record color, earlier ++ [line] <+: lines ∧ number = earlier.length + 1 ∧
    Record.ofLine options.validity line = .ok record ∧
    batch = ((options.signalsOf (earlier ++ [line]) record).completed color).batch options.topics

theorem StreamOptions.IsBatchOf.mono {options : StreamOptions} {lines more : List Text}
    {number : Nat} {batch : Batch} (isBatch : options.IsBatchOf lines number batch)
    (grown : lines <+: more) : options.IsBatchOf more number batch := by
  obtain ⟨earlier, line, record, color, reached, rest⟩ := isBatch
  exact ⟨earlier, line, record, color, reached.trans grown, rest⟩

/-- After an accepted line the estimate is that of the powers up to it, and after a rejected one
it is what it was. -/
theorem StreamState.estimate_next {options : StreamOptions} {state : StreamState}
    {lines : List Text} (known : state.estimate = options.estimateOf lines) (line : Text) :
    (state.next options line).estimate = options.estimateOf (lines ++ [line]) := by
  cases read : Record.ofLine options.validity line with
  | error rejection =>
      rw [next, take_of_error read, options.estimateOf_snoc_of_error read]
      exact known
  | ok record =>
      rw [next, take_of_ok read, options.estimateOf_snoc_of_ok read, ← known]
      rfl

/-- A line that is to be published has a record, and the lines up to it decide its signals. -/
theorem StreamState.signals_of_due {options : StreamOptions} {state : StreamState}
    {lines : List Text} (known : state.estimate = options.estimateOf lines) {line : Text}
    {signals : Signals} (due : (state.take options line).verdict = .due signals) :
    ∃ record, Record.ofLine options.validity line = .ok record ∧
      signals = options.signalsOf (lines ++ [line]) record := by
  cases read : Record.ofLine options.validity line with
  | error rejection =>
      rw [take_of_error read] at due
      cases due
  | ok record =>
      rw [take_of_ok read, takeRecord, known] at due
      dsimp only at due
      refine ⟨record, rfl, ?_⟩
      split at due
      · rw [← options.signals_step read]
        exact (Verdict.due.inj due).symm
      · cases due

/-- A color that the fallback gives comes in only where the meter knows none. -/
theorem Stream.completed_of_complete {fallback : Option Fallback} {signals completed : Signals}
    {now : Option Instant} {thrown : Option Failure}
    (complete : (Stream.complete fallback signals now thrown).2.1 = .ok completed) :
    ∃ color, completed = signals.completed color := by
  cases fallback with
  | none =>
      cases complete
      exact ⟨none, by rw [Signals.completed, Option.or_none]⟩
  | some found =>
      simp only [Stream.complete, Fallback.resolve] at complete
      cases answer : (found.scheduler.resolve found.home found.window now signals.nextDayColor
          thrown).color with
      | error failure =>
          rw [answer] at complete
          cases complete
      | ok color =>
          rw [answer] at complete
          obtain ⟨known, rfl⟩ := Scheduler.eq_or_of_resolve answer
          exact ⟨known, (Except.ok.inj complete).symm⟩

/-- The batch of a line that enters is the line's own. -/
theorem Stream.isBatchOf_of_enter {stream : Stream} {lines : List Text}
    (known : stream.state.estimate = stream.options.estimateOf lines) {line : Text}
    {now : Option Instant} {thrown : Option Failure} {batch : Batch}
    (sent : (stream.enter line now thrown).batch = some batch) :
    stream.options.IsBatchOf (lines ++ [line]) (lines.length + 1) batch := by
  simp only [enter] at sent
  split at sent
  · cases sent
  · cases sent
  · next signals due =>
      split at sent
      · cases sent
      · next completed complete =>
          obtain ⟨record, read, rfl⟩ := StreamState.signals_of_due known due
          obtain ⟨color, rfl⟩ := Stream.completed_of_complete complete
          exact ⟨lines, line, record, color, List.prefix_refl _, rfl, read,
            (Option.some.inj sent).symm⟩

theorem RunEvent.exists_line_of_isLine {event : RunEvent} (isLine : event.isLine = true) :
    ∃ line now thrown, event = .line line now thrown := by
  cases event with
  | line line now thrown => exact ⟨line, now, thrown, rfl⟩
  | _ => cases isLine

/-- The line that enters with an event. -/
def StreamRun.entering? (run : StreamRun) : RunEvent → Option Text
  | .line line _ _ => if run.current.isSome then none else some line
  | _ => none

namespace Transcript

/-- The lines that have entered, in order. -/
def lines (stream : Stream) : List RunEvent → List Text :=
  (initial stream).observed fun run event => (run.entering? event).toList

theorem lines_snoc (stream : Stream) (events : List RunEvent) (event : RunEvent) :
    lines stream (events ++ [event]) =
      lines stream events ++ ((of stream events).run.entering? event).toList :=
  observed_snoc _ _ events event

theorem batches_snoc (stream : Stream) (events : List RunEvent) (event : RunEvent) :
    (of stream (events ++ [event])).batches =
      (of stream events).batches ++
        ((of stream events).run.step event).batch.toList.map
          (((of stream events).run.step event).run.count, ·) := by
  rw [of_snoc]
  rfl

end Transcript

namespace StreamRun

variable {run : StreamRun} {lines : List Text}

/-- The run has taken in these lines: it has counted them, and its estimate is that of their
powers. -/
structure HasRead (run : StreamRun) (lines : List Text) : Prop where
  count : run.count = lines.length
  estimate : run.stream.state.estimate = run.stream.options.estimateOf lines

/-- What is no line is not counted and moves nothing that the lines have led to. -/
theorem step_kept (run : StreamRun) {event : RunEvent} (other : event.isLine = false) :
    (run.step event).run.count = run.count ∧
      (run.step event).run.stream.options = run.stream.options ∧
      (run.step event).run.stream.state = run.stream.state := by
  have progress := @Transcript.progress_next_of_not_line ⟨run, [], [], []⟩ event other
  have count := congrArg Progress.count progress
  have stream := congrArg Progress.stream progress
  cases event with
  | line line now thrown => cases other
  | relaySettled number reply =>
      exact ⟨count, congrArg (·.options) stream, congrArg (·.state) stream⟩
  | publicationSettled number reply =>
      exact ⟨count, congrArg (·.options) stream, congrArg (·.state) stream⟩
  | resumed => exact ⟨count, congrArg (·.options) stream, congrArg (·.state) stream⟩
  | lookupFinished now outcome =>
      obtain ⟨options, -, state, -⟩ := run.stream.finishLookup_kept now outcome
      exact ⟨count, options, state⟩

theorem entering?_of_not_line (run : StreamRun) {event : RunEvent}
    (other : event.isLine = false) : run.entering? event = none := by
  cases event with
  | line line now thrown => cases other
  | _ => rfl

/-- One event: a line that enters is read, and nothing else is. -/
theorem HasRead.step (hasRead : run.HasRead lines) (event : RunEvent) :
    (run.step event).run.HasRead (lines ++ (run.entering? event).toList) := by
  cases isLine : event.isLine with
  | false =>
      obtain ⟨count, options, state⟩ := run.step_kept isLine
      rw [run.entering?_of_not_line isLine, Option.toList_none, List.append_nil]
      exact ⟨count.trans hasRead.count, by rw [state, options]; exact hasRead.estimate⟩
  | true =>
      obtain ⟨line, now, thrown, rfl⟩ := RunEvent.exists_line_of_isLine isLine
      by_cases busy : run.current.isSome
      · rw [run.step_line_of_busy busy, entering?, if_pos busy, Option.toList_none,
          List.append_nil]
        exact hasRead
      · rw [step_line_of_idle (Option.not_isSome_iff_eq_none.mp busy), entering?, if_neg busy,
          Option.toList_some]
        constructor
        · rw [List.length_append, List.length_singleton, ← hasRead.count]
        · simp only [Stream.enter_state, Stream.enter_options]
          exact StreamState.estimate_next hasRead.estimate line

/-- A batch goes out only as its line enters. -/
theorem exists_line_of_batch {event : RunEvent} {batch : Batch}
    (sent : (run.step event).batch = some batch) :
    ∃ line now thrown, event = .line line now thrown ∧ run.current = none ∧
      (run.stream.enter line now thrown).batch = some batch := by
  cases event with
  | line line now thrown =>
      by_cases busy : run.current.isSome
      · rw [run.step_line_of_busy busy] at sent
        cases sent
      · have idle := Option.not_isSome_iff_eq_none.mp busy
        rw [step_line_of_idle idle] at sent
        exact ⟨line, now, thrown, rfl, idle, sent⟩
  | _ =>
      rw [(run.step_isSilent rfl).batch] at sent
      cases sent

theorem count_of_batch {event : RunEvent} {batch : Batch}
    (sent : (run.step event).batch = some batch) :
    (run.step event).run.count = run.count + 1 := by
  obtain ⟨line, now, thrown, rfl, idle, -⟩ := exists_line_of_batch sent
  rw [step_line_of_idle idle]

/-- A batch that goes out belongs to the line that enters. -/
theorem HasRead.isBatchOf (hasRead : run.HasRead lines) {event : RunEvent} {batch : Batch}
    (sent : (run.step event).batch = some batch) :
    run.stream.options.IsBatchOf (lines ++ (run.entering? event).toList)
      (run.step event).run.count batch := by
  rw [count_of_batch sent, hasRead.count]
  obtain ⟨line, now, thrown, rfl, idle, own⟩ := exists_line_of_batch sent
  rw [entering?, idle]
  exact Stream.isBatchOf_of_enter hasRead.estimate own

end StreamRun

namespace Transcript

theorem hasRead_of (options : StreamOptions) (relayed : Bool) (fallback : Option Fallback)
    (events : List RunEvent) :
    (of (.initial options relayed fallback) events).run.HasRead
      (lines (.initial options relayed fallback) events) := by
  induction events using List.reverseRecOn with
  | nil => exact ⟨rfl, rfl⟩
  | append_singleton events event ih =>
      rw [of_snoc, lines_snoc]
      exact ih.step event

/-- Every batch of a run belongs to the line whose number it has. -/
theorem isBatchOf_of_mem (options : StreamOptions) (relayed : Bool) (fallback : Option Fallback)
    (events : List RunEvent) :
    ∀ sent ∈ (of (.initial options relayed fallback) events).batches,
      options.IsBatchOf (lines (.initial options relayed fallback) events) sent.1 sent.2 := by
  induction events using List.reverseRecOn with
  | nil => exact List.forall_mem_nil _
  | append_singleton events event ih =>
      intro sent member
      rw [batches_snoc] at member
      rw [lines_snoc]
      rcases List.mem_append.mp member with before | last
      · exact (ih sent before).mono (List.prefix_append _ _)
      · obtain ⟨batch, found, rfl⟩ := List.mem_map.mp last
        have own := (hasRead_of options relayed fallback events).isBatchOf
          (Option.mem_toList.mp found)
        rwa [of_options] at own

end Transcript

end MeterSignals
