/-
# What is observed of a run

Beside what a run sends and reports there is more to be read off it: which lines are to be
published, what the fallback has to do with each event, and what the lines came to that the
reading went on after. Each of these is observed event by event, and speaks of lines by the
numbers that they were given when they entered.
-/

import MeterSignals.Proofs.Fallback.Traffic
import MeterSignals.Proofs.Stream.Completion

namespace MeterSignals

/-- A line that is to be published when it enters, with the signals of its record. -/
structure DueLine where
  number : Nat
  now : Option Instant
  signals : Signals

/-- The question that a line puts to the fallback. -/
def DueLine.question (line : DueLine) : TrafficEvent :=
  .asked line.now line.signals.nextDayColor none

def TrafficEvent.isQuestion : TrafficEvent → Bool
  | .asked .. => true
  | _ => false

/-- The signals to publish, if a line is to be published. -/
def Verdict.due? : Verdict → Option Signals
  | .due signals => some signals
  | _ => none

/-- The signals of the line with a number, if it is one of these. -/
def signalsOf (lines : List DueLine) (number : Nat) : Option Signals :=
  (lines.find? (·.number == number)).map DueLine.signals

/-- What can come of a line that is to be published with some signals, or of one that is not to
be published at all. -/
def Outcome.IsOf (due : Option Signals) : Outcome → Prop
  | .published signals _ => due = some signals
  | _ => due = none

def Derivation.IsOf (due : Option Signals) : Derivation → Prop
  | .publishing signals => due = some signals
  | .done outcome => outcome.IsOf due
  | .broken _ => True

/-- The line is on its way to such an outcome, or there already. -/
structure Flight.IsOf (flight : Flight) (due : Option Signals) : Prop where
  derivation : flight.derivation.IsOf due
  result : ∀ outcome, flight.result = some (.ok outcome) → outcome.IsOf due

namespace StreamRun

/-- The line that enters with an event, if it is to be published. -/
def due? (run : StreamRun) : RunEvent → Option DueLine
  | .line line now _ =>
    if run.current.isSome then none
    else
      (run.stream.state.take run.stream.options line).verdict.due?.map
        (⟨run.count + 1, now, ·⟩)
  | _ => none

/-- What the fallback has to do with an event: a line that is to be published asks it, and a
lookup that comes back goes through both of its moments. -/
def dealings (run : StreamRun) : RunEvent → List TrafficEvent
  | .lookupFinished now outcome => [.settled now outcome, .released]
  | event => (run.due? event).toList.map DueLine.question

/-- The line that the reading goes on after, and what it came to. -/
def closed? (run : StreamRun) : RunEvent → Option (Nat × Except Failure Outcome)
  | .resumed => run.current.bind fun (number, flight) => flight.result.map (number, ·)
  | _ => none

end StreamRun

/-- What a line came to, given with its number, with the color of that number. -/
def completedOutcome (colors : Nat → Option DayColor)
    (line : Nat × Except Failure Outcome) : Nat × Except Failure Outcome :=
  (line.1, line.2.map (·.completed (colors line.1)))

namespace Transcript

/-- What is observed of the run at each of the events, in order. -/
def observed {α : Type} (observe : StreamRun → RunEvent → List α) :
    Transcript → List RunEvent → List α
  | _, [] => []
  | transcript, event :: events =>
    observe transcript.run event ++ observed observe (transcript.next event) events

theorem observed_snoc {α : Type} (observe : StreamRun → RunEvent → List α)
    (transcript : Transcript) (events : List RunEvent) (event : RunEvent) :
    transcript.observed observe (events ++ [event]) =
      transcript.observed observe events ++ observe (transcript.after events).run event := by
  induction events generalizing transcript with
  | nil => exact List.append_nil _
  | cons first events ih =>
      simp only [List.cons_append, observed]
      rw [ih, List.append_assoc]
      rfl

/-- The lines that are to be published. -/
def dueLines (stream : Stream) : List RunEvent → List DueLine :=
  (initial stream).observed fun run event => (run.due? event).toList

/-- All that the fallback has to do with the events. -/
def dealings (stream : Stream) : List RunEvent → List TrafficEvent :=
  (initial stream).observed StreamRun.dealings

/-- How many lookups were asked for. -/
def lookups (stream : Stream) (events : List RunEvent) : Nat :=
  ((initial stream).observed (fun run event => [(run.step event).asked]) events).count true

/-- What the lines came to that the reading went on after. -/
def outcomes (stream : Stream) : List RunEvent → List (Nat × Except Failure Outcome) :=
  (initial stream).observed fun run event => (run.closed? event).toList

end Transcript

section SignalsOf

variable {lines more : List DueLine} {number : Nat}

theorem signalsOf_append_of_later (later : ∀ line ∈ more, number < line.number) :
    signalsOf (lines ++ more) number = signalsOf lines number := by
  have none : more.find? (·.number == number) = none :=
    List.find?_eq_none.mpr fun line member => by simpa using Nat.ne_of_gt (later line member)
  rw [signalsOf, List.find?_append, none, Option.or_none, signalsOf]

theorem signalsOf_append_of_earlier (earlier : ∀ line ∈ lines, line.number < number) :
    signalsOf (lines ++ more) number = signalsOf more number := by
  have none : lines.find? (·.number == number) = none :=
    List.find?_eq_none.mpr fun line member => by simpa using Nat.ne_of_lt (earlier line member)
  rw [signalsOf, List.find?_append, none, Option.none_or, signalsOf]

end SignalsOf

namespace Flight.IsOf

variable {flight : Flight} {due : Option Signals}

theorem join (isOf : flight.IsOf due) : flight.join.IsOf due := by
  refine ⟨by rw [join_derivation]; exact isOf.derivation, fun outcome closed => ?_⟩
  obtain ⟨relay, derivation, result⟩ := flight
  cases result with
  | some result => exact isOf.result outcome closed
  | none =>
      cases relay <;> cases derivation <;> cases closed
      exact isOf.derivation

theorem start {derivation : Derivation} (isOf : derivation.IsOf due) (relayed : Bool) :
    (Flight.start relayed derivation).IsOf due :=
  join ⟨isOf, fun _ closed => by cases closed⟩

theorem settleRelay (isOf : flight.IsOf due) (reply : RelayReply) :
    (flight.settleRelay reply).1.IsOf due := by
  unfold Flight.settleRelay
  split
  · exact join ⟨isOf.derivation, isOf.result⟩
  · exact join ⟨isOf.derivation, isOf.result⟩
  · exact join ⟨isOf.derivation, isOf.result⟩
  · exact isOf

theorem settlePublication (isOf : flight.IsOf due) (reply : PublishReply) :
    (flight.settlePublication reply).1.IsOf due := by
  have publishing := isOf.derivation
  unfold Flight.settlePublication
  split
  · next signals found =>
      rw [found] at publishing
      split
      · exact join ⟨trivial, isOf.result⟩
      · exact join ⟨publishing, isOf.result⟩
  · exact isOf

end Flight.IsOf

namespace StreamRun

variable {run : StreamRun}

/-- A line that is to be published gets the next number. -/
theorem number_of_due {event : RunEvent} {line : DueLine} (due : run.due? event = some line) :
    line.number = run.count + 1 ∧ (run.step event).run.count = run.count + 1 := by
  cases event with
  | line text now thrown =>
      rw [due?] at due
      split at due
      · cases due
      · next idle =>
          obtain ⟨signals, -, rfl⟩ := Option.map_eq_some_iff.mp due
          rw [step_line_of_idle (Option.not_isSome_iff_eq_none.mp idle)]
          exact ⟨rfl, rfl⟩
  | _ => cases due

/-- The fallback has nothing to do with an event that does not reach the stream. -/
theorem due?_of_aside (run : StreamRun) {event : RunEvent} (aside : event.reachesStream = false) :
    event.isLine = false ∧ run.due? event = none ∧ run.dealings event = [] := by
  cases event with
  | line line now thrown => cases aside
  | relaySettled number reply => exact ⟨rfl, rfl, rfl⟩
  | publicationSettled number reply => exact ⟨rfl, rfl, rfl⟩
  | resumed => exact ⟨rfl, rfl, rfl⟩
  | lookupFinished now outcome => cases aside

/-- A batch goes to the broker with the number of the line that it belongs to. -/
theorem numbered_batch (event : RunEvent) (batch : DueLine → Batch) :
    ((run.due? event).map batch).toList.map ((run.step event).run.count, ·) =
      (run.due? event).toList.map fun line => (line.number, batch line) := by
  cases due : run.due? event with
  | none => rfl
  | some line =>
      obtain ⟨number, count⟩ := number_of_due due
      rw [count, ← number]
      rfl

theorem Numbered.closed (numbered : run.Numbered) {event : RunEvent}
    {line : Nat × Except Failure Outcome} (closed : run.closed? event = some line) :
    line.1 ≤ run.count := by
  cases event with
  | resumed =>
      obtain ⟨waiting, current, result⟩ := Option.bind_eq_some_iff.mp closed
      obtain ⟨found, -, rfl⟩ := Option.map_eq_some_iff.mp result
      exact numbered waiting (List.mem_append_left _ (Option.mem_toList.mpr current))
  | _ => cases closed

/-- All lines under way come to what their records decided, if these are the lines that were to
be published. -/
def Follows (run : StreamRun) (due : List DueLine) : Prop :=
  ∀ line ∈ run.lines, line.2.IsOf (signalsOf due line.1)

theorem Follows.step {due : List DueLine} (follows : run.Follows due)
    (alone : run.stream.fallback = none) (numbered : run.Numbered)
    (entered : ∀ line ∈ due, line.number ≤ run.count) (event : RunEvent) :
    (run.step event).run.Follows (due ++ (run.due? event).toList) := by
  refine run.forall_lines_step (fun line now thrown entering idle => ?_)
    (fun line reply isOf => isOf.settleRelay reply)
    (fun line reply isOf => isOf.settlePublication reply) fun line member => ?_
  · have free : ¬ run.current.isSome := Option.not_isSome_iff_eq_none.mpr idle
    have flight := (Stream.enter_of_no_fallback alone line now thrown).2
    rw [signalsOf_append_of_earlier fun line member => Nat.lt_succ_of_le (entered line member),
      entering, due?, if_neg free]
    cases verdict : (run.stream.state.take run.stream.options line).verdict with
    | rejected rejection =>
        simp only [verdict] at flight
        rw [flight.1]
        refine .start ?_ _
        exact rfl
    | throttled signals =>
        simp only [verdict] at flight
        rw [flight.1]
        refine .start ?_ _
        exact rfl
    | due signals =>
        simp only [verdict] at flight
        rw [flight.1]
        refine .start ?_ _
        simp [Verdict.due?, signalsOf, Derivation.IsOf]
  · rw [signalsOf_append_of_later fun found new => ?_]
    · exact follows line member
    · rw [(number_of_due (Option.mem_toList.mp new)).1]
      exact Nat.lt_succ_of_le (numbered line member)

theorem Follows.closed {due : List DueLine} (follows : run.Follows due) {event : RunEvent}
    {number : Nat} {outcome : Outcome} (closed : run.closed? event = some (number, .ok outcome)) :
    outcome.IsOf (signalsOf due number) := by
  cases event with
  | resumed =>
      obtain ⟨waiting, current, result⟩ := Option.bind_eq_some_iff.mp closed
      obtain ⟨found, landed, same⟩ := Option.map_eq_some_iff.mp result
      obtain ⟨rfl, rfl⟩ := Prod.mk.inj same
      have isOf := follows waiting (List.mem_append_left _ (Option.mem_toList.mpr current))
      exact isOf.result outcome landed
  | _ => cases closed

/-- What a line came to is what it came to without the revision, with the change for its number. -/
theorem revised_closed? (run : StreamRun) (revisions : Nat → Revision) (stream : Stream)
    (event : RunEvent) :
    (run.revised revisions stream).closed? event =
      (run.closed? event).map fun line => (line.1, line.2.map (revisions line.1).outcome) := by
  cases event with
  | resumed =>
      simp only [closed?, revised]
      cases run.current with
      | none => rfl
      | some line =>
          obtain ⟨number, flight⟩ := line
          simp only [Option.map_some, Option.bind_some, revisedLine, Revision.flight,
            Option.map_map, Function.comp_def]
  | _ => rfl

section Completed

variable (run) (colors : Nat → Option DayColor) (fallback : Option Fallback) (event : RunEvent)

/-- The lines that are to be published are the same with colors filled in. -/
theorem completed_due? : (run.completed colors fallback).due? event = run.due? event := by
  cases event with
  | line line now thrown => simp only [due?, completed, Option.isSome_map]
  | _ => rfl

theorem completed_dealings :
    (run.completed colors fallback).dealings event = run.dealings event := by
  cases event with
  | lookupFinished now outcome => rfl
  | _ => simp only [dealings, completed_due?]

/-- What a line came to is what it came to without the color, with the color filled in. -/
theorem completed_closed? :
    (run.completed colors fallback).closed? event =
      (run.closed? event).map (completedOutcome colors) := by
  rw [completed_eq, revised_closed?]
  rfl

end Completed

end StreamRun

namespace Transcript

theorem dueLines_snoc (stream : Stream) (events : List RunEvent) (event : RunEvent) :
    dueLines stream (events ++ [event]) =
      dueLines stream events ++ ((of stream events).run.due? event).toList :=
  observed_snoc _ _ events event

theorem dealings_snoc (stream : Stream) (events : List RunEvent) (event : RunEvent) :
    dealings stream (events ++ [event]) =
      dealings stream events ++ (of stream events).run.dealings event :=
  observed_snoc _ _ events event

theorem lookups_snoc (stream : Stream) (events : List RunEvent) (event : RunEvent) :
    lookups stream (events ++ [event]) =
      lookups stream events + ((of stream events).run.step event).asked.toNat := by
  rw [lookups, observed_snoc, List.count_append, ← lookups]
  change _ + List.count true [((of stream events).run.step event).asked] = _
  cases ((of stream events).run.step event).asked <;> rfl

theorem outcomes_snoc (stream : Stream) (events : List RunEvent) (event : RunEvent) :
    outcomes stream (events ++ [event]) =
      outcomes stream events ++ ((of stream events).run.closed? event).toList :=
  observed_snoc _ _ events event

/-- All numbers that a run speaks of are those of lines that have entered. -/
theorem numbered_of (stream : Stream) (events : List RunEvent) :
    (of stream events).run.Numbered ∧
      (∀ line ∈ dueLines stream events, line.number ≤ (of stream events).run.count) ∧
      ∀ line ∈ outcomes stream events, line.1 ≤ (of stream events).run.count := by
  induction events using List.reverseRecOn with
  | nil => exact ⟨List.forall_mem_nil _, List.forall_mem_nil _, List.forall_mem_nil _⟩
  | append_singleton events event ih =>
      obtain ⟨numbered, due, closed⟩ := ih
      have grown := @StreamRun.count_le_step (of stream events).run event
      rw [of_snoc, dueLines_snoc, outcomes_snoc]
      refine ⟨numbered.step event, fun line member => ?_, fun line member => ?_⟩
      · rcases List.mem_append.mp member with earlier | new
        · exact Nat.le_trans (due line earlier) grown
        · obtain ⟨number, count⟩ := StreamRun.number_of_due (Option.mem_toList.mp new)
          exact Nat.le_of_eq (number.trans count.symm)
      · rcases List.mem_append.mp member with earlier | new
        · exact Nat.le_trans (closed line earlier) grown
        · exact Nat.le_trans (numbered.closed (Option.mem_toList.mp new)) grown

/-- No two lines are given the same number. -/
theorem dueLines_increasing (stream : Stream) (events : List RunEvent) :
    (dueLines stream events).Pairwise (·.number < ·.number) := by
  induction events using List.reverseRecOn with
  | nil => exact List.Pairwise.nil
  | append_singleton events event ih =>
      rw [dueLines_snoc, List.pairwise_append]
      refine ⟨ih, ?_, fun line earlier found new => ?_⟩
      · cases (of stream events).run.due? event
        · exact List.Pairwise.nil
        · exact List.pairwise_singleton _ _
      · rw [(StreamRun.number_of_due (Option.mem_toList.mp new)).1]
        exact Nat.lt_succ_of_le ((numbered_of stream events).2.1 line earlier)

/-- A stream without a fallback has none at any time, and keeps its settings. -/
theorem of_stream_kept {stream : Stream} (alone : stream.fallback = none)
    (events : List RunEvent) :
    (of stream events).run.stream.options = stream.options ∧
      (of stream events).run.stream.fallback = none := by
  induction events using List.reverseRecOn with
  | nil => exact ⟨rfl, alone⟩
  | append_singleton events event ih =>
      obtain ⟨options, absent⟩ := (of stream events).run.step_stream_kept event
      rw [of_snoc]
      exact ⟨options.trans ih.1, absent ih.2⟩

theorem follows_of {stream : Stream} (alone : stream.fallback = none) (events : List RunEvent) :
    (of stream events).run.Follows (dueLines stream events) := by
  induction events using List.reverseRecOn with
  | nil => exact List.forall_mem_nil _
  | append_singleton events event ih =>
      obtain ⟨numbered, due, -⟩ := numbered_of stream events
      rw [of_snoc, dueLines_snoc]
      exact ih.step (of_stream_kept alone events).2 numbered due event

/-- What comes to a publication was to be published with its signals, and what comes to none was
not to be published. -/
theorem isOf_of_mem_outcomes {stream : Stream} (alone : stream.fallback = none)
    (events : List RunEvent) {number : Nat} {outcome : Outcome}
    (closed : (number, .ok outcome) ∈ outcomes stream events) :
    outcome.IsOf (signalsOf (dueLines stream events) number) := by
  induction events using List.reverseRecOn with
  | nil => cases closed
  | append_singleton events event ih =>
      obtain ⟨numbered, -, entered⟩ := numbered_of stream events
      have later (known : number ≤ (of stream events).run.count) :
          signalsOf (dueLines stream (events ++ [event])) number =
            signalsOf (dueLines stream events) number := by
        rw [dueLines_snoc]
        refine signalsOf_append_of_later fun line new => ?_
        rw [(StreamRun.number_of_due (Option.mem_toList.mp new)).1]
        exact Nat.lt_succ_of_le known
      rw [outcomes_snoc] at closed
      rcases List.mem_append.mp closed with earlier | new
      · rw [later (entered _ earlier)]
        exact ih earlier
      · have last := Option.mem_toList.mp new
        rw [later (numbered.closed last)]
        exact (follows_of alone events).closed last

end Transcript

end MeterSignals
