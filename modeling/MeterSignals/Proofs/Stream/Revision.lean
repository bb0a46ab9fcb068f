/-
# Runs in which lines come to something else

Two runs over the same events may differ in what their lines come to and agree in all the rest: in
which lines are under way, what is still awaited of them and what breaks them off. One of them is
then a revision of the other. A revision may change signals that are on their way out and outcomes
that are settled, the same for both, and goes along with every event that is no line: however sends
and publications end and whenever the reading goes on, revising before and after comes to the same.
-/

import MeterSignals.Proofs.Stream.Lines

namespace MeterSignals

/-- A change of what a line comes to. What is published are the signals that went out. -/
structure Revision where
  signals : Signals → Signals
  outcome : Outcome → Outcome
  published : ∀ sent result,
    outcome (.published sent result) = .published (signals sent) result

namespace Revision

variable (revision : Revision)

/-- The derivation with what it comes to changed. -/
def derivation : Derivation → Derivation
  | .publishing sent => .publishing (revision.signals sent)
  | .done outcome => .done (revision.outcome outcome)
  | .broken failure => .broken failure

/-- The line with what it comes to changed. -/
def flight (flight : Flight) : Flight :=
  { relay := flight.relay
    derivation := revision.derivation flight.derivation
    result := flight.result.map (·.map revision.outcome) }

variable (line : Flight)

theorem flight_join : (revision.flight line).join = revision.flight line.join := by
  obtain ⟨relay, derivation, result⟩ := line
  cases result with
  | some result => rfl
  | none => cases relay <;> cases derivation <;> rfl

theorem flight_isLanded : (revision.flight line).isLanded = line.isLanded := by
  obtain ⟨relay, derivation, result⟩ := line
  cases relay <;> cases derivation <;> rfl

/-- A line starts on its way as it does without the change. -/
theorem flight_start (relayed : Bool) (derivation : Derivation) :
    Flight.start relayed (revision.derivation derivation) =
      revision.flight (.start relayed derivation) := by
  cases relayed <;> cases derivation <;> rfl

theorem flight_settleRelay (reply : RelayReply) :
    (revision.flight line).settleRelay reply =
      (revision.flight (line.settleRelay reply).1, (line.settleRelay reply).2) := by
  obtain ⟨relay, derivation, result⟩ := line
  cases relay with
  | pending =>
      rcases reply with failure | error | sent
      · exact congrArg (·, _) (revision.flight_join ⟨.broken failure, derivation, result⟩)
      · exact congrArg (·, _) (revision.flight_join ⟨.done (), derivation, result⟩)
      · exact congrArg (·, _) (revision.flight_join ⟨.done (), derivation, result⟩)
  | done => rfl
  | broken failure => rfl

theorem flight_settlePublication (reply : PublishReply) :
    ((revision.flight line).settlePublication reply).1 =
      revision.flight (line.settlePublication reply).1 := by
  obtain ⟨relay, derivation, result⟩ := line
  cases derivation with
  | publishing sent =>
      cases reply with
      | error failure => exact revision.flight_join ⟨relay, .broken failure, result⟩
      | ok published =>
          have joined := revision.flight_join ⟨relay, .done (.published sent published), result⟩
          simp only [flight, Revision.derivation, revision.published] at joined
          exact joined
  | done outcome => rfl
  | broken failure => rfl

end Revision

/-- A line, given with its number, with the change for that number. -/
def revisedLine (revisions : Nat → Revision) (line : Nat × Flight) : Nat × Flight :=
  (line.1, (revisions line.1).flight line.2)

namespace StreamRun

/-- What happens aside from the stream leaves it as it is. -/
theorem step_stream_of_aside (run : StreamRun) {event : RunEvent}
    (aside : event.reachesStream = false) : (run.step event).run.stream = run.stream := by
  cases event with
  | line line now thrown => cases aside
  | relaySettled number reply => exact update_stream ..
  | publicationSettled number reply => exact update_stream ..
  | resumed =>
      rw [resumed_run]
      split
      · rfl
      · split <;> rfl
  | lookupFinished now outcome => cases aside

/-- The run with a change for every line and with another stream. -/
def revised (run : StreamRun) (revisions : Nat → Revision) (stream : Stream) : StreamRun :=
  { stream := stream
    count := run.count
    current := run.current.map (revisedLine revisions)
    left := run.left.map (revisedLine revisions) }

variable (run : StreamRun) (revisions : Nat → Revision) (stream : Stream)

/-- Only the changes for the lines under way count. -/
theorem revised_congr {others : Nat → Revision}
    (same : ∀ line ∈ run.lines, revisions line.1 = others line.1) :
    run.revised revisions stream = run.revised others stream := by
  have alike : ∀ line ∈ run.lines, revisedLine revisions line = revisedLine others line := by
    intro line member
    rw [revisedLine, revisedLine, same line member]
  have current : run.current.map (revisedLine revisions) = run.current.map (revisedLine others) :=
    Option.map_congr fun line member =>
      alike line (List.mem_append_left _ (Option.mem_toList.mpr member))
  have left : run.left.map (revisedLine revisions) = run.left.map (revisedLine others) :=
    List.map_congr_left fun line member => alike line (List.mem_append_right _ member)
  rw [revised, revised, current, left]

/-- Which line has a number does not depend on what it comes to. -/
theorem revised_any (number : Nat) :
    (run.revised revisions stream).current.any (·.1 == number) =
      run.current.any (·.1 == number) := by
  rw [revised, Option.any_map]
  rfl

/-- A change of one line goes along with a revision, if it does so for the line alone. -/
theorem revised_update {number : Nat} {change : Flight → Flight × List StreamNotice}
    (along : ∀ (revision : Revision) flight,
      (change (revision.flight flight)).1 = revision.flight (change flight).1) :
    ((run.revised revisions stream).update number change).1 =
      (run.update number change).1.revised revisions stream := by
  have line : updatedLine number change ∘ revisedLine revisions =
      revisedLine revisions ∘ updatedLine number change := by
    funext line
    by_cases same : line.1 = number
    · simp only [Function.comp_apply, updatedLine, revisedLine, same, if_true, along]
    · simp only [Function.comp_apply, updatedLine, revisedLine, same, if_false]
  have landed : (fun line : Nat × Flight => !line.2.isLanded) ∘ revisedLine revisions =
      fun line => !line.2.isLanded := by
    funext line
    rw [Function.comp_apply, revisedLine, Revision.flight_isLanded]
  rw [update_eq, update_eq, revised_any]
  split
  · simp only [revised, Option.map_map, line]
  · simp only [updateLeft_eq, revised, List.map_map, line]
    rw [← List.map_map, List.filter_map, landed]

theorem revised_resumed :
    ((run.revised revisions stream).step .resumed).run =
      (run.step .resumed).run.revised revisions stream := by
  rw [resumed_run, resumed_run]
  cases current : run.current with
  | none => simp only [revised, current, Option.map_none]
  | some line =>
      obtain ⟨number, flight⟩ := line
      have done : ((revisions number).flight flight).result.isSome = flight.result.isSome :=
        Option.isSome_map
      simp only [revised, current, Option.map_some, revisedLine, done, Revision.flight_isLanded]
      split
      · split
        · rfl
        · simp only [List.map_append, List.map_cons, List.map_nil, revisedLine, Option.map_none]
      · simp only [current, Option.map_some, revisedLine]

/-- However sends and publications end, and whenever the reading goes on, revising before and after
comes to the same. -/
theorem revised_step {event : RunEvent} (aside : event.reachesStream = false) :
    ((run.revised revisions stream).step event).run =
      (run.step event).run.revised revisions stream := by
  cases event with
  | line line now thrown => cases aside
  | relaySettled number reply =>
      exact run.revised_update revisions stream fun revision flight =>
        congrArg Prod.fst (revision.flight_settleRelay flight reply)
  | publicationSettled number reply =>
      exact run.revised_update revisions stream fun revision flight =>
        revision.flight_settlePublication flight reply
  | resumed => exact run.revised_resumed revisions stream
  | lookupFinished now outcome => cases aside

end StreamRun

end MeterSignals
