/-
# When the estimate stays a number

The filter is the only part of a stream that computes with doubles, and its estimate is
carried from line to line. Whatever else happens to a stream, one event moves the estimate by
one step of the filter at most. So the estimate stays finite through a run exactly if every
power that a line brings can be taken by the filter at that moment. Powers that are large and
of opposite sign cannot, and a text of very many digits is read as an infinite power; after
that the estimate may be no number, and then it stays so.
-/

import MeterSignals.Proofs.ShedFilter.Range
import MeterSignals.Proofs.Stream.Lines

namespace MeterSignals

/-- The power that a line states; none if the line is rejected. -/
def StreamOptions.powerOf (options : StreamOptions) (line : Text) : Option Float :=
  (Record.ofLine options.validity line).toOption.bind fun record => (options.extract record).power

/-- A line moves the estimate by one step of the filter. -/
theorem StreamState.next_estimate (options : StreamOptions) (state : StreamState) (line : Text) :
    (state.next options line).estimate =
      (options.filter.step state.estimate (options.powerOf line)).1 := by
  rw [next, StreamOptions.powerOf]
  cases read : Record.ofLine options.validity line with
  | error rejection =>
      rw [take_of_error read]
      rfl
  | ok record =>
      rw [take_of_ok read]
      rfl

namespace StreamRun

/-- The power that an event brings to the filter. A line is taken in only by a run that waits
for none. -/
def brings (run : StreamRun) : RunEvent → Option Float
  | .line line _ _ => if run.current.isNone then run.stream.options.powerOf line else none
  | _ => none

/-- An event keeps the settings and moves the estimate by one step of the filter, which
changes nothing unless the event brings a power. -/
theorem step_estimate (run : StreamRun) (event : RunEvent) :
    (run.step event).run.stream.options = run.stream.options ∧
      (run.step event).run.stream.state.estimate =
        (run.stream.options.filter.step run.stream.state.estimate (run.brings event)).1 := by
  cases event with
  | line line now thrown =>
      cases current : run.current with
      | none =>
          rw [step_line_of_idle current, brings, current, Option.isNone_none, if_pos rfl]
          refine ⟨run.stream.enter_options line now thrown, ?_⟩
          rw [Stream.enter_state, StreamState.next_estimate]
      | some waiting =>
          simp only [step, brings, current]
          exact ⟨rfl, rfl⟩
  | relaySettled number reply =>
      rw [step_relaySettled, update_stream]
      exact ⟨rfl, rfl⟩
  | publicationSettled number reply =>
      rw [step_publicationSettled, update_stream]
      exact ⟨rfl, rfl⟩
  | resumed =>
      cases current : run.current with
      | none =>
          rw [run.step_resumed_of_idle current]
          exact ⟨rfl, rfl⟩
      | some waiting =>
          rcases run.step_resumed_of_current _ current with ⟨-, step⟩ | ⟨result, left, -, step⟩ <;>
            rw [step] <;> exact ⟨rfl, rfl⟩
  | lookupFinished now outcome =>
      obtain ⟨settings, -, state, -⟩ := run.stream.finishLookup_kept now outcome
      rw [step_lookupFinished]
      exact ⟨settings, congrArg (·.estimate) state⟩

/-- What an event brings was stated by a line. -/
theorem exists_line_of_brings {run : StreamRun} {event : RunEvent} {power : Float}
    (brought : run.brings event = some power) :
    ∃ line now thrown, event = .line line now thrown ∧
      run.stream.options.powerOf line = some power := by
  cases event with
  | line line now thrown =>
      rw [brings] at brought
      split at brought
      · exact ⟨line, now, thrown, rfl, brought⟩
      · cases brought
  | _ => cases brought

end StreamRun

namespace Transcript

variable {stream : Stream}

/-- The estimate after a row of events. -/
def estimate (stream : Stream) (events : List RunEvent) : Float :=
  (of stream events).run.stream.state.estimate

theorem estimate_snoc (stream : Stream) (earlier : List RunEvent) (event : RunEvent) :
    estimate stream (earlier ++ [event]) =
      (stream.options.filter.step (estimate stream earlier)
        ((of stream earlier).run.brings event)).1 := by
  rw [estimate, estimate, of_snoc, ← of_options stream earlier]
  exact ((of stream earlier).run.step_estimate event).2

/-- While all powers are harmless, so is the estimate. -/
theorem estimate_of_harmless (constant : stream.options.filter.timeConstant.isFinite = true)
    (least : 1 ≤ stream.options.filter.timeConstant) (start : estimate stream [] = 0)
    {events : List RunEvent}
    (harmless : ∀ line now thrown power, .line line now thrown ∈ events →
      stream.options.powerOf line = some power →
        power.isFinite = true ∧ |Number.value power| ≤ ShedFilter.harmless) :
    (estimate stream events).isFinite = true ∧
      |Number.value (estimate stream events)| ≤ ShedFilter.harmless + Number.halfUnit := by
  induction events using List.reverseRecOn with
  | nil =>
      rw [start, Number.value_zero, abs_zero, ShedFilter.harmless]
      refine ⟨rfl, ?_⟩
      have unit := Number.halfUnit_pos
      linarith
  | append_singleton earlier event ih =>
      obtain ⟨finite, bounded⟩ := ih fun line now thrown power member =>
        harmless line now thrown power (List.mem_append_left _ member)
      rw [estimate_snoc]
      cases brought : (of stream earlier).run.brings event with
      | none => exact ⟨finite, bounded⟩
      | some power =>
          obtain ⟨line, now, thrown, rfl, stated⟩ := StreamRun.exists_line_of_brings brought
          rw [of_options] at stated
          obtain ⟨reading, small⟩ := harmless line now thrown power (by simp) stated
          exact ShedFilter.advance_of_harmless finite constant least bounded reading small

/-- An estimate that is no number stays so. -/
theorem isNaN_estimate_append {earlier : List RunEvent}
    (lost : (estimate stream earlier).isNaN = true) (later : List RunEvent) :
    (estimate stream (earlier ++ later)).isNaN = true := by
  induction later using List.reverseRecOn with
  | nil => rwa [List.append_nil]
  | append_singleton later event ih =>
      rw [← List.append_assoc, estimate_snoc]
      cases (of stream (earlier ++ later)).run.brings event with
      | none => exact ih
      | some power => exact (ShedFilter.isNaN_advance ih power).1

/-- Through any run, with sends, publications and lookups that end at any time, the estimate
stays finite exactly if the filter can take every power at the moment at which a line brings
it. It does so while the powers are finite and no larger than the harmless ones. An estimate
that is no number is never a number again. -/
theorem estimate_isFinite_iff (options : StreamOptions) (relayed : Bool)
    (fallback : Option Fallback) (constant : options.filter.timeConstant.isFinite = true)
    (least : 1 ≤ options.filter.timeConstant) (events : List RunEvent) :
    let stream := Stream.initial options relayed fallback
    ((∀ earlier, earlier <+: events → (estimate stream earlier).isFinite = true) ↔
      ∀ earlier event, earlier ++ [event] <+: events →
        ∀ power, (of stream earlier).run.brings event = some power →
          options.filter.StaysInRange (estimate stream earlier) power) ∧
    ((∀ line now thrown power, .line line now thrown ∈ events →
        options.powerOf line = some power →
          power.isFinite = true ∧ |Number.value power| ≤ ShedFilter.harmless) →
      (estimate stream events).isFinite = true) ∧
    ((estimate stream events).isNaN = true →
      ∀ later, (estimate stream (events ++ later)).isNaN = true) := by
  intro stream
  have start : estimate stream [] = 0 := rfl
  refine ⟨⟨?_, ?_⟩, fun harmless => ?_, isNaN_estimate_append⟩
  · intro finite earlier event reached
    have before := finite earlier ((List.prefix_append _ _).trans reached)
    have after := finite _ reached
    rw [estimate_snoc] at after
    exact (ShedFilter.isFinite_step_iff before constant least _).mp after
  · intro taken earlier
    induction earlier using List.reverseRecOn with
    | nil =>
        rw [start]
        exact fun _ => rfl
    | append_singleton earlier event ih =>
        intro reached
        have before := ih ((List.prefix_append _ _).trans reached)
        rw [estimate_snoc]
        exact (ShedFilter.isFinite_step_iff before constant least _).mpr
          (taken earlier event reached)
  · exact (@estimate_of_harmless stream constant least start events harmless).1

/-- A power that rises is taken at once, and a frame that states none changes nothing. -/
theorem estimate_isFinite_of_two_lines :
    let events : List RunEvent :=
      [.line r#"{"_tvalide":1,"SINSTS":{"data":"9100"}}"# none none,
        .publicationSettled 1 (.ok (.ok ())), .resumed, .line r#"{"_tvalide":1}"# none none]
    ∀ earlier, earlier <+: events →
      (estimate (.initial (.usual 0) false none) earlier).isFinite = true := by
  intro events
  refine (estimate_isFinite_iff (.usual 0) false none rfl (by decide +kernel) events).1.mpr ?_
  intro earlier event reached power brought
  have rises : ∀ n : Fin 4,
      let before := events.take n
      ((of (.initial (.usual 0) false none) before).run.brings events[n]).all fun power =>
        power.isFinite &&
          decide (estimate (.initial (.usual 0) false none) before < power ∧ 9000 < power) := by
    decide +kernel
  have bound : earlier.length < events.length := by
    have whole := reached.length_le
    rw [List.length_append] at whole
    exact whole
  have parts : earlier ++ [event] = events.take earlier.length ++ [events[earlier.length]] := by
    rw [← List.take_succ_eq_append_getElem bound]
    simpa using List.prefix_iff_eq_take.mp reached
  obtain ⟨same, last⟩ := List.append_inj' parts rfl
  obtain rfl := List.singleton_inj.mp last
  have risen := rises ⟨earlier.length, bound⟩
  simp only [Fin.getElem_fin] at risen
  rw [← same, brought, Option.all_some, Bool.and_eq_true, decide_eq_true_eq] at risen
  exact ⟨risen.1, .inl risen.2⟩

/-- A power of 309 digits is read as infinite and becomes the estimate. With the next power the
estimate is no number, although the threshold and the time constant are the usual ones. -/
theorem not_estimate_isFinite :
    let stream := Stream.initial (.usual 0) false none
    let many : Text := ⟨List.replicate 309 57⟩
    let events : List RunEvent :=
      [.line (r#"{"_tvalide":1,"SINSTS":{"data":""# ++ many ++ r#""}}"#) none none,
        .publicationSettled 1 (.ok (.ok ())), .resumed,
        .line r#"{"_tvalide":1,"SINSTS":{"data":8000}}"# none none]
    (stream.options.filter.threshold.isFinite = true ∧ 0 < stream.options.filter.threshold) ∧
      (stream.options.filter.timeConstant.isFinite = true ∧
        1 ≤ stream.options.filter.timeConstant) ∧
      (estimate stream (events.take 1)).isFinite = false ∧
      (estimate stream events).isNaN = true := by
  decide +kernel

end Transcript

end MeterSignals
