/-
# What an event makes of the lines

Of several lines something may be under way at once: the one that the reading waits for, and
earlier ones that it has left. An event that is no line updates or moves them, and what is true
of every line as it enters, and is kept by the ends of its two legs, is true of every line at any
time.
-/

import Mathlib.Data.List.Induction
import MeterSignals.Proofs.Stream.Transcript

namespace MeterSignals

/-- Nothing is sent, and no lookup is asked for. -/
structure RunStep.IsSilent (step : RunStep) : Prop where
  relay : step.relay = none
  batch : step.batch = none
  asked : step.asked = false

namespace StreamRun

/-- The lines of which something may be under way. -/
def lines (run : StreamRun) : List (Nat × Flight) := run.current.toList ++ run.left

variable (run : StreamRun)

section Update

variable (number : Nat) (change : Flight → Flight × List StreamNotice)

/-- What an update makes of one line. -/
def updatedLine (line : Nat × Flight) : Nat × Flight :=
  (line.1, if line.1 = number then (change line.2).1 else line.2)

/-- An earlier line that has landed is dropped. -/
theorem updateLeft_eq :
    (update.updateLeft number change run).1 =
      { run with left :=
          (run.left.map (updatedLine number change)).filter fun line => !line.2.isLanded } := by
  have lines : run.left.map (fun line =>
      (if line.1 = number then ((line.1, (change line.2).1), (change line.2).2)
        else (line, [])).1) = run.left.map (updatedLine number change) :=
    List.map_congr_left fun line _ => by
      rw [updatedLine]
      split <;> rfl
  simp only [update.updateLeft, List.map_map, Function.comp_def]
  rw [← lines]

/-- An update changes the line that is waited for if it has the number, and an earlier one if
not. -/
theorem update_eq :
    (run.update number change).1 =
      if run.current.any (·.1 == number) then
        { run with current := run.current.map (updatedLine number change) }
      else (update.updateLeft number change run).1 := by
  unfold update
  cases current : run.current with
  | none => rfl
  | some found =>
      obtain ⟨n, flight⟩ := found
      by_cases same : n = number
      · simp [same, updatedLine]
      · simp [same]

variable {number change}

/-- What the change keeps of each line, the update keeps of all. -/
theorem forall_lines_update {P : Nat × Flight → Prop}
    (along : ∀ line, P line → P (line.1, (change line.2).1)) (held : ∀ line ∈ run.lines, P line) :
    ∀ line ∈ (run.update number change).1.lines, P line := by
  have updated : ∀ line, P line → P (updatedLine number change line) := by
    intro line holds
    rw [updatedLine]
    split
    · exact along line holds
    · exact holds
  intro line member
  rw [update_eq] at member
  split at member
  · rcases List.mem_append.mp member with current | left
    · obtain ⟨before, found, rfl⟩ := Option.map_eq_some_iff.mp (Option.mem_toList.mp current)
      exact updated before (held before (List.mem_append_left _ (Option.mem_toList.mpr found)))
    · exact held line (List.mem_append_right _ left)
  · rw [updateLeft_eq] at member
    rcases List.mem_append.mp member with current | left
    · exact held line (List.mem_append_left _ current)
    · obtain ⟨before, found, rfl⟩ := List.mem_map.mp (List.mem_filter.mp left).1
      exact updated before (held before (List.mem_append_right _ found))

end Update

/-- The reading goes on when the line that it waits for is done; what is still under way of it
is left. -/
theorem resumed_run :
    (run.step .resumed).run =
      match run.current with
      | none => run
      | some (number, flight) =>
        if flight.result.isSome then
          { run with
            current := none
            left := if flight.isLanded then run.left else run.left ++ [(number, flight)] }
        else run := by
  cases current : run.current with
  | none => rw [run.step_resumed_of_idle current]
  | some line =>
      obtain ⟨number, flight⟩ := line
      simp only [step, current]
      cases flight.result with
      | none => rfl
      | some result => cases result <;> rfl

theorem step_line_of_busy (busy : run.current.isSome) (line : Text) (now : Option Instant)
    (thrown : Option Failure) :
    run.step (.line line now thrown) = ⟨run, none, none, false, []⟩ := by
  obtain ⟨waiting, current⟩ := Option.isSome_iff_exists.mp busy
  simp only [step, current]
  rfl

/-- Only a line that enters sends something, and only it may have a lookup started. -/
theorem step_isSilent {event : RunEvent} (other : event.isLine = false) :
    (run.step event).IsSilent := by
  cases event with
  | line line now thrown => cases other
  | relaySettled number reply => exact ⟨rfl, rfl, rfl⟩
  | publicationSettled number reply => exact ⟨rfl, rfl, rfl⟩
  | resumed =>
      cases current : run.current with
      | none =>
          rw [run.step_resumed_of_idle current]
          exact ⟨rfl, rfl, rfl⟩
      | some line =>
          rcases run.step_resumed_of_current line.1 current with
            ⟨-, step⟩ | ⟨result, left, -, step⟩ <;>
          · rw [step]
            exact ⟨rfl, rfl, rfl⟩
  | lookupFinished now outcome => exact ⟨rfl, rfl, rfl⟩

/-- A stream keeps its settings, and a stream without a fallback gets none. -/
theorem step_stream_kept (event : RunEvent) :
    (run.step event).run.stream.options = run.stream.options ∧
      (run.stream.fallback = none → (run.step event).run.stream.fallback = none) := by
  cases event with
  | line line now thrown =>
      by_cases busy : run.current.isSome
      · rw [run.step_line_of_busy busy]
        exact ⟨rfl, id⟩
      · rw [step_line_of_idle (Option.not_isSome_iff_eq_none.mp busy)]
        exact ⟨run.stream.enter_options line now thrown,
          fun alone => (Stream.enter_of_no_fallback alone line now thrown).1⟩
  | relaySettled number reply =>
      rw [step_relaySettled, update_stream]
      exact ⟨rfl, id⟩
  | publicationSettled number reply =>
      rw [step_publicationSettled, update_stream]
      exact ⟨rfl, id⟩
  | resumed =>
      rw [resumed_run]
      split
      · exact ⟨rfl, id⟩
      · split <;> exact ⟨rfl, id⟩
  | lookupFinished now outcome =>
      obtain ⟨options, -, -, absent⟩ := run.stream.finishLookup_kept now outcome
      rw [step_lookupFinished]
      refine ⟨options, fun alone => ?_⟩
      rw [absent alone]
      exact alone

/-- What is true of a line as it enters, and kept by the ends of sends and publications, is true
of all lines. -/
theorem forall_lines_step {P : Nat × Flight → Prop} {event : RunEvent}
    (entering : ∀ line now thrown, event = .line line now thrown → run.current = none →
      P (run.count + 1, (run.stream.enter line now thrown).flight))
    (relay : ∀ line reply, P line → P (line.1, (line.2.settleRelay reply).1))
    (publication : ∀ line reply, P line → P (line.1, (line.2.settlePublication reply).1))
    (held : ∀ line ∈ run.lines, P line) : ∀ line ∈ (run.step event).run.lines, P line := by
  cases event with
  | line line now thrown =>
      by_cases busy : run.current.isSome
      · rw [run.step_line_of_busy busy]
        exact held
      · have idle := Option.not_isSome_iff_eq_none.mp busy
        rw [step_line_of_idle idle]
        intro found member
        rcases List.mem_append.mp member with entered | left
        · rw [List.mem_singleton.mp entered]
          exact entering line now thrown rfl idle
        · exact held found (List.mem_append_right _ left)
  | relaySettled number reply =>
      exact run.forall_lines_update (fun line holds => relay line reply holds) held
  | publicationSettled number reply =>
      exact run.forall_lines_update (fun line holds => publication line reply holds) held
  | resumed =>
      rw [resumed_run]
      cases current : run.current with
      | none => exact held
      | some line =>
          obtain ⟨number, flight⟩ := line
          dsimp only
          split
          · intro found member
            rcases List.mem_append.mp member with none | left
            · cases none
            · split at left
              · exact held found (List.mem_append_right _ left)
              · rcases List.mem_append.mp left with earlier | last
                · exact held found (List.mem_append_right _ earlier)
                · rw [List.mem_singleton.mp last]
                  exact held _ (List.mem_append_left _ (Option.mem_toList.mpr current))
          · exact held
  | lookupFinished now outcome => exact held

/-- The lines of a run are numbered as they have entered. -/
def Numbered : Prop := ∀ line ∈ run.lines, line.1 ≤ run.count

variable {run}

theorem count_le_step (event : RunEvent) : run.count ≤ (run.step event).run.count := by
  cases event with
  | line line now thrown =>
      by_cases busy : run.current.isSome
      · exact Nat.le_of_eq (by rw [run.step_line_of_busy busy])
      · rw [step_line_of_idle (Option.not_isSome_iff_eq_none.mp busy)]
        exact Nat.le_succ _
  | relaySettled number reply => exact Nat.le_of_eq (update_count ..).symm
  | publicationSettled number reply => exact Nat.le_of_eq (update_count ..).symm
  | resumed =>
      rw [resumed_run]
      split
      · exact Nat.le_refl _
      · split <;> exact Nat.le_refl _
  | lookupFinished now outcome => exact Nat.le_refl _

/-- Every event keeps the lines numbered. -/
theorem Numbered.step (numbered : run.Numbered) (event : RunEvent) :
    (run.step event).run.Numbered := by
  refine run.forall_lines_step (fun line now thrown entering idle => ?_)
    (fun line reply holds => holds) (fun line reply holds => holds)
    fun line member => Nat.le_trans (numbered line member) (count_le_step event)
  exact Nat.le_of_eq (by rw [entering, step_line_of_idle idle])

end StreamRun

/-- The settings are those of the start. -/
theorem Transcript.of_options (stream : Stream) (events : List RunEvent) :
    (of stream events).run.stream.options = stream.options := by
  induction events using List.reverseRecOn with
  | nil => rfl
  | append_singleton earlier event ih =>
      rw [of_snoc]
      exact ((of stream earlier).run.step_stream_kept event).1.trans ih

end MeterSignals
