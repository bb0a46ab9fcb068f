/-
# Runs with a color filled in

Between two runs over the same events, one with a fallback and one without, the only difference
is a color in some of the lines on their way. This module says what filling in the color of the
next day does to signals, outcomes, lines and runs. It is a revision, so it goes along with every
event that is no line.
-/

import MeterSignals.Proofs.Stream.Revision

namespace MeterSignals

/-- The signals with a color for the next day, where the meter knows none. -/
def Signals.completed (signals : Signals) (color : Option DayColor) : Signals :=
  { signals with nextDayColor := signals.nextDayColor.or color }

/-- The outcome with a color for the next day in what was published. -/
def Outcome.completed (outcome : Outcome) (color : Option DayColor) : Outcome :=
  match outcome with
  | .published signals result => .published (signals.completed color) result
  | other => other

/-- The derivation with a color for the next day in what is published. -/
def Derivation.completed (derivation : Derivation) (color : Option DayColor) : Derivation :=
  match derivation with
  | .publishing signals => .publishing (signals.completed color)
  | .done outcome => .done (outcome.completed color)
  | .broken failure => .broken failure

namespace Flight

/-- The line with a color for the next day. -/
def completed (flight : Flight) (color : Option DayColor) : Flight :=
  { relay := flight.relay
    derivation := flight.derivation.completed color
    result := flight.result.map (·.map (·.completed color)) }

variable (flight : Flight) (color : Option DayColor)

/-- A line starts on its way as it does without the color. -/
theorem completed_start (relayed : Bool) (derivation : Derivation) :
    start relayed (derivation.completed color) = (start relayed derivation).completed color := by
  cases relayed <;> cases derivation <;> rfl

end Flight

/-- A line, given with its number, with the color of that number. -/
def completedLine (colors : Nat → Option DayColor) (line : Nat × Flight) : Nat × Flight :=
  (line.1, line.2.completed (colors line.1))

/-- Filling in a color. -/
def Revision.completing (color : Option DayColor) : Revision :=
  ⟨(·.completed color), (·.completed color), fun _ _ => rfl⟩

theorem completedLine_eq (colors : Nat → Option DayColor) :
    completedLine colors = revisedLine fun number => .completing (colors number) := by
  funext line
  obtain ⟨number, relay, derivation, result⟩ := line
  cases derivation <;> rfl

namespace StreamRun

/-- The run with a color for every line and with a fallback. -/
def completed (run : StreamRun) (colors : Nat → Option DayColor) (fallback : Option Fallback) :
    StreamRun :=
  { stream := { run.stream with fallback := fallback }
    count := run.count
    current := run.current.map (completedLine colors)
    left := run.left.map (completedLine colors) }

variable (run : StreamRun) (colors : Nat → Option DayColor) (fallback : Option Fallback)

theorem completed_eq :
    run.completed colors fallback =
      run.revised (fun number => .completing (colors number))
        { run.stream with fallback := fallback } := by
  rw [completed, completedLine_eq, revised]

/-- Only the colors of the lines under way count. -/
theorem completed_congr {others : Nat → Option DayColor}
    (same : ∀ line ∈ run.lines, colors line.1 = others line.1) :
    run.completed colors fallback = run.completed others fallback := by
  rw [completed_eq, completed_eq]
  exact run.revised_congr _ _ fun line member => congrArg _ (same line member)

/-- However sends and publications end, and whenever the reading goes on, filling in before and
after comes to the same. -/
theorem completed_step {event : RunEvent} (aside : event.reachesStream = false) :
    ((run.completed colors fallback).step event).run =
      (run.step event).run.completed colors fallback := by
  rw [completed_eq, completed_eq, run.revised_step _ _ aside, run.step_stream_of_aside aside]

end StreamRun

end MeterSignals
