/-
# What the fallback has lived through

The fallback is asked for a color at some times, and a lookup that is on its way comes back
at others. The chronicle follows it through any row of such events and keeps, beside its
state, the last color that a lookup brought and the clock readings at which the day was
looked at since then.
-/

import Mathlib.Data.List.Chain
import MeterSignals.Proofs.Calendar.Freshness
import MeterSignals.Proofs.Fallback.Scheduler
import MeterSignals.Proofs.Time.MonthDay

namespace MeterSignals

/-- Something that happens to the fallback. -/
inductive FallbackEvent
  /-- The color of the next day is wanted, where the meter may know it. If a lookup is started
  and its start throws, `thrown` is what it throws. -/
  | asked (now : Option Instant) (localColor : Option DayColor) (thrown : Option Failure)
  /-- The lookup on its way comes back; nothing happens if there is none. -/
  | answered (now : Option Instant) (outcome : LookupOutcome)

/-- The clock reading at an event. -/
def FallbackEvent.time : FallbackEvent → Option Instant
  | .asked now _ _ => now
  | .answered now _ => now

/-- A fallback and what has happened to it. -/
structure Chronicle where
  scheduler : Scheduler
  /-- The last color that a lookup brought, and when that came back. -/
  brought : Option (DayColor × Option Instant)
  /-- The clock readings at which the day was looked at, from then on. -/
  looks : List (Option Instant)

namespace Chronicle

/-- Nothing has happened. -/
def initial : Chronicle := ⟨.initial, none, []⟩

/-- One event. -/
def next (home : Zone) (window : FetchWindow) (chronicle : Chronicle) : FallbackEvent → Chronicle
  | .asked now localColor thrown =>
    { chronicle with
      scheduler :=
        (chronicle.scheduler.resolve home window now localColor thrown).scheduler
      looks := chronicle.looks ++ [now] }
  | .answered now outcome =>
    if chronicle.scheduler.inFlight then
      let scheduler := (chronicle.scheduler.finish home now outcome).1
      match outcome with
      | .rejected _ => { chronicle with scheduler := scheduler }
      | .error _ => { chronicle with scheduler := scheduler, looks := chronicle.looks ++ [now] }
      | .entry entry =>
        match entry.freshColor home now with
        | .ok color => ⟨scheduler, some (color, now), [now]⟩
        | .error _ => { chronicle with scheduler := scheduler, looks := chronicle.looks ++ [now] }
    else chronicle

/-- A row of events. -/
def of (home : Zone) (window : FetchWindow) (events : List FallbackEvent) : Chronicle :=
  events.foldl (next home window) initial

theorem of_snoc (home : Zone) (window : FetchWindow) (events : List FallbackEvent)
    (event : FallbackEvent) :
    of home window (events ++ [event]) = (of home window events).next home window event := by
  rw [of, List.foldl_append]
  rfl

end Chronicle

namespace Chronicle

/-- A color that is remembered is the last one that a lookup brought, and every look since then
was on the day of the month that was seen last. -/
def Remembers (home : Zone) (chronicle : Chronicle) : Prop :=
  ∀ color, chronicle.scheduler.schedule.cachedColor = some color →
    ∃ came rest, chronicle.brought = some (color, came) ∧ chronicle.looks = came :: rest ∧
      ∀ look ∈ chronicle.looks, chronicle.scheduler.schedule.lastSeenDay.isOn home look = true

variable {home : Zone} {window : FetchWindow} {chronicle : Chronicle}

/-- A look at the day keeps what is remembered, or makes it forgotten. -/
theorem Remembers.rollOver (remembers : chronicle.Remembers home) {scheduler : Scheduler}
    {now : Option Instant}
    (rolled : scheduler.schedule = chronicle.scheduler.schedule.rollOver home now) :
    Remembers home ⟨scheduler, chronicle.brought, chronicle.looks ++ [now]⟩ := by
  intro color cached
  have kept := cached
  rw [rolled] at kept
  obtain ⟨before, seen, same⟩ := Schedule.cachedColor_of_rollOver kept
  obtain ⟨came, rest, brought, looks, days⟩ := remembers color before
  refine ⟨came, rest ++ [now], brought, by rw [looks]; rfl, fun look member => ?_⟩
  rw [rolled, same]
  rcases List.mem_append.mp member with earlier | last
  · exact days look earlier
  · rw [List.mem_singleton.mp last]
    exact seen

/-- Whatever happens keeps what is remembered true. -/
theorem Remembers.next (remembers : chronicle.Remembers home) (event : FallbackEvent) :
    (chronicle.next home window event).Remembers home := by
  cases event with
  | asked now localColor thrown =>
      exact remembers.rollOver (Scheduler.resolve_schedule localColor thrown)
  | answered now outcome =>
      rw [Chronicle.next]
      split
      · cases outcome with
        | rejected failure => exact remembers
        | error e => exact remembers.rollOver rfl
        | entry entry =>
            cases fresh : entry.freshColor home now with
            | error e =>
                simp only [Scheduler.finish, fresh]
                exact remembers.rollOver rfl
            | ok color =>
                obtain ⟨-, instant, rfl, -⟩ := CalendarEntry.freshColor_eq_ok_iff.mp fresh
                simp only [Scheduler.finish, fresh]
                intro cached same
                cases same
                refine ⟨_, [], rfl, rfl, fun look member => ?_⟩
                rw [List.mem_singleton.mp member]
                exact beq_self_eq_true _
      · exact remembers

theorem remembers_of (home : Zone) (window : FetchWindow) (events : List FallbackEvent) :
    (of home window events).Remembers home := by
  induction events using List.reverseRecOn with
  | nil => exact fun color cached => nomatch cached
  | append_singleton events event ih =>
      rw [of_snoc]
      exact ih.next event

/-- The day is looked at in the order of the events. -/
theorem looks_sublist (home : Zone) (window : FetchWindow) (events : List FallbackEvent) :
    (of home window events).looks.Sublist (events.map FallbackEvent.time) := by
  induction events using List.reverseRecOn with
  | nil => exact List.Sublist.slnil
  | append_singleton events event ih =>
      rw [of_snoc, List.map_append]
      have skipped := ih.trans (List.sublist_append_left _ [event.time])
      have looked := ih.append (List.Sublist.refl [event.time])
      cases event with
      | asked now localColor thrown => exact looked
      | answered now outcome =>
          rw [next]
          split
          · cases outcome with
            | rejected failure => exact skipped
            | error e => exact looked
            | entry entry =>
                dsimp only
                split
                · exact List.sublist_append_right _ _
                · exact looked
          · exact skipped

end Chronicle

end MeterSignals
