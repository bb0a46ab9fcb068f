/-
# Lookups on their way

A lookup comes back in two moments. In the first what it brought is taken in, in the second it
stops counting as being on its way, and questions may come between the two. The traffic follows
the fallback through any row of such moments. Beside the fallback it keeps account of the lookups
by itself, without a look at what the fallback believes: how many were asked for, how many have
not come back, how many have come back and still count, and which fresh entries they brought.

Nothing here says in which order the moments come, that the clock goes forward, or that it shows
an instant at all. A lookup that is not on its way cannot come back, and that is all.
-/

import Mathlib.Data.List.Induction
import MeterSignals.Proofs.Calendar.Freshness
import MeterSignals.Proofs.Fallback.Scheduler

namespace MeterSignals

/-- The entry that a lookup brings, if it is fresh when the lookup comes back. -/
def LookupOutcome.accepted (home : Zone) (now : Option Instant) :
    LookupOutcome → Option CalendarEntry
  | .entry found =>
    match found.freshColor home now with
    | .ok _ => some found
    | .error _ => none
  | _ => none

namespace Scheduler

/-- What a lookup brought is taken in at `now`. The lookup still counts as being on its way. -/
def settle (scheduler : Scheduler) (home : Zone) (now : Option Instant)
    (outcome : LookupOutcome) : Scheduler :=
  match outcome with
  | .rejected _ => scheduler
  | .error _ => { scheduler with schedule := scheduler.schedule.rollOver home now }
  | .entry entry =>
    match entry.freshColor home now with
    | .ok color => { scheduler with schedule := .ofSuccess home color now }
    | .error _ => { scheduler with schedule := scheduler.schedule.rollOver home now }

/-- No lookup counts as being on its way. -/
def release (scheduler : Scheduler) : Scheduler := { scheduler with inFlight := false }

variable (scheduler : Scheduler) (home : Zone) (now : Option Instant)

/-- A lookup that comes back all at once goes through both moments. -/
theorem finish_eq (outcome : LookupOutcome) :
    (scheduler.finish home now outcome).1 = (scheduler.settle home now outcome).release := by
  cases outcome with
  | rejected failure => rfl
  | error e => rfl
  | entry entry =>
      simp only [finish, settle]
      cases entry.freshColor home now <;> rfl

@[simp]
theorem settle_inFlight (outcome : LookupOutcome) :
    (scheduler.settle home now outcome).inFlight = scheduler.inFlight := by
  cases outcome with
  | rejected failure => rfl
  | error e => rfl
  | entry entry =>
      simp only [settle]
      cases entry.freshColor home now <;> rfl

/-- What is taken in rolls the day over at most, unless it is a fresh entry. -/
theorem settle_schedule (outcome : LookupOutcome) :
    (outcome.accepted home now = none ∧
        ((scheduler.settle home now outcome).schedule = scheduler.schedule ∨
          (scheduler.settle home now outcome).schedule =
            scheduler.schedule.rollOver home now)) ∨
      ∃ entry color, outcome = .entry entry ∧ entry.freshColor home now = .ok color ∧
        outcome.accepted home now = some entry ∧
        (scheduler.settle home now outcome).schedule = .ofSuccess home color now := by
  cases outcome with
  | rejected failure => exact .inl ⟨rfl, .inl rfl⟩
  | error e => exact .inl ⟨rfl, .inr rfl⟩
  | entry entry =>
      simp only [settle, LookupOutcome.accepted]
      cases fresh : entry.freshColor home now with
      | error e => exact .inl ⟨rfl, .inr rfl⟩
      | ok color => exact .inr ⟨entry, color, rfl, fresh, rfl, rfl⟩

end Scheduler

/-- A moment in the life of the fallback. -/
inductive TrafficEvent
  /-- The color of the next day is wanted, where the meter may know it. If a lookup is started
  and its start throws, `thrown` is what it throws. -/
  | asked (now : Option Instant) (localColor : Option DayColor) (thrown : Option Failure)
  /-- What a lookup brought is taken in; nothing happens if none has still to come back. -/
  | settled (now : Option Instant) (outcome : LookupOutcome)
  /-- A lookup that has come back stops counting; nothing happens if there is none. -/
  | released

/-- The clock reading at a moment, if the clock is read. -/
def TrafficEvent.clock? : TrafficEvent → Option (Option Instant)
  | .asked now _ _ => some now
  | .settled now _ => some now
  | .released => none

/-- A fallback and an account of its lookups. -/
structure Traffic where
  scheduler : Scheduler
  /-- How often a lookup was asked for, also where its start threw. -/
  calls : Nat
  /-- How many lookups have not come back. -/
  awaited : Nat
  /-- How many lookups have come back and still count as being on their way. -/
  returned : Nat
  /-- The entries that were fresh when they came back, with the clock reading of that moment. -/
  accepted : List (CalendarEntry × Option Instant)
  /-- What the questions were answered, or what broke them off. -/
  answers : List (Except Failure (Option DayColor))

namespace Traffic

/-- Nothing has happened. -/
def initial : Traffic := ⟨.initial, 0, 0, 0, [], []⟩

/-- One moment. -/
def next (home : Zone) (window : FetchWindow) (traffic : Traffic) : TrafficEvent → Traffic
  | .asked now localColor thrown =>
    let answer := traffic.scheduler.resolve home window now localColor thrown
    { traffic with
      scheduler := answer.scheduler
      calls := traffic.calls + answer.asked.toNat
      awaited := traffic.awaited + (answer.asked && thrown.isNone).toNat
      answers := traffic.answers ++ [answer.color] }
  | .settled now outcome =>
    if traffic.awaited = 0 then traffic
    else
      { traffic with
        scheduler := traffic.scheduler.settle home now outcome
        awaited := traffic.awaited - 1
        returned := traffic.returned + 1
        accepted := traffic.accepted ++ (outcome.accepted home now).toList.map (·, now) }
  | .released =>
    if traffic.returned = 0 then traffic
    else { traffic with scheduler := traffic.scheduler.release, returned := traffic.returned - 1 }

/-- A row of moments. -/
def after (home : Zone) (window : FetchWindow) (traffic : Traffic)
    (events : List TrafficEvent) : Traffic :=
  events.foldl (next home window) traffic

/-- A row of moments, from the start. -/
def of (home : Zone) (window : FetchWindow) (events : List TrafficEvent) : Traffic :=
  initial.after home window events

/-- The lookups on their way. -/
def onTheWay (traffic : Traffic) : Nat := traffic.awaited + traffic.returned

variable {home : Zone} {window : FetchWindow} {traffic : Traffic}

theorem of_snoc (home : Zone) (window : FetchWindow) (events : List TrafficEvent)
    (event : TrafficEvent) :
    of home window (events ++ [event]) = (of home window events).next home window event := by
  rw [of, after, List.foldl_append]
  rfl

theorem of_append (home : Zone) (window : FetchWindow) (earlier later : List TrafficEvent) :
    of home window (earlier ++ later) = (of home window earlier).after home window later :=
  List.foldl_append

/-- All that one moment can do to the schedule: the day is rolled over at most, or a fresh entry
is taken in. -/
theorem next_schedule (home : Zone) (window : FetchWindow) (traffic : Traffic)
    (event : TrafficEvent) :
    ((traffic.next home window event).accepted = traffic.accepted ∧
        ((traffic.next home window event).scheduler.schedule = traffic.scheduler.schedule ∨
          ∃ now ∈ event.clock?, (traffic.next home window event).scheduler.schedule =
            traffic.scheduler.schedule.rollOver home now)) ∨
      ∃ now entry color, event = .settled now (.entry entry) ∧
        entry.freshColor home now = .ok color ∧
        (traffic.next home window event).accepted = traffic.accepted ++ [(entry, now)] ∧
        (traffic.next home window event).scheduler.schedule = .ofSuccess home color now := by
  cases event with
  | asked now localColor thrown =>
      exact .inl ⟨rfl, .inr ⟨now, rfl, Scheduler.resolve_schedule localColor thrown⟩⟩
  | settled now outcome =>
      rw [next]
      split
      · exact .inl ⟨rfl, .inl rfl⟩
      · rcases traffic.scheduler.settle_schedule home now outcome with
          ⟨refused, same | rolled⟩ | ⟨entry, color, rfl, fresh, accepted, success⟩
        · exact .inl ⟨by simp [refused], .inl same⟩
        · exact .inl ⟨by simp [refused], .inr ⟨now, rfl, rolled⟩⟩
        · exact .inr ⟨now, entry, color, rfl, fresh, by simp [accepted], success⟩
  | released =>
      rw [next]
      split <;> exact .inl ⟨rfl, .inl rfl⟩

/-- The fallback knows how many lookups are on their way. -/
def KeepsCount (traffic : Traffic) : Prop :=
  traffic.onTheWay = traffic.scheduler.inFlight.toNat

theorem KeepsCount.onTheWay_eq_zero_iff (count : traffic.KeepsCount) :
    traffic.onTheWay = 0 ↔ traffic.scheduler.inFlight = false := by
  rw [count]
  cases traffic.scheduler.inFlight <;> simp

/-- Whatever happens, the fallback keeps count. -/
theorem KeepsCount.next (count : traffic.KeepsCount) (event : TrafficEvent) :
    (traffic.next home window event).KeepsCount := by
  rw [KeepsCount, onTheWay] at count ⊢
  cases event with
  | asked now localColor thrown =>
      simp only [Traffic.next, Scheduler.resolve_inFlight, Scheduler.resolve_asked]
      cases due : traffic.scheduler.isLookupDue home window now localColor with
      | false => simpa using count
      | true =>
          obtain ⟨-, -, idle, -⟩ := Scheduler.isLookupDue_iff.mp due
          rw [idle, Bool.toNat_false] at count
          rw [idle, Bool.true_and, Bool.false_or]
          omega
  | settled now outcome =>
      rw [Traffic.next]
      split
      · exact count
      · rw [← Scheduler.settle_inFlight traffic.scheduler home now outcome] at count
        dsimp only
        omega
  | released =>
      rw [Traffic.next]
      split
      · exact count
      · -- The one that still counts is all there is.
        have most := Bool.toNat_le traffic.scheduler.inFlight
        simp only [Scheduler.release, Bool.toNat_false]
        omega

theorem keepsCount_of (home : Zone) (window : FetchWindow) (events : List TrafficEvent) :
    (of home window events).KeepsCount := by
  induction events using List.reverseRecOn with
  | nil => rfl
  | append_singleton events event ih =>
      rw [of_snoc]
      exact ih.next event

namespace KeepsCount

variable (count : traffic.KeepsCount)

include count

theorem onTheWay_le_one : traffic.onTheWay ≤ 1 := by
  rw [count]
  exact Bool.toNat_le _

/-- A question asks for a lookup only when none is on its way. -/
theorem asked_iff (now : Option Instant) (localColor : Option DayColor)
    (thrown : Option Failure) :
    (traffic.scheduler.resolve home window now localColor thrown).asked = true ↔
      localColor = none ∧ (traffic.scheduler.schedule.rollOver home now).cachedColor = none ∧
        traffic.onTheWay = 0 ∧ window.isOpen home now = true := by
  rw [Scheduler.resolve_asked, Scheduler.isLookupDue_iff, count.onTheWay_eq_zero_iff]

/-- A lookup that is asked for is on its way unless its start throws. -/
theorem onTheWay_of_asked {now : Option Instant} {localColor : Option DayColor}
    {thrown : Option Failure}
    (asked : (traffic.scheduler.resolve home window now localColor thrown).asked = true) :
    (traffic.next home window (.asked now localColor thrown)).onTheWay = thrown.isNone.toNat := by
  obtain ⟨-, -, idle, -⟩ := (count.asked_iff now localColor thrown).mp asked
  rw [onTheWay] at idle
  rw [Traffic.next, onTheWay, asked, Bool.true_and]
  dsimp only
  omega

/-- A start that throws leaves no lookup on its way. -/
theorem onTheWay_of_thrown {now : Option Instant} {localColor : Option DayColor}
    {thrown : Option Failure} {failure : Failure}
    (broken : (traffic.scheduler.resolve home window now localColor thrown).color =
      .error failure) :
    (traffic.next home window (.asked now localColor thrown)).onTheWay = 0 := by
  obtain ⟨asked, threw⟩ := Scheduler.asked_of_resolve_error broken
  rw [count.onTheWay_of_asked asked, threw]
  rfl

/-- Whatever a lookup brings, it is the only one that has come back then. -/
theorem returned_of_awaited (awaited : 0 < traffic.awaited) (now : Option Instant)
    (outcome : LookupOutcome) :
    (traffic.next home window (.settled now outcome)).awaited = 0 ∧
      (traffic.next home window (.settled now outcome)).returned = 1 := by
  have single := count.onTheWay_le_one
  rw [onTheWay] at single
  rw [Traffic.next, if_neg (Nat.ne_of_gt awaited)]
  dsimp only
  omega

/-- When a lookup that has come back stops counting, none is on its way. -/
theorem onTheWay_of_released (returned : 0 < traffic.returned) :
    (traffic.next home window .released).onTheWay = 0 := by
  have single := count.onTheWay_le_one
  rw [onTheWay] at single
  rw [Traffic.next, if_neg (Nat.ne_of_gt returned), onTheWay]
  dsimp only
  omega

/-- A lookup that comes back all at once finishes the one that is on its way, if one is. -/
theorem after_lookup (home : Zone) (window : FetchWindow) (idle : traffic.returned = 0)
    (now : Option Instant) (outcome : LookupOutcome) :
    let later := traffic.after home window [.settled now outcome, .released]
    later.scheduler =
        (if traffic.scheduler.inFlight then (traffic.scheduler.finish home now outcome).1
          else traffic.scheduler) ∧
      later.returned = 0 ∧ later.calls = traffic.calls ∧ later.answers = traffic.answers := by
  intro later
  have moments : later = (traffic.next home window (.settled now outcome)).next home window
    .released := rfl
  rw [KeepsCount, onTheWay, idle, Nat.add_zero] at count
  cases flying : traffic.scheduler.inFlight with
  | false =>
      rw [flying, Bool.toNat_false] at count
      have unmoved : later = traffic := by
        rw [moments, Traffic.next, if_pos count, Traffic.next, if_pos idle]
      rw [unmoved]
      exact ⟨rfl, idle, rfl, rfl⟩
  | true =>
      rw [flying, Bool.toNat_true] at count
      rw [Traffic.next, if_neg (by omega), Traffic.next, if_neg (by simp [idle])] at moments
      rw [moments, idle, Scheduler.finish_eq]
      exact ⟨rfl, rfl, rfl, rfl⟩

end KeepsCount

/-- Through any row of questions and lookups that come back, also with starts that throw, at
most one lookup is on its way. A question asks for one exactly where the meter knows no color,
none is remembered after the look at the day, no lookup is on its way and the local minute lies
in the window. Neither a lookup that has come back, whatever it brought, nor a start that throws
leaves one on its way, so the next question under these conditions asks again. And whatever
brings no fresh entry rolls the day over at most. -/
theorem one_lookup_at_a_time (home : Zone) (window : FetchWindow)
    (events : List TrafficEvent) :
    let traffic := of home window events
    traffic.onTheWay ≤ 1 ∧
    (∀ now localColor thrown,
      let answer := traffic.scheduler.resolve home window now localColor thrown
      let later := traffic.next home window (.asked now localColor thrown)
      (answer.asked = true ↔
        localColor = none ∧ (traffic.scheduler.schedule.rollOver home now).cachedColor = none ∧
          traffic.onTheWay = 0 ∧
          ∃ instant, now = some instant ∧ window.start ≤ home.minuteOfDay instant ∧
            home.minuteOfDay instant < window.start + window.duration) ∧
      (answer.asked = true → thrown = none → later.onTheWay = 1) ∧
      (∀ failure, answer.color = .error failure → later.onTheWay = 0)) ∧
    (∀ now outcome, 0 < traffic.awaited →
      (traffic.next home window (.settled now outcome)).returned = 1) ∧
    (0 < traffic.returned → (traffic.next home window .released).onTheWay = 0) ∧
    ∀ event, (traffic.next home window event).accepted = traffic.accepted →
      (traffic.next home window event).scheduler.schedule = traffic.scheduler.schedule ∨
        ∃ now ∈ event.clock?, (traffic.next home window event).scheduler.schedule =
          traffic.scheduler.schedule.rollOver home now := by
  intro traffic
  have count : traffic.KeepsCount := keepsCount_of home window events
  refine ⟨count.onTheWay_le_one, fun now localColor thrown => ⟨?_, ?_, ?_⟩, ?_,
    count.onTheWay_of_released, fun event unchanged => ?_⟩
  · rw [count.asked_iff, FetchWindow.isOpen_iff]
  · rintro asked rfl
    exact count.onTheWay_of_asked asked
  · intro failure broken
    exact count.onTheWay_of_thrown broken
  · intro now outcome awaited
    exact (count.returned_of_awaited awaited now outcome).2
  · rcases traffic.next_schedule home window event with
      ⟨-, kept⟩ | ⟨now, entry, color, -, -, accepted, -⟩
    · exact kept
    · rw [accepted] at unchanged
      exact absurd unchanged (by simp)

/-- The lookup of 10:45 comes back with an entry of the day before. As soon as it stops counting,
the question of 10:47 asks again. -/
theorem asked_again_after_an_old_entry :
    let home : Zone := ⟨0⟩
    let window : FetchWindow := ⟨10, 40, 30⟩
    let entry : CalendarEntry :=
      ⟨"2024-01-16T00:00:00.000Z", .red, "2024-01-14T10:30:00.000Z", []⟩
    let events : List TrafficEvent :=
      [.asked (some 1705315500000) none none, .settled (some 1705315560000) (.entry entry),
        .released]
    0 < (of home window (events.take 2)).returned ∧
      (of home window events).onTheWay = 0 ∧
      ((of home window events).scheduler.resolve home window (some 1705315620000) none
        none).asked = true := by
  intro home window entry events
  have returned : 0 < (of home window (events.take 2)).returned := by decide +kernel
  have idle : (of home window events).onTheWay = 0 :=
    (one_lookup_at_a_time home window (events.take 2)).2.2.2.1 returned
  have uncached : ((of home window events).scheduler.schedule.rollOver home
      (some 1705315620000)).cachedColor = none := by
    decide +kernel
  refine ⟨returned, idle, ?_⟩
  exact ((one_lookup_at_a_time home window events).2.1 _ _ _).1.mpr
    ⟨rfl, uncached, idle, _, rfl, by decide, by decide⟩

end Traffic

end MeterSignals
