/-
# What the fallback answers

One question to the fallback first rolls its day over. Then the color that the meter knows
wins over the one that is remembered, and only where neither is known a lookup may start.
The color is in the answer unless the start of a lookup throws.
-/

import MeterSignals.Fallback.Scheduler

namespace MeterSignals

/-- The window is open at an instant whose minute of the day lies in it. -/
theorem FetchWindow.isOpen_iff {window : FetchWindow} {home : Zone} {now : Option Instant} :
    window.isOpen home now = true ↔
      ∃ instant, now = some instant ∧ window.start ≤ home.minuteOfDay instant ∧
        home.minuteOfDay instant < window.start + window.duration := by
  cases now with
  | none => simp [isOpen]
  | some instant => simp [isOpen]

namespace Schedule

variable {home : Zone} {schedule : Schedule} {now : Option Instant}

/-- What is still remembered after a look at the day was remembered before, and the day of the
month is the one that was seen last. -/
theorem cachedColor_of_rollOver {color : DayColor}
    (remembered : (schedule.rollOver home now).cachedColor = some color) :
    schedule.cachedColor = some color ∧ schedule.lastSeenDay.isOn home now = true ∧
      schedule.rollOver home now = schedule := by
  by_cases seen : schedule.lastSeenDay.isOn home now = true
  · have kept : schedule.rollOver home now = schedule := if_pos seen
    exact ⟨kept ▸ remembered, seen, kept⟩
  · rw [rollOver, if_neg seen] at remembered
    cases remembered

/-- A look at the day does not touch the day of the last success. -/
theorem lastSuccessDay_rollOver :
    (schedule.rollOver home now).lastSuccessDay = schedule.lastSuccessDay := by
  rw [rollOver]
  split <;> rfl

end Schedule

namespace Scheduler

variable (scheduler : Scheduler) (home : Zone) (window : FetchWindow) (now : Option Instant)

/-- The scheduler when the day of the month at `now` has been looked at. -/
def rolled : Scheduler := { scheduler with schedule := scheduler.schedule.rollOver home now }

variable {scheduler home window now}

/-- Where the meter knows no color, the one that is still remembered is the answer. -/
theorem resolve_of_cached {color : DayColor}
    (cached : (scheduler.rolled home now).schedule.cachedColor = some color)
    (thrown : Option Failure) :
    scheduler.resolve home window now none thrown =
      ⟨scheduler.rolled home now, .ok (some color), false, []⟩ := by
  change (scheduler.schedule.rollOver home now).cachedColor = some color at cached
  unfold resolve
  simp only [cached]
  rfl

/-- Where no color is known, a lookup starts if one has to. -/
theorem resolve_of_uncached (uncached : (scheduler.rolled home now).schedule.cachedColor = none)
    (thrown : Option Failure) :
    scheduler.resolve home window now none thrown =
      if (scheduler.rolled home now).needsLookup home window now then
        match thrown with
        | some failure => ⟨scheduler.rolled home now, .error failure, true, [.lookupStarted]⟩
        | none =>
          ⟨{ scheduler.rolled home now with inFlight := true }, .ok none, true,
            [.lookupStarted]⟩
      else ⟨scheduler.rolled home now, .ok none, false, []⟩ := by
  change (scheduler.schedule.rollOver home now).cachedColor = none at uncached
  unfold resolve
  simp only [uncached]
  rfl

variable (scheduler home window now) in
/-- Whether a lookup is to be started: no color is known, none is on its way, and the window is
open. -/
def isLookupDue (localColor : Option DayColor) : Bool :=
  localColor.isNone && (scheduler.rolled home now).schedule.cachedColor.isNone &&
    !scheduler.inFlight && window.isOpen home now

/-- The conditions for a lookup, one by one. -/
theorem isLookupDue_iff {localColor : Option DayColor} :
    scheduler.isLookupDue home window now localColor = true ↔
      localColor = none ∧ (scheduler.schedule.rollOver home now).cachedColor = none ∧
        scheduler.inFlight = false ∧ window.isOpen home now = true := by
  simp only [isLookupDue, rolled, Bool.and_eq_true, Option.isNone_iff_eq_none,
    Bool.not_eq_true', and_assoc]

/-- All that a question can lead to: a lookup if one is due, which may throw at once, and else
the color of the meter or the one that is remembered. -/
theorem resolve_eq (localColor : Option DayColor) (thrown : Option Failure) :
    scheduler.resolve home window now localColor thrown =
      if scheduler.isLookupDue home window now localColor then
        match thrown with
        | some failure => ⟨scheduler.rolled home now, .error failure, true, [.lookupStarted]⟩
        | none =>
          ⟨{ scheduler.rolled home now with inFlight := true }, .ok none, true,
            [.lookupStarted]⟩
      else
        ⟨scheduler.rolled home now,
          .ok (localColor.or (scheduler.rolled home now).schedule.cachedColor), false, []⟩ := by
  cases localColor with
  | some color => rfl
  | none =>
      cases remembered : (scheduler.rolled home now).schedule.cachedColor with
      | some color =>
          rw [resolve_of_cached remembered, isLookupDue, remembered]
          rfl
      | none =>
          have due : scheduler.isLookupDue home window now none =
              (scheduler.rolled home now).needsLookup home window now := by
            rw [isLookupDue, needsLookup, Schedule.isFetchDue, remembered]
            rfl
          rw [resolve_of_uncached remembered, due]
          rfl

/-- Every question leaves the schedule of the day at `now`. -/
theorem resolve_schedule (localColor : Option DayColor) (thrown : Option Failure) :
    (scheduler.resolve home window now localColor thrown).scheduler.schedule =
      scheduler.schedule.rollOver home now := by
  rw [resolve_eq]
  split
  · cases thrown <;> rfl
  · rfl

/-- Unless the start of a lookup throws, the answer is the color of the meter, filled in where
the meter knows none. -/
theorem resolve_fills_in (localColor : Option DayColor) :
    ∃ color, (scheduler.resolve home window now localColor none).color =
      .ok (localColor.or color) := by
  rw [resolve_eq]
  split
  · next due =>
      obtain ⟨rfl, -⟩ := isLookupDue_iff.mp due
      exact ⟨none, rfl⟩
  · exact ⟨_, rfl⟩

/-- Any answer is the color of the meter, filled in where the meter knows none. -/
theorem eq_or_of_resolve {localColor answer : Option DayColor} {thrown : Option Failure}
    (answered : (scheduler.resolve home window now localColor thrown).color = .ok answer) :
    ∃ color, answer = localColor.or color := by
  rw [resolve_eq] at answered
  split at answered
  · next due =>
      obtain ⟨rfl, -⟩ := isLookupDue_iff.mp due
      exact ⟨answer, rfl⟩
  · exact ⟨_, (Except.ok.inj answered).symm⟩

/-- A color that the meter does not know and that is answered is the remembered one. -/
theorem cachedColor_of_resolve {thrown : Option Failure} {color : DayColor}
    (answer : (scheduler.resolve home window now none thrown).color = .ok (some color)) :
    (scheduler.rolled home now).schedule.cachedColor = some color := by
  rw [resolve_eq] at answer
  split at answer
  · cases thrown <;> cases answer
  · exact Except.ok.inj answer

theorem resolve_asked (localColor : Option DayColor) (thrown : Option Failure) :
    (scheduler.resolve home window now localColor thrown).asked =
      scheduler.isLookupDue home window now localColor := by
  rw [resolve_eq]
  split
  · next due => cases thrown <;> exact due.symm
  · next idle => exact (Bool.eq_false_iff.mpr idle).symm

/-- A question puts a lookup on its way if one is due and its start does not throw. -/
theorem resolve_inFlight (localColor : Option DayColor) (thrown : Option Failure) :
    (scheduler.resolve home window now localColor thrown).scheduler.inFlight =
      (scheduler.inFlight ||
        (scheduler.isLookupDue home window now localColor && thrown.isNone)) := by
  rw [resolve_eq]
  split
  · next due =>
      rw [due]
      cases thrown
      · exact (Bool.or_true _).symm
      · exact (Bool.or_false _).symm
  · next idle =>
      rw [Bool.eq_false_iff.mpr idle]
      exact (Bool.or_false _).symm

/-- Only the start of a lookup breaks a question off. -/
theorem asked_of_resolve_error {localColor : Option DayColor} {thrown : Option Failure}
    {failure : Failure}
    (broken : (scheduler.resolve home window now localColor thrown).color = .error failure) :
    (scheduler.resolve home window now localColor thrown).asked = true ∧
      thrown = some failure := by
  rw [resolve_eq] at broken ⊢
  split at broken
  · next due =>
      rw [if_pos due]
      cases thrown with
      | none => cases broken
      | some found =>
          cases broken
          exact ⟨rfl, rfl⟩
  · cases broken

end Scheduler

end MeterSignals
