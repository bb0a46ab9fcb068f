/-
# How long the window is open

The clocks show the start of the window once a day, and from the last time that they did, the
window is open for its length. But it is told from the minute of the day alone, which starts anew
at midnight. So a window that would reach beyond midnight is cut off there, and opens again only
with the start of the next day. It has its full length exactly if it closes at midnight or before,
or opens at midnight and so is never cut off.
-/

import Mathlib.Order.Bounds.Basic
import MeterSignals.Proofs.Config.Soundness
import MeterSignals.Proofs.Fallback.Scheduler
import MeterSignals.Proofs.Time.MonthDay

namespace MeterSignals

/-- The minutes of a day are counted from its beginning to its end. -/
theorem Zone.minuteOfDay_bounds (home : Zone) (now : ℤ) :
    0 ≤ home.minuteOfDay now ∧ home.minuteOfDay now < FetchWindow.endOfDay := by
  simp only [minuteOfDay, Instant.dayLength, Instant.minuteLength, FetchWindow.endOfDay]
  omega

namespace FetchWindow

/-- The clocks show the start of the window, to the millisecond. -/
def OpensAt (window : FetchWindow) (home : Zone) (t : ℤ) : Prop :=
  (t + home.offset) % Instant.dayLength = window.start * Instant.minuteLength

/-- The instant at which the clocks have shown the start of the window the last time. -/
def IsLastOpening (window : FetchWindow) (home : Zone) (now opening : ℤ) : Prop :=
  IsGreatest {t | window.OpensAt home t ∧ t ≤ now} opening

/-- The whole minutes from one instant to another. -/
def minutesSince (opening now : ℤ) : ℤ := (now - opening) / Instant.minuteLength

/-- The window opens at some minute of the day and has a length. -/
structure IsDaily (window : FetchWindow) : Prop where
  hour : 0 ≤ window.hour ∧ window.hour < 24
  minute : 0 ≤ window.minute ∧ window.minute < 60
  duration : 0 < window.duration

/-- The window is open whenever less than its length has passed since it opened the last time. -/
def KeepsLength (window : FetchWindow) (home : Zone) : Prop :=
  ∀ now opening, window.IsLastOpening home now opening →
    (window.isOpen home (some now) = true ↔
      minutesSince opening now < window.duration)

variable {window : FetchWindow} {home : Zone} {now opening : ℤ}

/-- The minutes of a day at which a window may open. -/
theorem IsDaily.start_bounds (daily : window.IsDaily) :
    0 ≤ window.start ∧ window.start < endOfDay := by
  obtain ⟨hour, minute, -⟩ := daily
  simp only [start, endOfDay]
  omega

/-- The last opening is less than a day ago. -/
theorem isLastOpening_iff (daily : window.IsDaily) :
    window.IsLastOpening home now opening ↔
      now - opening = (now + home.offset - window.start * Instant.minuteLength) %
        Instant.dayLength := by
  obtain ⟨low, high⟩ := daily.start_bounds
  rw [IsLastOpening, IsGreatest, mem_upperBounds]
  simp only [Set.mem_ofPred_eq, OpensAt, Instant.dayLength, Instant.minuteLength, endOfDay] at *
  constructor
  · rintro ⟨⟨shown, before⟩, last⟩
    -- A day later the clocks show the start again, so that was not before now.
    have next := last (opening + 86400000)
    omega
  · intro passed
    refine ⟨⟨by omega, by omega⟩, ?_⟩
    rintro other ⟨shown, before⟩
    omega

theorem exists_isLastOpening (daily : window.IsDaily) (home : Zone) (now : ℤ) :
    ∃ opening, window.IsLastOpening home now opening := by
  refine ⟨now - (now + home.offset - window.start * Instant.minuteLength) % Instant.dayLength, ?_⟩
  rw [isLastOpening_iff daily]
  omega

/-- The minutes since the last opening, which was yesterday if the start is still to come today. -/
theorem elapsed_eq (daily : window.IsDaily) (last : window.IsLastOpening home now opening) :
    minutesSince opening now =
      if window.start ≤ home.minuteOfDay now then home.minuteOfDay now - window.start
      else home.minuteOfDay now - window.start + endOfDay := by
  obtain ⟨low, high⟩ := daily.start_bounds
  rw [minutesSince, (isLastOpening_iff daily).mp last]
  simp only [Zone.minuteOfDay, Instant.dayLength, Instant.minuteLength, endOfDay] at *
  omega

/-- The last opening was today exactly if the start is not still to come. -/
theorem isSameDay_opening_iff (daily : window.IsDaily)
    (last : window.IsLastOpening home now opening) :
    home.isSameDay (some opening) (some now) = true ↔ window.start ≤ home.minuteOfDay now := by
  obtain ⟨low, high⟩ := daily.start_bounds
  have passed := (isLastOpening_iff daily).mp last
  rw [Zone.isSameDay_iff]
  simp only [Zone.dayNumber, Zone.minuteOfDay, Instant.dayLength, Instant.minuteLength,
    endOfDay] at *
  omega

theorem isOpen_some_iff :
    window.isOpen home (some now) = true ↔
      window.start ≤ home.minuteOfDay now ∧
        home.minuteOfDay now < window.start + window.duration := by
  simp [isOpen_iff]

/-- The window is open for its length since it opened the last time, but not beyond midnight. -/
theorem isOpen_iff_of_isLastOpening (daily : window.IsDaily)
    (last : window.IsLastOpening home now opening) :
    window.isOpen home (some now) = true ↔
      minutesSince opening now <
        min window.duration (endOfDay - window.start) := by
  obtain ⟨low, high⟩ := home.minuteOfDay_bounds now
  rw [isOpen_some_iff, elapsed_eq daily last]
  split <;> omega

/-- At midnight a window that opened on the day before is closed, whatever its length is. -/
theorem isOpen_midnight (later : 0 < window.start) {midnight : ℤ}
    (zero : home.minuteOfDay midnight = 0) : window.isOpen home (some midnight) = false := by
  rw [Bool.eq_false_iff, ne_eq, isOpen_some_iff, zero]
  omega

theorem keepsLength_iff (daily : window.IsDaily) (home : Zone) :
    window.KeepsLength home ↔
      window.start = 0 ∨ window.start + window.duration ≤ endOfDay := by
  obtain ⟨low, high⟩ := daily.start_bounds
  constructor
  · intro keeps
    by_contra! cut
    have zero : home.minuteOfDay (-home.offset) = 0 := by
      rw [Zone.minuteOfDay, Int.add_left_neg]
      rfl
    obtain ⟨opening, last⟩ := exists_isLastOpening daily home (-home.offset)
    have closed : window.isOpen home (some (-home.offset)) = false :=
      isOpen_midnight (by omega) zero
    have passed := elapsed_eq daily last
    rw [zero, if_neg (by omega)] at passed
    exact absurd ((keeps _ _ last).mpr (by omega)) (Bool.eq_false_iff.mp closed)
  · intro full now opening last
    have bounds := home.minuteOfDay_bounds now
    rw [isOpen_iff_of_isLastOpening daily last, elapsed_eq daily last]
    split <;> omega

/-- A configuration that is accepted has such a window. -/
theorem isDaily_fetchWindow {env : Environment} {config : Config}
    (loaded : Config.load env = .ok config) : config.fetchWindow.IsDaily := by
  unfold Config.load at loaded
  generalize reading : Config.ofEnvironment env = validated at loaded
  cases validated with
  | invalid complaints => cases loaded
  | ok accepted =>
      obtain rfl := Except.ok.inj loaded
      have inRange := (Config.ofEnvironment_isReadFrom env accepted reading).isInRange
      exact ⟨inRange.hour, inRange.minute, inRange.duration.1⟩

/-- A window that a configuration asks for opens at some minute of the day and has a length. The
clocks have always shown the start of such a window before. Since the last time that they did, the
window is open for its length or until midnight, whichever comes first. So it is open exactly while
less than its length has passed, if it opened today or its length is over. That is always the case
exactly if the window opens at midnight, or ends at midnight or before. -/
theorem open_until_midnight (home : Zone) :
    (∀ env config, Config.load env = .ok config → config.fetchWindow.IsDaily) ∧
    ∀ window : FetchWindow, window.IsDaily →
      (∀ now, ∃ opening, window.IsLastOpening home now opening) ∧
      (∀ now opening, window.IsLastOpening home now opening →
        (window.isOpen home (some now) = true ↔
          minutesSince opening now < min window.duration (endOfDay - window.start)) ∧
        ((window.isOpen home (some now) = true ↔ minutesSince opening now < window.duration) ↔
          home.isSameDay (some opening) (some now) = true ∨
            window.duration ≤ minutesSince opening now)) ∧
      (window.KeepsLength home ↔
        window.start = 0 ∨ window.start + window.duration ≤ endOfDay) := by
  refine ⟨fun env config loaded => isDaily_fetchWindow loaded, fun window daily =>
    ⟨exists_isLastOpening daily home, fun now opening last => ⟨?_, ?_⟩, keepsLength_iff daily home⟩⟩
  · exact isOpen_iff_of_isLastOpening daily last
  · have bounds := home.minuteOfDay_bounds now
    rw [isOpen_some_iff, isSameDay_opening_iff daily last, elapsed_eq daily last]
    split <;> omega

/-- A window of the last hour of the day has its full length. -/
theorem keepsLength_until_midnight :
    let window : FetchWindow := ⟨23, 0, 60⟩
    window.IsDaily ∧ ∀ home, window.KeepsLength home := by
  intro window
  have daily : window.IsDaily := ⟨by decide, by decide, by decide⟩
  exact ⟨daily, fun home => ((open_until_midnight home).2 window daily).2.2.mpr (.inr (by decide))⟩

/-- A window of ten minutes opened five minutes before midnight, and is closed seven minutes
later. -/
theorem not_keepsLength_beyond_midnight :
    let window : FetchWindow := ⟨23, 55, 10⟩
    let home : Zone := ⟨0⟩
    let opening := 1705362900000
    let now := 1705363320000
    window.IsDaily ∧ window.IsLastOpening home now opening ∧
      minutesSince opening now < window.duration ∧ window.isOpen home (some now) = false ∧
      ¬ window.KeepsLength home := by
  intro window home opening now
  have daily : window.IsDaily := ⟨by decide, by decide, by decide⟩
  have last : window.IsLastOpening home now opening :=
    (isLastOpening_iff daily).mpr (by decide)
  refine ⟨daily, last, by decide, by decide, fun keeps => ?_⟩
  exact absurd ((keeps now opening last).mpr (by decide)) (by decide)

end FetchWindow

end MeterSignals
