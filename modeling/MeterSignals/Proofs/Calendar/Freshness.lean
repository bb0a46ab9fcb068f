/-
# When an entry is fresh

The check of an entry goes through three refusals in a row. Taken together they say that the
entry has to be of today and about a day to come, at an instant that the clock really shows.
-/

import MeterSignals.Calendar.Freshness

namespace MeterSignals.CalendarEntry

/-- The entry was changed on the local day of an instant, and its own day starts after it. -/
def IsFreshAt (home : Zone) (entry : CalendarEntry) (instant : Instant) : Prop :=
  (∃ updated, Stamp.instant? home entry.updated = some updated ∧
      home.isSameDay (some updated) (some instant) = true) ∧
    ∃ start, Stamp.instant? home entry.start = some start ∧ instant < start

variable {home : Zone} {entry : CalendarEntry} {now : Option Instant} {color : DayColor}

/-- An entry gives its color exactly where it is fresh. Where the clock shows no instant, no
entry is. -/
theorem freshColor_eq_ok_iff :
    entry.freshColor home now = .ok color ↔
      entry.color = color ∧ ∃ instant, now = some instant ∧ entry.IsFreshAt home instant := by
  constructor
  · intro fresh
    unfold freshColor at fresh
    split at fresh
    · next updated start changed begins =>
        split at fresh
        · cases fresh
        · next today =>
            split at fresh
            · cases fresh
            · next ahead =>
                cases now with
                | none => simp [Zone.isSameDay] at today
                | some instant =>
                    refine ⟨Except.ok.inj fresh, instant, rfl, ⟨updated, changed, ?_⟩,
                      start, begins, ?_⟩
                    · simpa using today
                    · simpa using ahead
    · cases fresh
  · rintro ⟨rfl, instant, rfl, ⟨updated, changed, today⟩, start, begins, ahead⟩
    have later : ¬ start ≤ instant := Int.not_le.mpr ahead
    simp [freshColor, changed, begins, today, later]

end MeterSignals.CalendarEntry
