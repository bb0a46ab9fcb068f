/-
# Colors of days that have begun

An entry is taken in only if its day is still to come at that moment. From then on the fallback
knows the color of the entry and the day on which it came, but not when the day of the entry
begins. So it gives the color until its own midnight. An entry whose day begins at that midnight
or after it is never given too late. One whose day begins earlier, which is midnight by the clocks
of another zone, is given for a day that has begun.
-/

import MeterSignals.Proofs.Fallback.Acceptance

namespace MeterSignals

/-- What comes after one moment of a day, and not on that day, comes after all of it. -/
theorem Zone.lt_of_isSameDay {home : Zone} {moment other later : Instant}
    (sameDay : home.isSameDay (some moment) (some other) = true) (after : moment < later)
    (outside : home.isSameDay (some moment) (some later) = false) : other < later := by
  rw [isSameDay_iff] at sameDay
  rw [Bool.eq_false_iff, ne_eq, isSameDay_iff] at outside
  by_contra before
  have low := home.dayNumber_mono (Int.le_of_lt after)
  have high := home.dayNumber_mono (Int.not_lt.mp before)
  omega

namespace Traffic

variable {home : Zone} {window : FetchWindow} {traffic : Traffic}

/-- While a color is remembered, the schedule is what its entry left behind. -/
theorem RemembersLast.schedule_of_cached (remembers : traffic.RemembersLast home)
    {color : DayColor} (cached : traffic.scheduler.schedule.cachedColor = some color) :
    ∃ entry came, traffic.accepted.getLast? = some (entry, some came) ∧ entry.color = color ∧
      entry.IsFreshAt home came ∧
      traffic.scheduler.schedule = .ofSuccess home color (some came) := by
  obtain ⟨entry, reading, last, same, seen⟩ := remembers.cached color cached
  obtain ⟨came, rfl, fresh⟩ := remembers.fresh entry reading (List.mem_of_getLast? last)
  have success := remembers.success
  rw [last] at success
  refine ⟨entry, came, last, same, fresh, ?_⟩
  cases schedule : traffic.scheduler.schedule with
  | mk successDay seenDay remembered =>
      rw [schedule] at cached seen success
      rw [show successDay = _ from success, show seenDay = _ from seen,
        show remembered = _ from cached]
      rfl

/-- What an entry left behind answers every question of the day on which it came. -/
theorem resolve_of_ofSuccess {color : DayColor} {came now : Instant}
    (known : traffic.scheduler.schedule = .ofSuccess home color (some came))
    (sameDay : home.isSameDay (some came) (some now) = true) (thrown : Option Failure) :
    (traffic.scheduler.resolve home window (some now) none thrown).color = .ok (some color) := by
  have cached : (traffic.scheduler.rolled home (some now)).schedule.cachedColor = some color := by
    rw [Scheduler.rolled, known, Schedule.rollOver_ofSuccess sameDay]
    rfl
  rw [Scheduler.resolve_of_cached cached]

/-- After any row of questions and lookups that come back, a color that the meter does not know and
the fallback gives is that of the last entry that was fresh when it came. The day of that entry
began after it came. For a question of the local day on which it came, the day of the entry is
still to come unless it begins on that very day. And no question of that local day is answered for
a day that has begun, exactly if the day of the entry does not begin on it. -/
theorem start_after_answer (home : Zone) (window : FetchWindow) {events : List TrafficEvent}
    {now : Instant} {thrown : Option Failure} {color : DayColor}
    (answer : ((of home window events).scheduler.resolve home window (some now) none
      thrown).color = .ok (some color)) :
    ∃ entry came start, (of home window events).accepted.getLast? = some (entry, some came) ∧
      entry.color = color ∧ Stamp.instant? home entry.start = some start ∧ came < start ∧
      (home.isSameDay (some came) (some now) = true →
        (now < start ∨ home.isSameDay (some came) (some start) = true) ∧
        ((∀ later thrown, home.isSameDay (some came) (some later) = true →
            ((of home window events).scheduler.resolve home window (some later) none
              thrown).color = .ok (some color) → later < start) ↔
          home.isSameDay (some came) (some start) = false)) := by
  have cached := (Schedule.cachedColor_of_rollOver (Scheduler.cachedColor_of_resolve answer)).1
  obtain ⟨entry, came, last, same, ⟨-, start, begins, ahead⟩, known⟩ :=
    (remembersLast_of home window events).schedule_of_cached cached
  refine ⟨entry, came, start, last, same, begins, ahead, fun sameDay => ⟨?_, ?_, ?_⟩⟩
  · by_cases inside : home.isSameDay (some came) (some start) = true
    · exact .inr inside
    · exact .inl (Zone.lt_of_isSameDay sameDay ahead (Bool.eq_false_iff.mpr inside))
  · intro intime
    by_contra inside
    rw [Bool.not_eq_false] at inside
    exact Int.lt_irrefl start
      (intime start none inside (resolve_of_ofSuccess known inside none))
  · intro outside later _ sameDay _
    exact Zone.lt_of_isSameDay sameDay ahead outside

/-- By clocks that are one hour ahead of UTC, the day of the entry begins at midnight, and half an
hour before that it is still to come. -/
theorem lt_start_before_midnight :
    let home : Zone := ⟨3600000⟩
    let window : FetchWindow := ⟨10, 40, 30⟩
    let entry : CalendarEntry :=
      ⟨"2024-01-16T00:00:00+01:00", .red, "2024-01-15T10:20:00+01:00", []⟩
    let events : List TrafficEvent :=
      [.asked (some 1705311900000) none none, .settled (some 1705311960000) (.entry entry),
        .released]
    let now : Instant := 1705357800000
    ((of home window events).scheduler.resolve home window (some now) none none).color =
        .ok (some .red) ∧
      ∃ start, Stamp.instant? home entry.start = some start ∧ now < start := by
  intro home window entry events now
  have answer : ((of home window events).scheduler.resolve home window (some now) none
      none).color = .ok (some .red) := rfl
  obtain ⟨found, came, start, last, -, begins, -, intime⟩ := start_after_answer home window answer
  obtain ⟨rfl, rfl⟩ : entry = found ∧ 1705311960000 = came := by
    have returned : (of home window events).accepted.getLast? =
      some (entry, some 1705311960000) := rfl
    simpa using returned.symm.trans last
  have midnight : Stamp.instant? home entry.start = some 1705359600000 := by decide +kernel
  obtain rfl := Option.some.inj (midnight.symm.trans begins)
  exact ⟨answer, _, midnight, (intime (by decide)).1.resolve_right (by decide)⟩

/-- By clocks that show UTC, the day of the same entry begins an hour before midnight. Half an hour
later its color is still given for the next day. -/
theorem not_lt_start_before_midnight :
    let home : Zone := ⟨0⟩
    let window : FetchWindow := ⟨10, 40, 30⟩
    let entry : CalendarEntry :=
      ⟨"2024-01-16T00:00:00+01:00", .red, "2024-01-15T10:20:00+01:00", []⟩
    let times : List Instant := [1705315500000, 1705315560000, 1705361400000]
    let events : List TrafficEvent :=
      [.asked (some times[0]) none none, .settled (some times[1]) (.entry entry), .released]
    times.Pairwise (· ≤ ·) ∧
      ((of home window events).scheduler.resolve home window (some times[2]) none none).color =
        .ok (some .red) ∧
      (of home window events).accepted.getLast? = some (entry, some times[1]) ∧
      home.isSameDay (some times[1]) (some times[2]) = true ∧
      Stamp.instant? home entry.start = some 1705359600000 ∧ 1705359600000 < times[2] :=
  ⟨by decide, rfl, rfl, by decide, by decide +kernel, by decide⟩

end Traffic

end MeterSignals
