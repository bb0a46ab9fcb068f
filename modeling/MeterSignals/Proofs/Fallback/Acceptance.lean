/-
# What a fresh entry leaves behind

The fallback keeps three things of the entries that were fresh when they came back: a color and
two days of the month. This module says what they mean. The color is that of the last such entry,
and both days are the day on which it came back, whatever the clock has shown since. As long as
the clock stays on that day, the color is the answer and no further lookup is asked for.
-/

import MeterSignals.Proofs.Fallback.Traffic
import MeterSignals.Proofs.Time.MonthDay

namespace MeterSignals

namespace DayMark

theorem toNumber_never_eq_zero : (never.toNumber == 0) = true := by
  decide +kernel

/-- The days of a month are no zeros. -/
theorem toNumber_day_ne_zero {n : Int} (least : 1 ≤ n) (most : n ≤ 31) :
    ((day n).toNumber == 0) = false := by
  have small : ∀ k : Fin 31, ((day (k + 1 : Int)).toNumber == 0) = false := by decide +kernel
  have found := small ⟨(n - 1).toNat, by omega⟩
  rwa [show (((⟨(n - 1).toNat, by omega⟩ : Fin 31) : Int) + 1) = n by simp; omega] at found

end DayMark

namespace Schedule

variable {home : Zone} {now : Option Instant}

/-- On the day on which an entry came back, a look at the day changes nothing. -/
theorem rollOver_ofSuccess {color : DayColor} {came : Instant}
    (sameDay : home.isSameDay (some came) now = true) :
    (ofSuccess home color (some came)).rollOver home now = ofSuccess home color (some came) := by
  cases now with
  | none => cases sameDay
  | some instant =>
      have same : home.date came = home.date instant := beq_iff_eq.mp sameDay
      refine if_pos ?_
      rw [ofSuccess, DayMark.ofReading, DayMark.isOn, same, beq_self_eq_true]

end Schedule

namespace Traffic

variable {home : Zone} {window : FetchWindow} {traffic : Traffic}

/-- What the schedule says of the fresh entries so far. A color that is remembered is that of the
last one, and the day that was seen last is the one on which it came back. -/
structure RemembersLast (home : Zone) (traffic : Traffic) : Prop where
  fresh : ∀ entry came, (entry, came) ∈ traffic.accepted →
    ∃ instant, came = some instant ∧ entry.IsFreshAt home instant
  success : traffic.scheduler.schedule.lastSuccessDay =
    (traffic.accepted.getLast?.map fun last => DayMark.ofReading home last.2).getD .never
  cached : ∀ color, traffic.scheduler.schedule.cachedColor = some color →
    ∃ entry came, traffic.accepted.getLast? = some (entry, came) ∧ entry.color = color ∧
      traffic.scheduler.schedule.lastSeenDay = DayMark.ofReading home came

theorem RemembersLast.next (remembers : traffic.RemembersLast home) (event : TrafficEvent) :
    (traffic.next home window event).RemembersLast home := by
  obtain ⟨fresh, success, cached⟩ := remembers
  rcases traffic.next_schedule home window event with
    ⟨accepted, same | ⟨now, -, rolled⟩⟩ | ⟨now, entry, color, rfl, isFresh, accepted, taken⟩
  · refine ⟨?_, ?_, ?_⟩ <;> rw [accepted]
    · exact fresh
    · rw [same, success]
    · rw [same]
      exact cached
  · refine ⟨?_, ?_, ?_⟩ <;> rw [accepted]
    · exact fresh
    · rw [rolled, Schedule.lastSuccessDay_rollOver, success]
    · intro color remembered
      rw [rolled] at remembered ⊢
      obtain ⟨before, -, kept⟩ := Schedule.cachedColor_of_rollOver remembered
      rw [kept]
      exact cached color before
  · obtain ⟨same, instant, clock, freshAt⟩ := CalendarEntry.freshColor_eq_ok_iff.mp isFresh
    refine ⟨?_, ?_, ?_⟩ <;> rw [accepted]
    · intro other came member
      rcases List.mem_append.mp member with earlier | last
      · exact fresh other came earlier
      · obtain ⟨rfl, rfl⟩ := Prod.mk.inj (List.mem_singleton.mp last)
        exact ⟨instant, clock, freshAt⟩
    · rw [taken, List.getLast?_concat]
      rfl
    · intro found remembered
      rw [taken] at remembered ⊢
      exact ⟨entry, now, List.getLast?_concat, same.trans (Option.some.inj remembered), rfl⟩

theorem remembersLast_of (home : Zone) (window : FetchWindow) (events : List TrafficEvent) :
    (of home window events).RemembersLast home := by
  induction events using List.reverseRecOn with
  | nil => exact ⟨nofun, rfl, nofun⟩
  | append_singleton events event ih =>
      rw [of_snoc]
      exact ih.next event

/-- The day of the last success is a day of the month as soon as there was one. -/
theorem RemembersLast.toNumber_eq_zero_iff (remembers : traffic.RemembersLast home) :
    (traffic.scheduler.schedule.lastSuccessDay.toNumber == 0) = true ↔
      traffic.accepted = [] := by
  rw [remembers.success]
  cases last : traffic.accepted.getLast? with
  | none => exact iff_of_true DayMark.toNumber_never_eq_zero (List.getLast?_eq_none_iff.mp last)
  | some found =>
      obtain ⟨entry, came⟩ := found
      obtain ⟨instant, rfl, -⟩ := remembers.fresh entry came (List.mem_of_getLast? last)
      obtain ⟨least, most⟩ := CivilDate.day_bounds (home.dayNumber instant)
      have positive := DayMark.toNumber_day_ne_zero least most
      refine iff_of_false ?_ fun empty => by simp [empty] at last
      change ¬ ((DayMark.day (home.date instant).day).toNumber == 0) = true
      rw [Zone.date, positive]
      exact Bool.false_ne_true

/-- After any row of questions and lookups that come back, with any clock readings: a color that
is remembered is that of the last entry that was fresh when it came back. It was of that day, its
own day was still to come, and both remembered days are the day of the month of that moment. The
day of the last success is zero exactly as long as no entry was fresh. -/
theorem cachedColor_is_of_last_entry (home : Zone) (window : FetchWindow)
    (events : List TrafficEvent) :
    let traffic := of home window events
    let schedule := traffic.scheduler.schedule
    (∀ color, schedule.cachedColor = some color →
      ∃ entry came, traffic.accepted.getLast? = some (entry, some came) ∧
        entry.color = color ∧ entry.IsFreshAt home came ∧
        schedule.lastSuccessDay = .day (home.date came).day ∧
        schedule.lastSeenDay = .day (home.date came).day) ∧
    ((schedule.lastSuccessDay.toNumber == 0) = true ↔ traffic.accepted = []) := by
  intro traffic schedule
  have remembers : traffic.RemembersLast home := remembersLast_of home window events
  refine ⟨fun color remembered => ?_, remembers.toNumber_eq_zero_iff⟩
  obtain ⟨entry, came, last, same, seen⟩ := remembers.cached color remembered
  obtain ⟨instant, rfl, fresh⟩ := remembers.fresh entry came (List.mem_of_getLast? last)
  have success := remembers.success
  rw [last] at success
  exact ⟨entry, instant, last, same, fresh, success, seen⟩

/-- A lookup that was started before midnight comes back after it: the remembered days are those
of its return. The clock then shows no instant for a moment, and the color is forgotten, but not
that there was one. -/
theorem cachedColor_after_midnight :
    let home : Zone := ⟨0⟩
    let window : FetchWindow := ⟨23, 50, 10⟩
    let entry : CalendarEntry :=
      ⟨"2024-01-17T00:00:00.000Z", .red, "2024-01-16T00:01:00.000Z", []⟩
    let events : List TrafficEvent :=
      [.asked (some 1705362900000) none none, .settled (some 1705363500000) (.entry entry),
        .released, .asked none none none]
    let known := (of home window (events.take 3)).scheduler.schedule
    known.cachedColor = some .red ∧ known.lastSuccessDay = .day 16 ∧
      known.lastSeenDay = .day 16 ∧
      (of home window events).scheduler.schedule.cachedColor = none ∧
      ¬ ((of home window events).scheduler.schedule.lastSuccessDay.toNumber == 0) = true := by
  intro home window entry events known
  have cached : known.cachedColor = some .red := by decide +kernel
  obtain ⟨last, came, found, -, -, success, seen⟩ :=
    (cachedColor_is_of_last_entry home window (events.take 3)).1 .red cached
  have returned : (of home window (events.take 3)).accepted.getLast? =
      some (entry, some 1705363500000) := rfl
  obtain ⟨-, clock⟩ := Prod.mk.inj (Option.some.inj (found.symm.trans returned))
  cases Option.some.inj clock
  refine ⟨cached, success, seen, by decide +kernel, ?_⟩
  rw [(cachedColor_is_of_last_entry home window events).2]
  exact List.cons_ne_nil _ _

/-- A lookup that comes back with a fresh entry leaves its color, and none to come back. -/
theorem KeepsCount.next_of_fresh (count : traffic.KeepsCount) (window : FetchWindow)
    (awaited : 0 < traffic.awaited) {entry : CalendarEntry} {came : Instant} {color : DayColor}
    (fresh : entry.freshColor home (some came) = .ok color) :
    let accepted := traffic.next home window (.settled (some came) (.entry entry))
    accepted.awaited = 0 ∧ accepted.scheduler.schedule = .ofSuccess home color (some came) := by
  refine ⟨(count.returned_of_awaited awaited _ _).1, ?_⟩
  rw [Traffic.next, if_neg (Nat.ne_of_gt awaited)]
  simp only [Scheduler.settle, fresh]

/-- Where the color of an entry is remembered and no lookup has still to come back, a moment on
the day on which the entry came back changes nothing of that and asks for no lookup. -/
theorem next_of_sameDay (window : FetchWindow) {color : DayColor} {came : Instant}
    (none : traffic.awaited = 0)
    (known : traffic.scheduler.schedule = .ofSuccess home color (some came))
    {event : TrafficEvent}
    (sameDay : ∀ now ∈ event.clock?, home.isSameDay (some came) now = true) :
    let later := traffic.next home window event
    later.calls = traffic.calls ∧ later.awaited = 0 ∧
      later.scheduler.schedule = .ofSuccess home color (some came) := by
  cases event with
  | asked now localColor thrown =>
      have rolled : traffic.scheduler.schedule.rollOver home now =
          .ofSuccess home color (some came) := by
        rw [known]
        exact Schedule.rollOver_ofSuccess (sameDay now rfl)
      have idle : traffic.scheduler.isLookupDue home window now localColor = false := by
        rw [Bool.eq_false_iff, ne_eq, Scheduler.isLookupDue_iff, rolled]
        rintro ⟨-, unknown, -⟩
        cases unknown
      simp only [Traffic.next, Scheduler.resolve_asked, Scheduler.resolve_schedule, idle]
      exact ⟨rfl, none, rolled⟩
  | settled now outcome =>
      rw [Traffic.next, if_pos none]
      exact ⟨rfl, none, known⟩
  | released =>
      rw [Traffic.next]
      split <;> exact ⟨rfl, none, known⟩

/-- The same holds for a row of moments on that day. -/
theorem after_of_sameDay (window : FetchWindow) {color : DayColor} {came : Instant}
    {events : List TrafficEvent}
    (sameDay : ∀ event ∈ events, ∀ now ∈ event.clock?, home.isSameDay (some came) now = true)
    (none : traffic.awaited = 0)
    (known : traffic.scheduler.schedule = .ofSuccess home color (some came)) :
    let later := traffic.after home window events
    later.calls = traffic.calls ∧ later.awaited = 0 ∧
      later.scheduler.schedule = .ofSuccess home color (some came) := by
  induction events generalizing traffic with
  | nil => exact ⟨rfl, none, known⟩
  | cons event events ih =>
      obtain ⟨calls, stillNone, stillKnown⟩ :=
        next_of_sameDay window none known (sameDay event List.mem_cons_self)
      obtain ⟨total, rest⟩ :=
        ih (fun other member => sameDay other (List.mem_cons_of_mem _ member)) stillNone
          stillKnown
      exact ⟨total.trans calls, rest⟩

/-- A lookup came back with a fresh entry. Up to the first moment on another local day no further
lookup is asked for and the schedule stays as it is. Until then a question that finds the color
unknown to the meter is answered with that of the entry, and any other one with the color that
the meter knows. It does not matter whether the clock goes forward within the day. -/
theorem color_kept_for_the_day (home : Zone) (window : FetchWindow)
    {earlier later : List TrafficEvent} {entry : CalendarEntry} {came : Instant}
    {color : DayColor} (awaited : 0 < (of home window earlier).awaited)
    (fresh : entry.freshColor home (some came) = .ok color)
    (sameDay : ∀ event ∈ later, ∀ now ∈ event.clock?,
      home.isSameDay (some came) now = true) :
    let accepted := of home window (earlier ++ [.settled (some came) (.entry entry)])
    let traffic := of home window (earlier ++ .settled (some came) (.entry entry) :: later)
    traffic.calls = accepted.calls ∧
      traffic.scheduler.schedule = accepted.scheduler.schedule ∧
      ∀ now, home.isSameDay (some came) now = true → ∀ localColor thrown,
        (traffic.scheduler.resolve home window now localColor thrown).color =
            .ok (some (localColor.getD color)) ∧
          (traffic.scheduler.resolve home window now localColor thrown).asked = false := by
  intro accepted traffic
  have settled : accepted =
      (of home window earlier).next home window (.settled (some came) (.entry entry)) :=
    of_snoc home window earlier _
  have continued : traffic = accepted.after home window later := by
    rw [settled]
    exact List.foldl_append
  obtain ⟨none, known⟩ := (keepsCount_of home window earlier).next_of_fresh window awaited
    fresh
  rw [← settled] at none known
  obtain ⟨calls, -, stillKnown⟩ := after_of_sameDay window sameDay none known
  rw [← continued] at calls stillKnown
  refine ⟨calls, stillKnown.trans known.symm, fun now onDay localColor thrown => ?_⟩
  have rolled : (traffic.scheduler.rolled home now).schedule =
      .ofSuccess home color (some came) := by
    rw [Scheduler.rolled, stillKnown]
    exact Schedule.rollOver_ofSuccess onDay
  cases localColor with
  | some known => exact ⟨rfl, rfl⟩
  | none =>
      have cached : (traffic.scheduler.rolled home now).schedule.cachedColor = some color := by
        rw [rolled]
        rfl
      rw [Scheduler.resolve_of_cached cached]
      exact ⟨rfl, rfl⟩

/-- An entry of the morning answers at noon and in the evening. The meter knows another color in
between, and its word is taken for that question. -/
theorem color_kept_for_an_evening :
    let home : Zone := ⟨0⟩
    let window : FetchWindow := ⟨10, 40, 30⟩
    let entry : CalendarEntry :=
      ⟨"2024-01-16T00:00:00.000Z", .red, "2024-01-15T10:30:00.000Z", []⟩
    let earlier : List TrafficEvent := [.asked (some 1705315500000) none none]
    let later : List TrafficEvent :=
      [.asked (some 1705315590000) none none, .released,
        .asked (some 1705320000000) (some .blue) none]
    let evening : Option Instant := some 1705348800000
    0 < (of home window earlier).awaited ∧
      entry.freshColor home (some 1705315560000) = .ok .red ∧
      ((of home window
          (earlier ++ .settled (some 1705315560000) (.entry entry) :: later)).scheduler.resolve
        home window evening none none).color = .ok (some .red) := by
  intro home window entry earlier later evening
  have awaited : 0 < (of home window earlier).awaited := by decide +kernel
  have fresh : entry.freshColor home (some 1705315560000) = .ok .red := rfl
  have sameDay : ∀ event ∈ later, ∀ now ∈ event.clock?,
      home.isSameDay (some 1705315560000) now = true := by
    simp only [later, List.forall_mem_cons, TrafficEvent.clock?, Option.mem_def]
    decide
  exact ⟨awaited, fresh,
    ((color_kept_for_the_day home window awaited fresh sameDay).2.2 evening (by decide) none
      none).1⟩

end Traffic

end MeterSignals
