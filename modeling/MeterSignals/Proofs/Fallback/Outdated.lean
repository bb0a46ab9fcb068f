/-
# Colors that are remembered for too long

The fallback remembers the day of the month at its last look, not the date. As long as it
looks at the day often enough, a color that it gives is of today. After a pause of a month
or more it may look again on the same day of the month, and then it gives a color that is as
old as that.
-/

import MeterSignals.Proofs.Fallback.Chronicle

namespace MeterSignals

namespace Zone

/-- A later clock reading is less than the shortest month after an earlier one. -/
def isNear (home : Zone) (earlier later : Instant) : Prop :=
  home.dayNumber later < home.dayNumber earlier + 28

instance (home : Zone) (earlier later : Instant) : Decidable (home.isNear earlier later) :=
  inferInstanceAs (Decidable (_ < _))

variable {home : Zone}

/-- Near clock readings with the same day of the month are on the same day. -/
theorem dayNumber_eq_of_isNear {a b : Instant} (forward : a ≤ b) (near : home.isNear a b)
    (same : (home.date a).day = (home.date b).day) : home.dayNumber a = home.dayNumber b := by
  have order := home.dayNumber_mono forward
  by_contra different
  have apart := CivilDate.add_le_of_day_eq (Int.lt_iff_le_and_ne.mpr ⟨order, different⟩) same
  rw [isNear] at near
  omega

/-- Clock readings that go forward and have the same day of the month are all on one day if
each is near the one before it. -/
theorem dayNumber_eq_of_isChain {first : Instant} {rest : List Instant} {day : Int}
    (forward : (first :: rest).Pairwise (· ≤ ·)) (near : (first :: rest).IsChain home.isNear)
    (same : ∀ t ∈ first :: rest, (home.date t).day = day) :
    ∀ t ∈ rest, home.dayNumber first = home.dayNumber t := by
  induction rest generalizing first with
  | nil => exact fun t member => nomatch member
  | cons second rest ih =>
      intro t member
      obtain ⟨step, near⟩ := List.isChain_cons_cons.mp near
      have onward := (List.pairwise_cons.mp forward).1 second List.mem_cons_self
      have equal : home.dayNumber first = home.dayNumber second := by
        refine dayNumber_eq_of_isNear onward step ?_
        rw [same first List.mem_cons_self, same second (by simp)]
      rcases List.mem_cons.mp member with rfl | later
      · exact equal
      · rw [equal]
        exact ih (List.pairwise_cons.mp forward).2 near
          (fun t found => same t (List.mem_cons_of_mem _ found)) t later

/-- Clock readings that go forward and end on the day on which they began never leave it. -/
theorem isChain_of_dayNumber_eq {first last : Instant} {rest : List Instant}
    (forward : (first :: rest ++ [last]).Pairwise (· ≤ ·))
    (same : home.dayNumber first = home.dayNumber last) :
    (first :: rest ++ [last]).IsChain home.isNear := by
  have between : ∀ t ∈ first :: rest ++ [last], home.dayNumber t = home.dayNumber first := by
    intro t member
    have low : home.dayNumber first ≤ home.dayNumber t := by
      rcases List.mem_cons.mp member with rfl | later
      · exact Int.le_refl _
      · exact home.dayNumber_mono ((List.pairwise_cons.mp forward).1 t later)
    have high : home.dayNumber t ≤ home.dayNumber last := by
      rcases List.mem_append.mp member with earlier | final
      · exact home.dayNumber_mono
          ((List.pairwise_append.mp forward).2.2 t earlier last List.mem_cons_self)
      · obtain rfl := List.mem_singleton.mp final
        exact Int.le_refl _
    omega
  refine List.Pairwise.isChain (List.pairwise_of_forall_mem_list fun a inA b inB => ?_)
  rw [isNear, between a inA, between b inB]
  omega

end Zone

namespace Chronicle

variable {home : Zone} {window : FetchWindow}

/-- A color that the meter does not know and the fallback gives is the last one that a lookup
brought, and every look at the day since then was on the day of the month of the question. -/
theorem brought_of_resolve {chronicle : Chronicle} (remembers : chronicle.Remembers home)
    {now : Option Instant} {thrown : Option Failure} {color : DayColor}
    (answer : (chronicle.scheduler.resolve home window now none thrown).color =
      .ok (some color)) :
    ∃ came rest, chronicle.brought = some (color, came) ∧ chronicle.looks = came :: rest ∧
      ∀ look ∈ chronicle.looks ++ [now],
        chronicle.scheduler.schedule.lastSeenDay.isOn home look = true := by
  cases cached : (chronicle.scheduler.rolled home now).schedule.cachedColor with
  | none =>
      rw [Scheduler.resolve_of_uncached cached] at answer
      split at answer
      · cases thrown <;> cases answer
      · cases answer
  | some found =>
      rw [Scheduler.resolve_of_cached cached] at answer
      cases answer
      obtain ⟨before, seen, -⟩ := Schedule.cachedColor_of_rollOver cached
      obtain ⟨came, rest, brought, looks, days⟩ := remembers color before
      refine ⟨came, rest, brought, looks, fun look member => ?_⟩
      rcases List.mem_append.mp member with earlier | last
      · exact days look earlier
      · rw [List.mem_singleton.mp last]
        exact seen

/-- A color that the fallback gives came from a lookup that came back on the same day, exactly
if no two looks at the day since then were a month of 28 days apart. -/
theorem isSameDay_iff_isChain (home : Zone) (window : FetchWindow) {events : List FallbackEvent}
    {times : List Instant} {now : Instant}
    (clock : events.map FallbackEvent.time ++ [some now] = times.map some)
    (forward : times.Pairwise (· ≤ ·)) {thrown : Option Failure} {color : DayColor}
    (answer : ((of home window events).scheduler.resolve home window (some now) none
      thrown).color = .ok (some color)) :
    ∃ came rest, (of home window events).brought = some (color, some came) ∧
      (of home window events).looks = (came :: rest).map some ∧
      (home.isSameDay (some came) (some now) = true ↔
        (came :: rest ++ [now]).IsChain home.isNear) := by
  obtain ⟨came, rest, brought, looks, days⟩ :=
    brought_of_resolve (remembers_of home window events) answer
  have inOrder := (looks_sublist home window events).append (List.Sublist.refl [some now])
  rw [clock, List.sublist_map_iff, looks] at inOrder
  obtain ⟨instants, part, readings⟩ := inOrder
  obtain ⟨first, middle, last, rfl, rfl, rfl, last_eq⟩ :
      ∃ first middle last, instants = first :: middle ++ [last] ∧ came = some first ∧
        rest = middle.map some ∧ some now = some last := by
    obtain ⟨front, back, rfl, fronts, backs⟩ := List.map_eq_append_iff.mp readings.symm
    obtain ⟨first, middle, rfl, same, middles⟩ := List.map_eq_cons_iff.mp fronts
    obtain ⟨last, rfl, final⟩ := List.map_eq_singleton_iff.mp backs
    exact ⟨first, middle, last, rfl, same.symm, middles.symm, final.symm⟩
  cases last_eq
  have onward : (first :: middle ++ [now]).Pairwise (· ≤ ·) := forward.sublist part
  refine ⟨first, middle, brought, looks, ?_⟩
  rw [home.isSameDay_iff]
  constructor
  · exact Zone.isChain_of_dayNumber_eq onward
  · intro near
    obtain ⟨day, seen⟩ :
        ∃ day, (of home window events).scheduler.schedule.lastSeenDay = .day day := by
      have on := days (some now) (by simp)
      cases mark : (of home window events).scheduler.schedule.lastSeenDay with
      | day day => exact ⟨day, rfl⟩
      | never => rw [mark] at on; cases on
      | unreadable => rw [mark] at on; cases on
      | other number => rw [mark] at on; cases on
    have same : ∀ t ∈ first :: middle ++ [now], (home.date t).day = day := by
      intro t member
      have on := days (some t) (by
        rw [looks]
        simpa using member)
      rw [seen, DayMark.isOn, beq_iff_eq] at on
      exact on.symm
    exact Zone.dayNumber_eq_of_isChain onward near same now (by simp)

/-- A lookup in the morning, and questions at noon and in the evening. -/
theorem isSameDay_of_an_evening :
    let home : Zone := ⟨0⟩
    let entry : CalendarEntry :=
      ⟨"2024-01-16T00:00:00.000Z", .red, "2024-01-15T10:30:00.000Z", []⟩
    let times : List Instant := [1705315500000, 1705315560000, 1705320000000, 1705348800000]
    let chronicle := of home ⟨10, 40, 30⟩
      [.asked (some times[0]) none none, .answered (some times[1]) (.entry entry),
        .asked (some times[2]) none none]
    times.Pairwise (· ≤ ·) ∧
      (chronicle.scheduler.resolve home ⟨10, 40, 30⟩ (some times[3]) none none).color =
        .ok (some .red) ∧
      ∃ came, chronicle.brought = some (.red, some came) ∧
        home.isSameDay (some came) (some times[3]) = true := by
  intro home entry times chronicle
  have forward : times.Pairwise (· ≤ ·) := by decide
  have cached : (chronicle.scheduler.rolled home (some times[3])).schedule.cachedColor =
      some .red := by
    decide +kernel
  have answer : (chronicle.scheduler.resolve home ⟨10, 40, 30⟩ (some times[3]) none none).color =
      .ok (some .red) := by
    rw [Scheduler.resolve_of_cached cached]
  refine ⟨forward, answer, ?_⟩
  obtain ⟨came, rest, brought, looks, exact⟩ :=
    isSameDay_iff_isChain home ⟨10, 40, 30⟩ rfl forward answer
  have seen : came :: rest = [times[1], times[2]] :=
    (List.map_inj_right fun _ _ => Option.some.inj).mp looks.symm
  refine ⟨came, brought, exact.mpr ?_⟩
  rw [seen]
  decide

/-- The same lookup, and a question a month later, on the same day of the month: the fallback
gives the color of 16 January for 16 February. -/
theorem not_isSameDay_of_a_month :
    let home : Zone := ⟨0⟩
    let entry : CalendarEntry :=
      ⟨"2024-01-16T00:00:00.000Z", .red, "2024-01-15T10:30:00.000Z", []⟩
    let times : List Instant := [1705315500000, 1705315560000, 1707984000000]
    let chronicle := of home ⟨10, 40, 30⟩
      [.asked (some times[0]) none none, .answered (some times[1]) (.entry entry)]
    times.Pairwise (· ≤ ·) ∧
      (chronicle.scheduler.resolve home ⟨10, 40, 30⟩ (some times[2]) none none).color =
        .ok (some .red) ∧
      chronicle.brought = some (.red, some times[1]) ∧
      home.isSameDay (some times[1]) (some times[2]) = false :=
  ⟨by decide, rfl, rfl, by decide⟩

end Chronicle

end MeterSignals
