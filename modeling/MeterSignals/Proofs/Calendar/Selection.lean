/-
# Which entry is selected

The entries of an answer are gone through once, and an entry takes the place of the one before if
it starts later. Starts are compared as instants, whatever zones they are written in. If the first
entry has a start, the entry that is left starts last of all, and of the entries with that start it
is the first. An entry without a readable start takes no place from another one, but none takes its
place, either: at the front of the list it stays, whatever comes behind it. So the selection is the
right one, and the same for every order of the entries, only as far as starts can be read.
-/

import Mathlib.Data.Int.Order.Basic
import Mathlib.Data.List.Induction
import MeterSignals.Calendar.Freshness

namespace MeterSignals.CalendarEntry

/-- The instant at which the day of an entry starts, if its text denotes one. -/
def begins? (home : Zone) (entry : CalendarEntry) : Option Instant :=
  Stamp.instant? home entry.start

/-- No entry of a list starts after the chosen one, and none in front of it starts with it. -/
structure IsFirstLatest (home : Zone) (entries : List CalendarEntry) (chosen : CalendarEntry)
    (start : Instant) : Prop where
  begins : chosen.begins? home = some start
  latest : ∀ entry ∈ entries, ∀ other ∈ entry.begins? home, other ≤ start
  first : ∃ earlier later, entries = earlier ++ chosen :: later ∧
    ∀ entry ∈ earlier, entry.begins? home ≠ some start

/-- An entry of the list is selected, and if any of them has a start, it is the first of those that
start last. -/
def SelectsLatest (home : Zone) (entries : List CalendarEntry) : Prop :=
  ∃ chosen, selectLatest home entries = .ok chosen ∧ chosen ∈ entries ∧
    ((∃ entry ∈ entries, (entry.begins? home).isSome) →
      ∃ start, IsFirstLatest home entries chosen start)

/-- The start of the entry that is selected. -/
def selectedStart? (home : Zone) (entries : List CalendarEntry) : Option Instant :=
  (selectLatest home entries).toOption.bind (begins? home)

/-- Every order of the entries leads to the same start. -/
def IsOrderFree (home : Zone) (entries : List CalendarEntry) : Prop :=
  ∀ other, other.Perm entries → selectedStart? home other = selectedStart? home entries

variable {home : Zone} {entry latest first chosen : CalendarEntry}
  {entries rest : List CalendarEntry} {start : Instant}

/-- To start later takes a start on both sides. -/
theorem startsAfter_eq_true_iff :
    entry.startsAfter home latest = true ↔
      ∃ new ∈ entry.begins? home, ∃ old ∈ latest.begins? home, old < new := by
  rw [startsAfter, ← begins?, ← begins?]
  cases entry.begins? home <;> cases latest.begins? home <;> simp

/-- One entry more: it is chosen if it starts later, and else the choice stays. -/
theorem IsFirstLatest.snoc (before : IsFirstLatest home entries latest start)
    (entry : CalendarEntry) :
    ∃ next, IsFirstLatest home (entries ++ [entry]) (later home latest entry) next := by
  obtain ⟨earlier, behind, rfl, fresh⟩ := before.first
  by_cases after : entry.startsAfter home latest = true
  · obtain ⟨new, begins, old, began, above⟩ := startsAfter_eq_true_iff.mp after
    obtain rfl : old = start := Option.some.inj (began.symm.trans before.begins)
    rw [later, if_pos after]
    refine ⟨new, begins, fun other member instant given => ?_, _, [], rfl, fun other member => ?_⟩
    · rcases List.mem_append.mp member with listed | last
      · exact le_trans (before.latest other listed instant given) (le_of_lt above)
      · obtain rfl := List.mem_singleton.mp last
        exact le_of_eq (Option.some.inj (given.symm.trans begins))
    · exact fun given => above.not_ge (before.latest other member new given)
  · rw [later, if_neg after]
    refine ⟨start, before.begins, fun other member instant given => ?_, earlier,
      behind ++ [entry], by simp, fresh⟩
    rcases List.mem_append.mp member with listed | last
    · exact before.latest other listed instant given
    · obtain rfl := List.mem_singleton.mp last
      exact not_lt.mp fun above =>
        after (startsAfter_eq_true_iff.mpr ⟨instant, given, start, before.begins, above⟩)

/-- From an entry with a start on, the first of those that start last is found. -/
theorem exists_isFirstLatest_foldl (begins : first.begins? home = some start)
    (rest : List CalendarEntry) :
    ∃ last, IsFirstLatest home (first :: rest) (rest.foldl (later home) first) last := by
  induction rest using List.reverseRecOn with
  | nil =>
      refine ⟨start, begins, fun entry member instant given => ?_, [], [], rfl, by simp⟩
      obtain rfl := List.mem_singleton.mp member
      exact le_of_eq (Option.some.inj (given.symm.trans begins))
  | append_singleton rest entry ih =>
      obtain ⟨last, found⟩ := ih
      rw [List.foldl_append]
      exact found.snoc entry

/-- An entry without a start is never replaced. -/
theorem foldl_later_of_none (unread : first.begins? home = none) (rest : List CalendarEntry) :
    rest.foldl (later home) first = first := by
  induction rest with
  | nil => rfl
  | cons entry rest ih =>
      have kept : later home first entry = first := by
        rw [later, if_neg]
        rw [startsAfter_eq_true_iff, unread]
        rintro ⟨_, _, _, none, _⟩
        cases none
      rw [List.foldl_cons, kept, ih]

theorem selectLatest_of_none (unread : first.begins? home = none) (rest : List CalendarEntry) :
    selectLatest home (first :: rest) = .ok first :=
  congrArg Except.ok (foldl_later_of_none unread rest)

theorem exists_selectLatest (begins : first.begins? home = some start)
    (rest : List CalendarEntry) :
    ∃ chosen last, selectLatest home (first :: rest) = .ok chosen ∧
      IsFirstLatest home (first :: rest) chosen last := by
  obtain ⟨last, found⟩ := exists_isFirstLatest_foldl begins rest
  exact ⟨_, last, rfl, found⟩

theorem IsFirstLatest.mem (found : IsFirstLatest home entries chosen start) : chosen ∈ entries := by
  obtain ⟨earlier, behind, rfl, -⟩ := found.first
  exact List.mem_append_right _ List.mem_cons_self

/-- The last start of a list does not depend on the order of the list. -/
theorem IsFirstLatest.start_eq {other : List CalendarEntry} {chosen' : CalendarEntry}
    {start' : Instant} (found : IsFirstLatest home entries chosen start)
    (found' : IsFirstLatest home other chosen' start') (same : other.Perm entries) :
    start' = start :=
  le_antisymm (found.latest chosen' (same.subset found'.mem) start' found'.begins)
    (found'.latest chosen (same.symm.subset found.mem) start found.begins)

/-- The selection is right exactly if the first entry has a start or no entry has one. -/
theorem selectsLatest_iff :
    SelectsLatest home (first :: rest) ↔
      (first.begins? home).isSome ∨ ∀ entry ∈ rest, entry.begins? home = none := by
  cases begins : first.begins? home with
  | none =>
      rw [Option.isSome_none, or_iff_right Bool.false_ne_true]
      constructor
      · rintro ⟨chosen, selected, -, right⟩ entry member
        by_contra readable
        obtain ⟨start, found⟩ :=
          right ⟨entry, List.mem_cons_of_mem _ member, Option.isSome_iff_ne_none.mpr readable⟩
        -- It is the first entry that is selected, which has no start.
        obtain rfl : first = chosen :=
          Except.ok.inj ((selectLatest_of_none begins rest).symm.trans selected)
        exact Option.some_ne_none start (found.begins.symm.trans begins)
      · intro unread
        refine ⟨first, selectLatest_of_none begins rest, List.mem_cons_self, ?_⟩
        rintro ⟨entry, member, readable⟩
        have none : entry.begins? home = none :=
          (List.mem_cons.mp member).elim (fun same => same ▸ begins) (unread entry)
        rw [none] at readable
        cases readable
  | some start =>
      refine iff_of_true ?_ (.inl rfl)
      obtain ⟨chosen, last, selected, found⟩ := exists_selectLatest begins rest
      exact ⟨chosen, selected, found.mem, fun _ => ⟨last, found⟩⟩

theorem selectedStart?_of_none (unread : first.begins? home = none) (rest : List CalendarEntry) :
    selectedStart? home (first :: rest) = none := by
  rw [selectedStart?, selectLatest_of_none unread]
  exact unread

theorem exists_selectedStart? (begins : first.begins? home = some start)
    (rest : List CalendarEntry) :
    ∃ chosen last, selectedStart? home (first :: rest) = some last ∧
      IsFirstLatest home (first :: rest) chosen last := by
  obtain ⟨chosen, last, selected, found⟩ := exists_selectLatest begins rest
  refine ⟨chosen, last, ?_, found⟩
  rw [selectedStart?, selected]
  exact found.begins

/-- A selected start is there exactly if the first entry has one. -/
theorem isSome_selectedStart? :
    (selectedStart? home (first :: rest)).isSome = (first.begins? home).isSome := by
  cases begins : first.begins? home with
  | none => rw [selectedStart?_of_none begins]
  | some start =>
      obtain ⟨_, last, selected, -⟩ := exists_selectedStart? begins rest
      rw [selected]
      rfl

/-- Any entry may be put first, so where the order does not matter all entries have a start or
none has. -/
theorem IsOrderFree.isSome_begins? (free : IsOrderFree home entries) (member : entry ∈ entries) :
    (entry.begins? home).isSome = (selectedStart? home entries).isSome := by
  obtain ⟨earlier, behind, rfl⟩ := List.append_of_mem member
  rw [← free (entry :: (earlier ++ behind)) List.perm_middle.symm, isSome_selectedStart?]

theorem isOrderFree_of_none (unread : ∀ entry ∈ entries, entry.begins? home = none) :
    IsOrderFree home entries := by
  have nothing (list : List CalendarEntry) (unread : ∀ entry ∈ list, entry.begins? home = none) :
      selectedStart? home list = none := by
    cases list with
    | nil => rfl
    | cons first rest => exact selectedStart?_of_none (unread first List.mem_cons_self) rest
  intro other same
  rw [nothing entries unread, nothing other fun entry member => unread entry (same.subset member)]

theorem isOrderFree_of_some (readable : ∀ entry ∈ entries, (entry.begins? home).isSome) :
    IsOrderFree home entries := by
  intro other same
  cases entries with
  | nil => rw [same.eq_nil]
  | cons first rest =>
      cases other with
      | nil => exact absurd same.symm.eq_nil (List.cons_ne_nil _ _)
      | cons first' rest' =>
          obtain ⟨_, begins⟩ := Option.isSome_iff_exists.mp (readable first List.mem_cons_self)
          obtain ⟨_, begins'⟩ :=
            Option.isSome_iff_exists.mp (readable first' (same.subset List.mem_cons_self))
          obtain ⟨_, last, selected, found⟩ := exists_selectedStart? begins rest
          obtain ⟨_, last', selected', found'⟩ := exists_selectedStart? begins' rest'
          rw [selected, selected', found.start_eq found' same]

/-- The order of the entries does not matter exactly if all of them have a start or none has. -/
theorem isOrderFree_iff :
    IsOrderFree home entries ↔
      (∀ entry ∈ entries, (entry.begins? home).isSome) ∨
        ∀ entry ∈ entries, entry.begins? home = none := by
  refine ⟨fun free => ?_, fun alike => alike.elim isOrderFree_of_some isOrderFree_of_none⟩
  cases selected : (selectedStart? home entries).isSome with
  | true => exact .inl fun entry member => (free.isSome_begins? member).trans selected
  | false =>
      refine .inr fun entry member => Option.isNone_iff_eq_none.mp ?_
      exact Option.isSome_eq_false_iff.mp ((free.isSome_begins? member).trans selected)

/-- What is selected, for any list of entries. Without an entry there is no data. With entries one
of them is selected, the first one if that has no start; it is the first of those that start last
exactly if the first entry of the list has a start or no entry has one. The start that is selected
is the same for every order of the entries exactly if all of them have one or none has. -/
theorem selectLatest_among_readable (home : Zone) :
    selectLatest home [] = .error (.noData "Calendar response holds no entry") ∧
    (∀ first rest,
      (∃ chosen, selectLatest home (first :: rest) = .ok chosen ∧ chosen ∈ first :: rest) ∧
      (first.begins? home = none → selectLatest home (first :: rest) = .ok first) ∧
      (SelectsLatest home (first :: rest) ↔
        (first.begins? home).isSome ∨ ∀ entry ∈ rest, entry.begins? home = none)) ∧
    ∀ entries, IsOrderFree home entries ↔
      (∀ entry ∈ entries, (entry.begins? home).isSome) ∨
        ∀ entry ∈ entries, entry.begins? home = none := by
  refine ⟨rfl, fun first rest => ⟨?_, fun unread => selectLatest_of_none unread rest,
    selectsLatest_iff⟩, fun entries => isOrderFree_iff⟩
  cases begins : first.begins? home with
  | none => exact ⟨first, selectLatest_of_none begins rest, List.mem_cons_self⟩
  | some start =>
      obtain ⟨chosen, _, selected, found⟩ := exists_selectLatest begins rest
      exact ⟨chosen, selected, found.mem⟩

/-- Midnight in a zone ahead of UTC is earlier than midnight in UTC, and the text between the two
denotes no instant. -/
theorem selectLatest_of_three_entries :
    let home : Zone := ⟨0⟩
    let ahead : CalendarEntry := ⟨"2024-01-16T00:00:00+01:00", .white, "", []⟩
    let unread : CalendarEntry := ⟨"tomorrow", .red, "", []⟩
    let last : CalendarEntry := ⟨"2024-01-16T00:00:00Z", .blue, "", []⟩
    SelectsLatest home [ahead, unread, last] ∧ ¬ IsOrderFree home [ahead, unread, last] ∧
      selectedStart? home [ahead, unread, last] = some 1705363200000 ∧
      selectedStart? home [unread, ahead, last] = none := by
  intro home ahead unread last
  obtain ⟨-, selection, order⟩ := selectLatest_among_readable home
  refine ⟨(selection _ _).2.2.mpr (.inl (by decide +kernel)), ?_, by decide +kernel,
    by decide +kernel⟩
  rw [order]
  decide +kernel

/-- An entry at the front whose start cannot be read hides the one that starts last. -/
theorem not_selectsLatest_of_unread_first :
    ¬ SelectsLatest ⟨0⟩
      [⟨"bad", .white, "2024-01-15T10:20:00+01:00", []⟩,
        ⟨"2024-01-16", .blue, "2024-01-15T10:20:00+01:00", []⟩] := by
  rw [selectsLatest_iff]
  decide +kernel

end MeterSignals.CalendarEntry
