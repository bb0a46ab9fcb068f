/-
# What the lines so far determine

A stream carries three things from line to line: the estimate of the filter, the countdown
and the last message. None of them is needed to say what becomes of a line: the records of
the lines before it are enough. This module defines both views, the carried state and the
history, and proves that they agree for every row of lines, in which rejected lines, frames
without a power and frames that are not published may stand in any order.
-/

import MeterSignals.Stream.Run

namespace MeterSignals

namespace StreamState

/-- The state after one more line. -/
def next (options : StreamOptions) (state : StreamState) (line : Text) : StreamState :=
  (state.take options line).state

/-- The state after a row of lines, from the start. -/
def after (options : StreamOptions) (lines : List Text) : StreamState :=
  lines.foldl (next options) initial

end StreamState

namespace StreamOptions

/-- The usual settings of a meter, with the number of accepted lines to pass over between two
that are published. -/
def usual (skip : Nat) : StreamOptions :=
  { validity := "_tvalide"
    codes := ⟨"SINSTS", "NTARF", "RELAIS", "STGE"⟩
    message := "MSG1"
    filter := ⟨9000, 60⟩
    redPeak := some 6
    skip := .frames skip
    topics := ⟨"shed", "water", "peak", "today", "tomorrow", "power"⟩ }

/-- The records of those lines that are accepted. -/
def accepted (options : StreamOptions) (lines : List Text) : List Record :=
  lines.filterMap fun line => (Record.ofLine options.validity line).toOption

/-- What a record says by itself under these settings. -/
def extract (options : StreamOptions) (record : Record) : Extract :=
  Extract.ofRecord options.codes options.redPeak record

/-- The powers that the accepted lines state, in order. -/
def powers (options : StreamOptions) (lines : List Text) : List Float :=
  (options.accepted lines).filterMap fun record => (options.extract record).power

/-- The estimate that the powers of the accepted lines lead to. -/
def estimateOf (options : StreamOptions) (lines : List Text) : Float :=
  (options.powers lines).foldl
    (fun estimate power => (options.filter.step estimate (some power)).1) 0

/-- The signals of a record, given all accepted lines up to its own. -/
def signalsOf (options : StreamOptions) (lines : List Text) (record : Record) : Signals :=
  let extract := options.extract record
  { loadShed :=
      if extract.overrideShed then some true
      else extract.power.map fun _ => options.filter.exceeds (options.estimateOf lines)
    hotWaterAllowed := extract.hotWaterAllowed
    period := extract.period
    dayColor := extract.dayColor
    nextDayColor := extract.nextDayColor
    power := extract.power }

/-- What becomes of a line when `skip` accepted lines are passed over between two that are
published and nothing outside the stream fails: the lines `earlier` decide. -/
def outcomeOf (options : StreamOptions) (skip : Nat) (earlier : List Text) (line : Text) :
    Outcome :=
  match Record.ofLine options.validity line with
  | .error rejection => .rejected rejection
  | .ok record =>
    let signals := options.signalsOf (earlier ++ [line]) record
    if (skip + 1) ∣ (options.accepted earlier).length then .published signals (.ok ())
    else .throttled signals

end StreamOptions

/-- The batch that goes to the broker for an outcome: none unless it is published. -/
def Outcome.batch (topics : Topics) : Outcome → Option Batch
  | .published signals _ => some (signals.batch topics)
  | _ => none

namespace StreamOptions

variable (options : StreamOptions)

@[simp]
theorem accepted_nil : options.accepted [] = [] := rfl

/-- A rejected line adds no record. -/
theorem accepted_snoc_of_error {line : Text} {rejection : Rejection}
    (rejected : Record.ofLine options.validity line = .error rejection) (lines : List Text) :
    options.accepted (lines ++ [line]) = options.accepted lines := by
  simp [accepted, List.filterMap_append, rejected, Except.toOption]

/-- An accepted line adds its record at the end. -/
theorem accepted_snoc_of_ok {line : Text} {record : Record}
    (read : Record.ofLine options.validity line = .ok record) (lines : List Text) :
    options.accepted (lines ++ [line]) = options.accepted lines ++ [record] := by
  simp [accepted, List.filterMap_append, read, Except.toOption]

/-- A rejected line leaves the estimate alone. -/
theorem estimateOf_snoc_of_error {line : Text} {rejection : Rejection}
    (rejected : Record.ofLine options.validity line = .error rejection) (lines : List Text) :
    options.estimateOf (lines ++ [line]) = options.estimateOf lines := by
  simp only [estimateOf, powers, options.accepted_snoc_of_error rejected]

/-- An accepted line moves the estimate by one step of the filter; without a power that step
changes nothing. -/
theorem estimateOf_snoc_of_ok {line : Text} {record : Record}
    (read : Record.ofLine options.validity line = .ok record) (lines : List Text) :
    options.estimateOf (lines ++ [line]) =
      (options.filter.step (options.estimateOf lines) (options.extract record).power).1 := by
  simp only [estimateOf, powers, options.accepted_snoc_of_ok read, List.filterMap_append,
    List.filterMap_cons, List.filterMap_nil]
  cases (options.extract record).power with
  | none => simp [ShedFilter.step]
  | some power => simp [List.foldl_append]

end StreamOptions

namespace ShedFilter

/-- The flag of a frame is that of the estimate after it, where the frame has a reading. -/
theorem step_snd {α : Type} [LT α] [DecidableLT α] [Sub α] [Div α] (filter : ShedFilter α)
    (estimate : α) (reading : Option α) :
    (filter.step estimate reading).2 =
      reading.map fun _ => filter.exceeds (filter.step estimate reading).1 := by
  cases reading <;> rfl

end ShedFilter

/-- The signals of a record, with the flag that the filter gives after the lines so far, are
those that all lines up to its own decide. -/
theorem StreamOptions.signals_step (options : StreamOptions) {line : Text} {record : Record}
    (read : Record.ofLine options.validity line = .ok record) (lines : List Text) :
    (options.extract record).signals
        (options.filter.step (options.estimateOf lines) (options.extract record).power).2 =
      options.signalsOf (lines ++ [line]) record := by
  rw [options.filter.step_snd, ← options.estimateOf_snoc_of_ok read]
  rfl

namespace Throttle

/-- After `n` accepted frames `remaining` more are to be passed over: they fill up the round
that is under way. -/
def FillsRound (skip n remaining : Nat) : Prop :=
  remaining ≤ skip ∧ (skip + 1) ∣ n + remaining

/-- A frame is published exactly at the start of a round. -/
theorem FillsRound.eq_zero_iff {skip n remaining : Nat} (fills : FillsRound skip n remaining) :
    remaining = 0 ↔ (skip + 1) ∣ n := by
  obtain ⟨bounded, whole⟩ := fills
  constructor
  · rintro rfl
    exact whole
  · intro start
    have part : (skip + 1) ∣ remaining := (Nat.dvd_add_right start).mp whole
    exact Nat.eq_zero_of_dvd_of_lt part (Nat.lt_succ_of_le bounded)

/-- One more accepted frame is published if it starts a round, and the countdown goes on to
fill the round that is under way then. -/
theorem FillsRound.tick {skip n remaining : Nat} (fills : FillsRound skip n remaining) :
    ∃ next, Throttle.tick (.frames skip) (.frames remaining) =
        (decide ((skip + 1) ∣ n), .frames next) ∧ FillsRound skip (n + 1) next := by
  obtain ⟨bounded, whole⟩ := fills
  cases remaining with
  | zero =>
      have start : (skip + 1) ∣ n := whole
      refine ⟨skip, by simp [Throttle.tick, start], Nat.le_refl skip, ?_⟩
      rw [Nat.add_assoc, Nat.add_comm 1 skip]
      exact Nat.dvd_add start (Nat.dvd_refl _)
  | succ more =>
      have inside : ¬ (skip + 1) ∣ n := fun start =>
        Nat.succ_ne_zero more ((FillsRound.eq_zero_iff ⟨bounded, whole⟩).mpr start)
      refine ⟨more, by simp [Throttle.tick, inside], by omega, ?_⟩
      rwa [Nat.add_assoc, Nat.add_comm 1 more]

end Throttle

namespace StreamState

/-- The carried state agrees with the history: its estimate is that of the powers so far, and
its countdown fills the round of accepted lines. -/
structure Recalls (options : StreamOptions) (skip : Nat) (lines : List Text)
    (state : StreamState) : Prop where
  estimate : state.estimate = options.estimateOf lines
  remaining : ∃ n, state.remaining = .frames n ∧
    Throttle.FillsRound skip (options.accepted lines).length n

theorem recalls_initial (options : StreamOptions) (skip : Nat) :
    Recalls options skip [] initial :=
  ⟨rfl, 0, rfl, Nat.zero_le skip, Nat.dvd_zero _⟩

/-- A line that is rejected changes no state. -/
theorem take_of_error {options : StreamOptions} {line : Text} {rejection : Rejection}
    (rejected : Record.ofLine options.validity line = .error rejection) (state : StreamState) :
    state.take options line = ⟨state, .rejected rejection, [.dropped rejection]⟩ := by
  simp only [take, rejected]

/-- A line that is accepted takes the filter, the countdown and the message on together. -/
theorem take_of_ok {options : StreamOptions} {line : Text} {record : Record}
    (read : Record.ofLine options.validity line = .ok record) (state : StreamState) :
    state.take options line = state.takeRecord options record := by
  simp only [take, read]

/-- Taking in a line keeps the agreement with the history, whatever the line holds. -/
theorem Recalls.next {options : StreamOptions} {skip : Nat} {lines : List Text}
    {state : StreamState} (count : options.skip = .frames skip)
    (recalls : Recalls options skip lines state) (line : Text) :
    Recalls options skip (lines ++ [line]) (state.next options line) := by
  obtain ⟨estimate, n, remaining, fills⟩ := recalls
  cases read : Record.ofLine options.validity line with
  | error rejection =>
      rw [StreamState.next, take_of_error read]
      constructor
      · rw [options.estimateOf_snoc_of_error read, estimate]
      · rw [options.accepted_snoc_of_error read]
        exact ⟨n, remaining, fills⟩
  | ok record =>
      obtain ⟨later, ticked, refills⟩ := fills.tick
      rw [StreamState.next, take_of_ok read]
      constructor
      · rw [options.estimateOf_snoc_of_ok read, ← estimate]
        rfl
      · refine ⟨later, ?_, ?_⟩
        · rw [takeRecord, count, remaining, ticked]
        · rwa [options.accepted_snoc_of_ok read, List.length_append]

/-- What the state makes of a line is what the history makes of it. -/
theorem Recalls.verdict {options : StreamOptions} {skip : Nat} {lines : List Text}
    {state : StreamState} (count : options.skip = .frames skip)
    (recalls : Recalls options skip lines state) (line : Text) :
    (state.take options line).verdict =
      match Record.ofLine options.validity line with
      | .error rejection => .rejected rejection
      | .ok record =>
        let signals := options.signalsOf (lines ++ [line]) record
        if (skip + 1) ∣ (options.accepted lines).length then .due signals
        else .throttled signals := by
  obtain ⟨estimate, n, remaining, fills⟩ := recalls
  cases read : Record.ofLine options.validity line with
  | error rejection => rw [take_of_error read]
  | ok record =>
      obtain ⟨later, ticked, -⟩ := fills.tick
      rw [take_of_ok read, takeRecord, count, remaining, ticked, estimate]
      dsimp only
      rw [← options.signals_step read lines]
      simp only [decide_eq_true_eq]
      rfl

/-- The state after any row of lines agrees with the history. -/
theorem recalls_after {options : StreamOptions} {skip : Nat} (count : options.skip = .frames skip)
    (lines : List Text) : Recalls options skip lines (after options lines) := by
  suffices continued : ∀ (rest earlier : List Text) (state : StreamState),
      Recalls options skip earlier state →
        Recalls options skip (earlier ++ rest) (rest.foldl (StreamState.next options) state) from
    continued lines [] initial (recalls_initial options skip)
  intro rest
  induction rest with
  | nil =>
      intro earlier state recalls
      rwa [List.append_nil]
  | cons line rest ih =>
      intro earlier state recalls
      have stepped := ih (earlier ++ [line]) _ (recalls.next count line)
      rwa [List.append_assoc] at stepped

end StreamState

end MeterSignals
