/-
# What is under way beside the reading

A line is waited for until both of its errands have ended or one of them has broken off. In the
second case the other one may be left under way, and the next line enters beside it. Nothing else
is left: at a time when no line is waited for, an errand is under way only if the other errand of
its line has broken off.
-/

import MeterSignals.Proofs.Stream.Errands

namespace MeterSignals

namespace Errands

/-- Nothing has gone out. -/
def initial : Errands := ⟨.initial, .initial⟩

/-- One event. A derivation breaks off with its publication, or before it: then the line is to be
published and no batch goes out. -/
def next (errands : Errands) (run : StreamRun) : RunEvent → Errands
  | .relaySettled number reply =>
    { errands with send := errands.send.settle number (breaksOff reply) }
  | .publicationSettled number reply =>
    { errands with derivation := errands.derivation.settle number (breaksOff reply) }
  | event =>
    let step := run.step event
    let number := step.run.count
    { send := errands.send.begin number step.relay.isSome false
      derivation := errands.derivation.begin number step.batch.isSome
        ((run.due? event).isSome && step.batch.isNone) }

/-- Nothing is under way. -/
def AllEnded (errands : Errands) : Prop :=
  errands.send.underway = [] ∧ errands.derivation.underway = []

/-- No errand is under way for a line of which the other errand has broken off. -/
def NothingLeft (errands : Errands) : Prop :=
  (∀ number ∈ errands.derivation.broken, number ∉ errands.send.underway) ∧
    ∀ number ∈ errands.send.broken, number ∉ errands.derivation.underway

end Errands

namespace Transcript

/-- The errands of a row of events. -/
def errands (stream : Stream) (events : List RunEvent) : Errands :=
  (events.foldl (fun before event => (before.1.next event, before.2.next before.1.run event))
    (initial stream, Errands.initial)).2

theorem errands_snoc (stream : Stream) (events : List RunEvent) (event : RunEvent) :
    errands stream (events ++ [event]) =
      (errands stream events).next (of stream events).run event := by
  have run (events : List RunEvent) (transcript : Transcript) (errands : Errands) :
      (events.foldl (fun before event => (before.1.next event, before.2.next before.1.run event))
        (transcript, errands)).1 = transcript.after events := by
    induction events generalizing transcript errands with
    | nil => rfl
    | cons event events ih => exact ih ..
  rw [errands, List.foldl_append, List.foldl_cons, List.foldl_nil, run]
  rfl

end Transcript

/-- A batch goes out with a line exactly if the line starts out publishing it, and a derivation
that breaks off at once is one of a line that is to be published. -/
theorem Stream.exists_derivation (stream : Stream) (line : Text) (now : Option Instant)
    (thrown : Option Failure) :
    let entrance := stream.enter line now thrown
    let due := (stream.state.take stream.options line).verdict.due?
    ∃ derivation, entrance.flight = .start stream.relayed derivation ∧
      (entrance.batch.isSome = true ↔ derivation.leg = .pending) ∧
      ∀ failure, derivation.leg = .broken failure →
        (due.isSome && entrance.batch.isNone) = true := by
  simp only [enter]
  split
  · exact ⟨_, rfl, by simp [Derivation.leg], by simp [Derivation.leg]⟩
  · exact ⟨_, rfl, by simp [Derivation.leg], by simp [Derivation.leg]⟩
  · next signals verdict =>
      rw [verdict]
      split
      · exact ⟨_, rfl, by simp [Derivation.leg], fun _ _ => rfl⟩
      · exact ⟨_, rfl, by simp [Derivation.leg], by simp [Derivation.leg]⟩

/-- A batch goes out for every line that is to be published, unless the start of a lookup throws. -/
theorem Stream.batch_of_calm (stream : Stream) (line : Text) (now : Option Instant) :
    ((stream.state.take stream.options line).verdict.due?.isSome &&
      (stream.enter line now none).batch.isNone) = false := by
  simp only [enter]
  split
  · next verdict => rw [verdict]; rfl
  · next verdict => rw [verdict]; rfl
  · next signals verdict =>
      obtain ⟨completed, complete⟩ :=
        Stream.complete_ok (.inr rfl : stream.fallback = none ∨ _) signals now
      rw [complete]
      exact Bool.and_false _

/-- Nothing is thrown with an event. -/
def RunEvent.IsCalm : RunEvent → Prop
  | .line _ _ thrown => thrown = none
  | .relaySettled _ reply => breaksOff reply = false
  | .publicationSettled _ reply => breaksOff reply = false
  | _ => True

namespace Errands

variable {run : StreamRun}

/-- A line enters a run that waits for none. -/
theorem next_of_idle (errands : Errands) (idle : run.current = none) (line : Text)
    (now : Option Instant) (thrown : Option Failure) :
    let entrance := run.stream.enter line now thrown
    let due := (run.stream.state.take run.stream.options line).verdict.due?
    errands.next run (.line line now thrown) =
      { send := errands.send.begin (run.count + 1) run.stream.relayed false
        derivation := errands.derivation.begin (run.count + 1) entrance.batch.isSome
          (due.isSome && entrance.batch.isNone) } := by
  have sent : (run.stream.enter line now thrown).relay.isSome = run.stream.relayed := by
    rw [Stream.enter_relay]
    cases run.stream.relayed <;> rfl
  simp only [next, StreamRun.step_line_of_idle idle, StreamRun.due?, idle, sent, Option.isSome_map,
    Option.isSome_none, Bool.false_eq_true, if_false]

/-- A line that comes too early is not begun. -/
theorem next_of_busy (errands : Errands) (busy : run.current.isSome = true) (line : Text)
    (now : Option Instant) (thrown : Option Failure) :
    errands.next run (.line line now thrown) = errands := by
  simp only [next, run.step_line_of_busy busy, StreamRun.due?, busy, if_true, Option.isSome_none,
    Bool.false_and, Errand.begin_nothing]

theorem next_resumed (errands : Errands) : errands.next run .resumed = errands := by
  have silent := @StreamRun.step_isSilent run .resumed rfl
  simp only [next, silent.relay, silent.batch, StreamRun.due?, Option.isSome_none, Bool.false_and,
    Errand.begin_nothing]

theorem next_lookupFinished (errands : Errands) (now : Option Instant) (outcome : LookupOutcome) :
    errands.next run (.lookupFinished now outcome) = errands := by
  have silent := @StreamRun.step_isSilent run (.lookupFinished now outcome) rfl
  simp only [next, silent.relay, silent.batch, StreamRun.due?, Option.isSome_none, Bool.false_and,
    Errand.begin_nothing]

/-- Where nothing is thrown, nothing breaks off. -/
theorem unbroken_next {errands : Errands} {event : RunEvent} (calm : event.IsCalm)
    (unbroken : errands.send.broken = [] ∧ errands.derivation.broken = []) :
    (errands.next run event).send.broken = [] ∧
      (errands.next run event).derivation.broken = [] := by
  cases event with
  | line line now thrown =>
      obtain rfl : thrown = none := calm
      cases current : run.current with
      | none =>
          rw [errands.next_of_idle current, run.stream.batch_of_calm line now]
          exact ⟨(List.append_nil _).trans unbroken.1, (List.append_nil _).trans unbroken.2⟩
      | some waiting =>
          rw [errands.next_of_busy (by rw [current]; rfl)]
          exact unbroken
  | relaySettled number reply =>
      have ended : breaksOff reply = false := calm
      rw [next, ended]
      exact ⟨Errand.broken_settle unbroken.1, unbroken.2⟩
  | publicationSettled number reply =>
      have ended : breaksOff reply = false := calm
      rw [next, ended]
      exact ⟨unbroken.1, Errand.broken_settle unbroken.2⟩
  | resumed => rwa [next_resumed]
  | lookupFinished now outcome => rwa [next_lookupFinished]

end Errands

namespace StreamRun

variable {run : StreamRun} {errands : Errands}

/-- The errands are those of the lines of the run. A line that the reading has left is closed, and
the line that the reading waits for has entered last. -/
structure Carries (run : StreamRun) (errands : Errands) : Prop where
  agrees : ∀ line ∈ run.lines, line.2.Agrees errands line.1
  known : ∀ number, number ∈ errands.send.underway ∨ number ∈ errands.derivation.underway →
    ∃ flight, (number, flight) ∈ run.lines
  closed : ∀ line ∈ run.left, line.2.result.isSome = true
  last : ∀ line ∈ run.current, line.1 = run.count
  earlier : ∀ line ∈ run.left, line.1 + run.current.toList.length ≤ run.count

theorem carries_initial (stream : Stream) : (initial stream).Carries Errands.initial where
  agrees := fun _ member => nomatch member
  known := fun _ underway => underway.elim nofun nofun
  closed := fun _ member => nomatch member
  last := fun _ member => nomatch member
  earlier := fun _ member => nomatch member

/-- The reading goes on after a line that is done. -/
theorem resumed_of_done {number : Nat} {flight : Flight}
    (current : run.current = some (number, flight)) (done : flight.result.isSome = true) :
    let later := (run.step .resumed).run
    later.current = none ∧ later.count = run.count ∧
      ∀ line, line ∈ later.left ↔
        line ∈ run.left ∨ flight.isLanded = false ∧ line = (number, flight) := by
  intro later
  have same : later = { run with
      current := none
      left := if flight.isLanded then run.left else run.left ++ [(number, flight)] } := by
    change (run.step .resumed).run = _
    rw [resumed_run, current]
    exact if_pos done
  rw [same]
  refine ⟨rfl, rfl, fun line => ?_⟩
  cases flight.isLanded <;> simp

namespace Carries

theorem le_count (carries : run.Carries errands) {line : Nat × Flight} (member : line ∈ run.lines) :
    line.1 ≤ run.count := by
  rcases List.mem_append.mp member with current | left
  · exact Nat.le_of_eq (carries.last line (Option.mem_toList.mp current))
  · exact Nat.le_of_add_right_le (carries.earlier line left)

section Update

variable {number : Nat} {change : Flight → Flight × List StreamNotice} {line : Nat × Flight}

/-- An update of the line that is waited for does not touch an earlier one. -/
theorem updatedLine_of_left (carries : run.Carries errands) (left : line ∈ run.left)
    (waits : run.current.any (·.1 == number) = true) : updatedLine number change line = line := by
  obtain ⟨waiting, current, same⟩ := (Option.any_eq_true _ _).mp waits
  have before := carries.earlier line left
  rw [current, Option.toList_some, List.length_singleton, ← carries.last waiting current,
    beq_iff_eq.mp same] at before
  rw [updatedLine, if_neg (Nat.ne_of_lt before)]

/-- An update leaves no earlier line that was not there. -/
theorem exists_of_mem_left (carries : run.Carries errands)
    (member : line ∈ (run.update number change).1.left) :
    ∃ before ∈ run.left, updatedLine number change before = line := by
  rw [update_eq] at member
  split at member
  · next waits => exact ⟨line, member, carries.updatedLine_of_left member waits⟩
  · rw [updateLeft_eq] at member
    exact List.mem_map.mp (List.mem_filter.mp member).1

/-- An update drops only earlier lines of which nothing is under way. -/
theorem mem_left_update (carries : run.Carries errands) (left : line ∈ run.left)
    (underway : (updatedLine number change line).2.isLanded = false) :
    updatedLine number change line ∈ (run.update number change).1.left := by
  rw [update_eq]
  split
  · next waits =>
      rw [carries.updatedLine_of_left left waits]
      exact left
  · rw [updateLeft_eq]
    refine List.mem_filter.mpr ⟨List.mem_map_of_mem left, ?_⟩
    rw [underway]
    rfl

theorem mem_current_update :
    line ∈ (run.update number change).1.current ↔
      ∃ before ∈ run.current, updatedLine number change before = line := by
  rw [update_current]
  exact Option.map_eq_some_iff

theorem exists_of_mem_update (carries : run.Carries errands)
    (member : line ∈ (run.update number change).1.lines) :
    ∃ before ∈ run.lines, updatedLine number change before = line := by
  rcases List.mem_append.mp member with current | left
  · obtain ⟨before, found, updated⟩ := mem_current_update.mp (Option.mem_toList.mp current)
    exact ⟨before, List.mem_append_left _ (Option.mem_toList.mpr found), updated⟩
  · obtain ⟨before, found, updated⟩ := carries.exists_of_mem_left left
    exact ⟨before, List.mem_append_right _ found, updated⟩

theorem mem_update (carries : run.Carries errands) (member : line ∈ run.lines)
    (underway : (updatedLine number change line).2.isLanded = false) :
    updatedLine number change line ∈ (run.update number change).1.lines := by
  rcases List.mem_append.mp member with current | left
  · exact List.mem_append_left _ (Option.mem_toList.mpr
      (mem_current_update.mpr ⟨line, Option.mem_toList.mp current, rfl⟩))
  · exact List.mem_append_right _ (carries.mem_left_update left underway)

/-- An update carries the later errands if the line with the number does after its change, and
nothing new is under way. -/
theorem update {later : Errands} (carries : run.Carries errands)
    (agrees : ∀ flight : Flight, flight.Agrees errands number →
      (change flight).1.Agrees later number)
    (closed : ∀ flight : Flight, flight.result.isSome = true →
      (change flight).1.result.isSome = true)
    (keeps : ∀ other, other ≠ number → errands.send.Keeps later.send other ∧
      errands.derivation.Keeps later.derivation other)
    (fewer : later.send.underway ⊆ errands.send.underway ∧
      later.derivation.underway ⊆ errands.derivation.underway) :
    (run.update number change).1.Carries later := by
  have updated : ∀ line ∈ run.lines,
      (updatedLine number change line).2.Agrees later (updatedLine number change line).1 := by
    intro line member
    have before := carries.agrees line member
    rw [updatedLine]
    by_cases same : line.1 = number
    · rw [if_pos same, same]
      exact agrees line.2 (same ▸ before)
    · obtain ⟨send, derivation⟩ := keeps line.1 same
      rw [if_neg same]
      exact before.of_keeps send derivation
  refine ⟨?_, ?_, ?_, ?_, ?_⟩
  · intro line member
    obtain ⟨before, found, rfl⟩ := carries.exists_of_mem_update member
    exact updated before found
  · intro other underway
    obtain ⟨flight, member⟩ :=
      carries.known other (underway.imp (@fewer.1 other) (@fewer.2 other))
    exact ⟨_, carries.mem_update member ((updated _ member).isLanded_eq_false underway)⟩
  · intro line left
    obtain ⟨before, found, rfl⟩ := carries.exists_of_mem_left left
    have done := carries.closed before found
    rw [updatedLine]
    split
    · exact closed before.2 done
    · exact done
  · intro line current
    obtain ⟨before, found, rfl⟩ := mem_current_update.mp current
    rw [update_count]
    exact carries.last before found
  · intro line left
    obtain ⟨before, found, rfl⟩ := carries.exists_of_mem_left left
    rw [update_count, update_current, Option.length_toList, Option.isSome_map,
      ← Option.length_toList]
    exact carries.earlier before found

end Update

theorem settleRelay (carries : run.Carries errands) (number : Nat) (reply : RelayReply) :
    (run.step (.relaySettled number reply)).run.Carries
      (errands.next run (.relaySettled number reply)) :=
  carries.update (fun _ agrees => agrees.settleRelay reply)
    (fun _ closed => Flight.isSome_settleRelay closed reply)
    (fun _ differs => ⟨Errand.keeps_settle differs _, Errand.Keeps.refl⟩)
    ⟨Errand.underway_settle_subset _, List.Subset.refl _⟩

theorem settlePublication (carries : run.Carries errands) (number : Nat) (reply : PublishReply) :
    (run.step (.publicationSettled number reply)).run.Carries
      (errands.next run (.publicationSettled number reply)) :=
  carries.update (fun _ agrees => agrees.settlePublication reply)
    (fun _ closed => Flight.isSome_settlePublication closed reply)
    (fun _ differs => ⟨Errand.Keeps.refl, Errand.keeps_settle differs _⟩)
    ⟨List.Subset.refl _, Errand.underway_settle_subset _⟩

/-- The reading goes on, and the line that it waited for joins the earlier ones unless nothing of
it is under way. -/
theorem resume (carries : run.Carries errands) : (run.step .resumed).run.Carries errands := by
  cases current : run.current with
  | none =>
      rw [run.step_resumed_of_idle current]
      exact carries
  | some waiting =>
      obtain ⟨number, flight⟩ := waiting
      by_cases done : flight.result.isSome = true
      · obtain ⟨idle, count, left⟩ := resumed_of_done current done
        have here : (number, flight) ∈ run.lines :=
          List.mem_append_left _ (Option.mem_toList.mpr current)
        have lines (line : Nat × Flight) : line ∈ (run.step .resumed).run.lines ↔
            line ∈ (run.step .resumed).run.left := by
          rw [StreamRun.lines, idle, Option.toList_none, List.nil_append]
        have earlier (line : Nat × Flight) (member : line ∈ (run.step .resumed).run.left) :
            line ∈ run.lines := by
          rcases (left line).mp member with before | ⟨-, rfl⟩
          · exact List.mem_append_right _ before
          · exact here
        refine ⟨?_, ?_, ?_, ?_, ?_⟩
        · exact fun line member => carries.agrees line (earlier line ((lines line).mp member))
        · intro other underway
          obtain ⟨flight', member⟩ := carries.known other underway
          refine ⟨flight', (lines _).mpr ((left _).mpr ?_)⟩
          rcases List.mem_append.mp member with waits | before
          · rw [current, Option.toList_some, List.mem_singleton] at waits
            obtain ⟨rfl, rfl⟩ := Prod.mk.inj waits
            exact .inr ⟨(carries.agrees _ here).isLanded_eq_false underway, rfl⟩
          · exact .inl before
        · intro line member
          rcases (left line).mp member with before | ⟨-, rfl⟩
          · exact carries.closed line before
          · exact done
        · rw [idle]
          exact fun _ member => nomatch member
        · intro line member
          rw [idle, count]
          exact carries.le_count (earlier line member)
      · have waits : (run.step .resumed).run = run := by
          rw [resumed_run, current]
          exact if_neg done
        rw [waits]
        exact carries

/-- A line enters with the next number. -/
theorem enter (carries : run.Carries errands) (idle : run.current = none) (line : Text)
    (now : Option Instant) (thrown : Option Failure) :
    (run.step (.line line now thrown)).run.Carries
      (errands.next run (.line line now thrown)) := by
  obtain ⟨derivation, flight, sent, broken⟩ := run.stream.exists_derivation line now thrown
  have before : run.lines = run.left := by
    rw [StreamRun.lines, idle, Option.toList_none, List.nil_append]
  have new : ¬ (run.count + 1 ∈ errands.send.underway ∨
      run.count + 1 ∈ errands.derivation.underway) := by
    intro underway
    obtain ⟨flight, member⟩ := carries.known _ underway
    exact Nat.not_succ_le_self _ (carries.le_count member)
  obtain ⟨newSend, newDerivation⟩ := not_or.mp new
  rw [errands.next_of_idle idle, step_line_of_idle idle]
  refine ⟨?_, ?_, carries.closed, ?_, ?_⟩
  · intro waiting member
    rcases List.mem_append.mp member with current | left
    · obtain rfl := List.mem_singleton.mp current
      dsimp only
      rw [flight]
      refine Flight.Agrees.start (.begin newSend ?_ ?_) (.begin newDerivation sent broken)
      · cases run.stream.relayed <;> simp
      · cases run.stream.relayed <;> exact nofun
    · have old : waiting ∈ run.lines := before ▸ left
      have differs : waiting.1 ≠ run.count + 1 :=
        Nat.ne_of_lt (Nat.lt_succ_of_le (carries.le_count old))
      exact (carries.agrees waiting old).of_keeps (Errand.keeps_begin differs _ _)
        (Errand.keeps_begin differs _ _)
  · intro other underway
    by_cases same : other = run.count + 1
    · exact ⟨_, List.mem_append_left _ (List.mem_singleton.mpr (Prod.ext same rfl))⟩
    · obtain ⟨flight, member⟩ := carries.known other
        (underway.imp (Errand.keeps_begin same _ _).underway.mp
          (Errand.keeps_begin same _ _).underway.mp)
      exact ⟨flight, List.mem_append_right _ (before ▸ member)⟩
  · rintro _ ⟨⟩
    rfl
  · intro waiting left
    have entered := carries.earlier waiting left
    rw [idle] at entered
    exact Nat.succ_le_succ entered

/-- One event. -/
theorem step (carries : run.Carries errands) (event : RunEvent) :
    (run.step event).run.Carries (errands.next run event) := by
  cases event with
  | line line now thrown =>
      by_cases busy : run.current.isSome
      · rw [errands.next_of_busy busy, run.step_line_of_busy busy]
        exact carries
      · exact carries.enter (Option.not_isSome_iff_eq_none.mp busy) line now thrown
  | relaySettled number reply => exact carries.settleRelay number reply
  | publicationSettled number reply => exact carries.settlePublication number reply
  | resumed =>
      rw [errands.next_resumed]
      exact carries.resume
  | lookupFinished now outcome =>
      rw [errands.next_lookupFinished]
      exact ⟨carries.agrees, carries.known, carries.closed, carries.last, carries.earlier⟩

end Carries

/-- The reading waits for the line with a number. -/
def WaitsFor (run : StreamRun) (number : Nat) : Prop := ∃ line ∈ run.current, line.1 = number

end StreamRun

namespace Transcript

theorem carries_of (stream : Stream) (events : List RunEvent) :
    (of stream events).run.Carries (errands stream events) := by
  induction events using List.reverseRecOn with
  | nil => exact StreamRun.carries_initial stream
  | append_singleton events event ih =>
      rw [of_snoc, errands_snoc]
      exact ih.step event

/-- The errand of a line that is left is under way only beside a break. -/
theorem isBroken_of_underway {stream : Stream} {events : List RunEvent} {number : Nat}
    (underway : number ∈ (errands stream events).send.underway ∨
      number ∈ (errands stream events).derivation.underway) :
    (of stream events).run.WaitsFor number ∨
      ∃ flight : Flight, flight.Agrees (errands stream events) number ∧ flight.IsBroken := by
  have carries := carries_of stream events
  obtain ⟨flight, member⟩ := carries.known number underway
  have agrees := carries.agrees _ member
  rcases List.mem_append.mp member with current | left
  · exact .inl ⟨_, Option.mem_toList.mp current, rfl⟩
  · refine .inr ⟨flight, agrees, (agrees.inTime (carries.closed _ left)).resolve_left ?_⟩
    rw [agrees.isLanded_eq_false underway]
    exact Bool.false_ne_true

theorem send_beside_break (stream : Stream) (events : List RunEvent) :
    ∀ number ∈ (errands stream events).send.underway, (of stream events).run.WaitsFor number ∨
      number ∈ (errands stream events).derivation.broken ∧
        number ∉ (errands stream events).derivation.underway := by
  intro number underway
  refine (isBroken_of_underway (.inl underway)).imp_right ?_
  rintro ⟨flight, agrees, failure, broken | broken⟩
  · cases (agrees.send.underway.mp underway).symm.trans broken
  · exact ⟨agrees.derivation.broken failure broken, fun publishing =>
      nomatch broken.symm.trans (agrees.derivation.underway.mp publishing)⟩

theorem publication_beside_break (stream : Stream) (events : List RunEvent) :
    ∀ number ∈ (errands stream events).derivation.underway,
      (of stream events).run.WaitsFor number ∨
        number ∈ (errands stream events).send.broken ∧
          number ∉ (errands stream events).send.underway := by
  intro number underway
  refine (isBroken_of_underway (.inr underway)).imp_right ?_
  rintro ⟨flight, agrees, failure, broken | broken⟩
  · exact ⟨agrees.send.broken failure broken, fun sending =>
      nomatch broken.symm.trans (agrees.send.underway.mp sending)⟩
  · cases (agrees.derivation.underway.mp underway).symm.trans broken

/-- When no line is waited for, everything has ended if nothing is left beside a break. -/
theorem allEnded_iff {stream : Stream} {events : List RunEvent}
    (idle : (of stream events).run.current = none) :
    (errands stream events).AllEnded ↔ (errands stream events).NothingLeft := by
  have free (number : Nat) : ¬ (of stream events).run.WaitsFor number := by
    rintro ⟨line, waits, -⟩
    rw [idle] at waits
    cases waits
  constructor
  · rintro ⟨sends, publications⟩
    rw [Errands.NothingLeft, sends, publications]
    exact ⟨fun _ _ => List.not_mem_nil, fun _ _ => List.not_mem_nil⟩
  · rintro ⟨sends, publications⟩
    constructor
    · refine List.eq_nil_iff_forall_not_mem.mpr fun number underway => ?_
      have broken := (send_beside_break stream events number underway).resolve_left (free number)
      exact sends number broken.1 underway
    · refine List.eq_nil_iff_forall_not_mem.mpr fun number underway => ?_
      have broken :=
        (publication_beside_break stream events number underway).resolve_left (free number)
      exact publications number broken.1 underway

/-- Whenever no line is waited for, so that the next one may enter or the reading may end,
nothing is under way. -/
def OneAtATime (stream : Stream) (events : List RunEvent) : Prop :=
  ∀ earlier, earlier <+: events → (of stream earlier).run.current = none →
    (errands stream earlier).AllEnded

/-- An errand that is under way is one for the line that the reading waits for, or the other errand
of its line has broken off. So one line is dealt with at a time exactly if a break never leaves
the other errand of its line under way when the reading goes on. -/
theorem oneAtATime_iff (stream : Stream) (events : List RunEvent) :
    (∀ number ∈ (errands stream events).send.underway, (of stream events).run.WaitsFor number ∨
      number ∈ (errands stream events).derivation.broken ∧
        number ∉ (errands stream events).derivation.underway) ∧
    (∀ number ∈ (errands stream events).derivation.underway,
      (of stream events).run.WaitsFor number ∨
        number ∈ (errands stream events).send.broken ∧
          number ∉ (errands stream events).send.underway) ∧
    (OneAtATime stream events ↔
      ∀ earlier, earlier <+: events → (of stream earlier).run.current = none →
        (errands stream earlier).NothingLeft) := by
  refine ⟨send_beside_break stream events, publication_beside_break stream events, ?_⟩
  exact forall₃_congr fun earlier _ idle => allEnded_iff idle

theorem unbroken_of_calm (stream : Stream) {events : List RunEvent}
    (calm : ∀ event ∈ events, event.IsCalm) :
    (errands stream events).send.broken = [] ∧
      (errands stream events).derivation.broken = [] := by
  induction events using List.reverseRecOn with
  | nil => exact ⟨rfl, rfl⟩
  | append_singleton events event ih =>
      rw [List.forall_mem_append, List.forall_mem_singleton] at calm
      rw [errands_snoc]
      exact Errands.unbroken_next calm.2 (ih calm.1)

/-- In whatever order the errands end, one line is dealt with at a time if nothing is thrown. -/
theorem oneAtATime_of_calm (stream : Stream) {events : List RunEvent}
    (calm : ∀ event ∈ events, event.IsCalm) : OneAtATime stream events := by
  intro earlier before idle
  obtain ⟨send, derivation⟩ :=
    unbroken_of_calm stream fun event member => calm event (before.subset member)
  rw [allEnded_iff idle, Errands.NothingLeft, send, derivation]
  exact ⟨List.forall_mem_nil _, List.forall_mem_nil _⟩

/-- The send of the first line breaks off while its batch is under way, the second line enters,
and its batch is under way beside that of the first. -/
theorem not_oneAtATime_of_broken_send :
    let stream := Stream.initial (.usual 0) true none
    let thrown : Failure := .fault (.plain "unreachable")
    let events : List RunEvent :=
      [.line r#"{"_tvalide":1,"SINSTS":{"data":9100}}"# none none, .relaySettled 1 (.error thrown),
        .resumed, .line r#"{"_tvalide":1}"# none none]
    (errands stream events).derivation.underway = [1, 2] ∧ ¬ OneAtATime stream events := by
  intro stream thrown events
  refine ⟨by decide +kernel, fun law => ?_⟩
  have ended := law (events.take 3) (List.take_prefix 3 events)
    (Option.isNone_iff_eq_none.mp (by decide +kernel))
  have underway : (errands stream (events.take 3)).derivation.underway = [1] := by
    decide +kernel
  exact List.cons_ne_nil 1 [] (underway.symm.trans ended.2)

end Transcript

end MeterSignals
