/-
# Lines read one after the other

A line is read to its end before the next one enters. What its reading came to then depends
on the stream before it and on how its two legs end, and on nothing else. For a stream
without a fallback whose legs all succeed, the history of lines says everything: which lines
are rejected, which are published and with which signals, and what the broker is given.
-/

import MeterSignals.Proofs.Stream.History

namespace MeterSignals

namespace Flight

@[simp]
theorem join_relay (flight : Flight) : flight.join.relay = flight.relay := by
  simp only [join]
  split
  · rfl
  · split <;> rfl

@[simp]
theorem join_derivation (flight : Flight) : flight.join.derivation = flight.derivation := by
  simp only [join]
  split
  · rfl
  · split <;> rfl

/-- A line both of whose legs have ended, the send to the observer first. -/
def settled (relayed : Bool) (derivation : Derivation) (relay : RelayReply)
    (publish : PublishReply) : Flight :=
  (((start relayed derivation).settleRelay relay).1.settlePublication publish).1

/-- When both legs have ended, the line is done and nothing of it is under way. -/
theorem settled_done (relayed : Bool) (derivation : Derivation) (relay : RelayReply)
    (publish : PublishReply) :
    (settled relayed derivation relay publish).result.isSome ∧
      (settled relayed derivation relay publish).isLanded := by
  cases relayed <;> cases derivation <;> rcases relay with _ | _ | _ <;>
    rcases publish with _ | _ | _ <;> exact ⟨rfl, rfl⟩

/-- The outcome of a line that nothing outside breaks off. -/
theorem settled_result_of_ok (relayed : Bool) (derivation : Derivation) :
    (settled relayed derivation (.ok (.ok ())) (.ok (.ok ()))).result =
      match derivation with
      | .publishing signals => some (.ok (.published signals (.ok ())))
      | .done outcome => some (.ok outcome)
      | .broken failure => some (.error failure) := by
  cases relayed <;> cases derivation <;> rfl

end Flight

/-- A line that enters at `now` and meets with no failure. -/
def Passage.smooth (line : Text) (now : Option Instant) : Passage :=
  ⟨line, now, none, .ok (.ok ()), .ok (.ok ())⟩

namespace Reading

/-- What the line came to, or what broke it off. -/
def outcome (reading : Reading) : Option (Except Failure Outcome) :=
  reading.flight.bind (·.result)

end Reading

namespace Stream

@[simp]
theorem enter_state (stream : Stream) (line : Text) (now : Option Instant)
    (thrown : Option Failure) :
    (stream.enter line now thrown).stream.state = stream.state.next stream.options line := by
  simp only [enter]
  split
  · rfl
  · rfl
  · split <;> rfl

@[simp]
theorem enter_options (stream : Stream) (line : Text) (now : Option Instant)
    (thrown : Option Failure) :
    (stream.enter line now thrown).stream.options = stream.options := by
  simp only [enter]
  split
  · rfl
  · rfl
  · split <;> rfl

@[simp]
theorem enter_relayed (stream : Stream) (line : Text) (now : Option Instant)
    (thrown : Option Failure) :
    (stream.enter line now thrown).stream.relayed = stream.relayed := by
  simp only [enter]
  split
  · rfl
  · rfl
  · split <;> rfl

@[simp]
theorem enter_relay (stream : Stream) (line : Text) (now : Option Instant)
    (thrown : Option Failure) :
    (stream.enter line now thrown).relay =
      if stream.relayed then some (relayedText line) else none := by
  simp only [enter]
  split
  · rfl
  · rfl
  · split <;> rfl

/-- Whatever becomes of a line, it starts on its way with the send to the observer ahead. -/
theorem exists_enter_flight (stream : Stream) (line : Text) (now : Option Instant)
    (thrown : Option Failure) :
    ∃ derivation, (stream.enter line now thrown).flight = .start stream.relayed derivation := by
  simp only [enter]
  split
  · exact ⟨_, rfl⟩
  · exact ⟨_, rfl⟩
  · split <;> exact ⟨_, rfl⟩

/-- A stream without a fallback gets none, and its signals go out as the record has them. -/
theorem enter_of_no_fallback {stream : Stream} (alone : stream.fallback = none) (line : Text)
    (now : Option Instant) (thrown : Option Failure) :
    let entrance := stream.enter line now thrown
    entrance.stream.fallback = none ∧
      match (stream.state.take stream.options line).verdict with
      | .rejected rejection =>
        entrance.flight = .start stream.relayed (.done (.rejected rejection)) ∧
          entrance.batch = none
      | .throttled signals =>
        entrance.flight = .start stream.relayed (.done (.throttled signals)) ∧
          entrance.batch = none
      | .due signals =>
        entrance.flight = .start stream.relayed (.publishing signals) ∧
          entrance.batch = some (signals.batch stream.options.topics) := by
  simp only [enter]
  cases (stream.state.take stream.options line).verdict with
  | rejected rejection => exact ⟨alone, rfl, rfl⟩
  | throttled signals => exact ⟨alone, rfl, rfl⟩
  | due signals => simp only [complete, alone, and_self]

end Stream

namespace StreamRun

variable {run : StreamRun}

/-- A line enters a run that waits for none. -/
theorem step_line_of_idle (idle : run.current = none) (line : Text) (now : Option Instant)
    (thrown : Option Failure) :
    let entrance := run.stream.enter line now thrown
    run.step (.line line now thrown) =
      ⟨⟨entrance.stream, run.count + 1, some (run.count + 1, entrance.flight), run.left⟩,
        entrance.relay, entrance.batch, entrance.asked, entrance.notices⟩ := by
  simp only [step, idle]

/-- A change of the line that the run waits for leaves the earlier lines alone. -/
theorem update_of_current {number : Nat} {flight : Flight}
    (current : run.current = some (number, flight))
    (change : Flight → Flight × List StreamNotice) :
    run.update number change =
      ({ run with current := some (number, (change flight).1) }, (change flight).2) := by
  simp only [update, current, if_true]

/-- The send of the line that the run waits for ends. -/
theorem step_relaySettled_of_current {number : Nat} {flight : Flight}
    (current : run.current = some (number, flight)) (reply : RelayReply) :
    run.step (.relaySettled number reply) =
      ⟨{ run with current := some (number, (flight.settleRelay reply).1) }, none, none, false,
        (flight.settleRelay reply).2.map Notice.stream⟩ := by
  simp only [step, update_of_current current]
  rfl

/-- The publication of the line that the run waits for ends. -/
theorem step_publicationSettled_of_current {number : Nat} {flight : Flight}
    (current : run.current = some (number, flight)) (reply : PublishReply) :
    run.step (.publicationSettled number reply) =
      ⟨{ run with current := some (number, (flight.settlePublication reply).1) }, none, none,
        false, (flight.settlePublication reply).2.map Notice.stream⟩ := by
  simp only [step, update_of_current current]
  rfl

/-- The run goes on when the line that it waits for has landed. -/
theorem step_resumed_of_landed {number : Nat} {flight : Flight}
    (current : run.current = some (number, flight)) (done : flight.result.isSome)
    (landed : flight.isLanded) :
    (run.step .resumed).run = { run with current := none } := by
  obtain ⟨result, found⟩ := Option.isSome_iff_exists.mp done
  simp only [step, current, landed, if_true, found]
  cases result <;> rfl

/-- A line is read by a run that waits for none: it enters, both of its legs end, and the
reading goes on with nothing of it left under way. -/
theorem read_of_idle (idle : run.current = none) (passage : Passage) :
    let entrance := run.stream.enter passage.line passage.now passage.thrown
    (run.read passage).1 = ⟨entrance.stream, run.count + 1, none, run.left⟩ ∧
      (run.read passage).2.batch = entrance.batch ∧
      (run.read passage).2.flight = some
        ((entrance.flight.settleRelay passage.relay).1.settlePublication passage.publish).1 := by
  intro entrance
  obtain ⟨derivation, started⟩ :=
    run.stream.exists_enter_flight passage.line passage.now passage.thrown
  have done := Flight.settled_done run.stream.relayed derivation passage.relay passage.publish
  rw [Flight.settled, ← started] at done
  simp only [read, step_line_of_idle idle]
  rw [step_relaySettled_of_current rfl, step_publicationSettled_of_current rfl]
  refine ⟨?_, rfl, rfl⟩
  rw [step_resumed_of_landed rfl done.1 done.2]

/-- Where a run waits for no line, reading leaves it so. -/
theorem readAll_idle (idle : run.current = none) (passages : List Passage) :
    (run.readAll passages).1.current = none := by
  induction passages generalizing run with
  | nil => exact idle
  | cons passage rest ih =>
      obtain ⟨next, -, -⟩ := read_of_idle idle passage
      simp only [readAll]
      exact ih (by rw [next])

theorem length_readAll (run : StreamRun) (passages : List Passage) :
    (run.readAll passages).2.length = passages.length := by
  induction passages generalizing run with
  | nil => rfl
  | cons passage rest ih =>
      simp only [readAll, List.length_cons]
      rw [ih]

/-- Every passage gives one reading: that of the run which has read the ones before it. -/
theorem readAll_getElem? (run : StreamRun) (passages : List Passage) (i : Nat) :
    (run.readAll passages).2[i]? =
      passages[i]?.map fun passage => ((run.readAll (passages.take i)).1.read passage).2 := by
  induction passages generalizing run i with
  | nil => rfl
  | cons passage rest ih =>
      cases i with
      | zero => rfl
      | succ i =>
          simp only [readAll, List.getElem?_cons_succ, List.take_succ_cons]
          exact ih _ i

theorem readAll_append (run : StreamRun) (earlier later : List Passage) :
    (run.readAll (earlier ++ later)).1 = ((run.readAll earlier).1.readAll later).1 := by
  induction earlier generalizing run with
  | nil => rfl
  | cons passage rest ih =>
      simp only [List.cons_append, readAll]
      exact ih _

/-- However the legs of its lines end and whatever the calendar says, the state of a stream
depends on its lines alone. -/
theorem readAll_state (idle : run.current = none) (passages : List Passage) :
    (run.readAll passages).1.stream.state =
      (passages.map (·.line)).foldl (StreamState.next run.stream.options) run.stream.state := by
  induction passages generalizing run with
  | nil => rfl
  | cons passage rest ih =>
      obtain ⟨next, -, -⟩ := read_of_idle idle passage
      simp only [readAll, List.map_cons, List.foldl_cons]
      rw [ih (by rw [next]), next]
      simp only [Stream.enter_options, Stream.enter_state]

/-- A stream without a fallback keeps its settings, and gets no fallback. -/
theorem readAll_alone (idle : run.current = none) (alone : run.stream.fallback = none)
    (passages : List Passage) :
    let stream := (run.readAll passages).1.stream
    stream.options = run.stream.options ∧ stream.relayed = run.stream.relayed ∧
      stream.fallback = none := by
  induction passages generalizing run with
  | nil => exact ⟨rfl, rfl, alone⟩
  | cons passage rest ih =>
      obtain ⟨next, -, -⟩ := read_of_idle idle passage
      have entered := (Stream.enter_of_no_fallback alone passage.line passage.now
        passage.thrown).1
      have kept := @ih (run.read passage).1 (by rw [next]) (by rw [next]; exact entered)
      simp only [next, Stream.enter_options, Stream.enter_relayed] at kept
      simpa only [readAll, next] using kept

/-- A line of a stream without a fallback, both of whose legs succeed, comes to what the lines
before it decide, and the broker is given what belongs to that. -/
theorem read_of_recalls {run : StreamRun} {options : StreamOptions} {skip : Nat}
    {lines : List Text} (idle : run.current = none) (alone : run.stream.fallback = none)
    (settings : run.stream.options = options) (count : options.skip = .frames skip)
    (recalls : run.stream.state.Recalls options skip lines) {passage : Passage}
    (relay : passage.relay = .ok (.ok ())) (publish : passage.publish = .ok (.ok ())) :
    (run.read passage).2.outcome =
        some (.ok (options.outcomeOf skip lines passage.line)) ∧
      (run.read passage).2.batch =
        (options.outcomeOf skip lines passage.line).batch options.topics := by
  obtain ⟨-, batch, flight⟩ := read_of_idle idle passage
  have entered := (Stream.enter_of_no_fallback alone passage.line passage.now
    passage.thrown).2
  rw [settings, recalls.verdict count passage.line] at entered
  rw [Reading.outcome, flight, batch, relay, publish, StreamOptions.outcomeOf]
  cases read : Record.ofLine options.validity passage.line with
  | error rejection =>
      simp only [read] at entered
      rw [entered.1, entered.2]
      exact ⟨Flight.settled_result_of_ok _ _, rfl⟩
  | ok record =>
      simp only [read] at entered
      by_cases start : (skip + 1) ∣ (options.accepted lines).length
      · simp only [start, if_true] at entered ⊢
        rw [entered.1, entered.2]
        exact ⟨Flight.settled_result_of_ok _ _, rfl⟩
      · simp only [start, if_false] at entered ⊢
        rw [entered.1, entered.2]
        exact ⟨Flight.settled_result_of_ok _ _, rfl⟩

/-- A stream without a fallback whose sends and publications all succeed: the lines before it
decide what a line comes to and what the broker is given for it, and a line that is rejected
leaves the state as it was. -/
theorem readAll_follows_history (options : StreamOptions) {skip : Nat}
    (count : options.skip = .frames skip) (relayed : Bool) (passages : List Passage)
    (succeed : ∀ passage ∈ passages,
      passage.relay = .ok (.ok ()) ∧ passage.publish = .ok (.ok ())) :
    let start := StreamRun.initial (Stream.initial options relayed none)
    (start.readAll passages).2.length = passages.length ∧
      ∀ (i : Nat) (bound : i < passages.length),
        let outcome :=
          options.outcomeOf skip ((passages.take i).map (·.line)) passages[i].line
        ∃ reading, (start.readAll passages).2[i]? = some reading ∧
          reading.outcome = some (.ok outcome) ∧
          reading.batch = outcome.batch options.topics ∧
          ∀ rejection, Record.ofLine options.validity passages[i].line = .error rejection →
            (start.readAll (passages.take (i + 1))).1.stream.state =
              (start.readAll (passages.take i)).1.stream.state := by
  intro start
  refine ⟨length_readAll start passages, fun i bound => ?_⟩
  have idle := @readAll_idle start rfl (passages.take i)
  obtain ⟨kept, -, alone⟩ := @readAll_alone start rfl rfl (passages.take i)
  have settings : (start.readAll (passages.take i)).1.stream.options = options := kept
  have state : (start.readAll (passages.take i)).1.stream.state =
      StreamState.after options ((passages.take i).map (·.line)) := readAll_state rfl _
  have recalls := StreamState.recalls_after count ((passages.take i).map (·.line))
  rw [← state] at recalls
  obtain ⟨relay, publish⟩ := succeed passages[i] (List.getElem_mem bound)
  obtain ⟨came, given⟩ := read_of_recalls idle alone settings count recalls relay publish
  refine ⟨_, ?_, came, given, fun rejection rejected => ?_⟩
  · rw [readAll_getElem?, List.getElem?_eq_getElem bound]
    rfl
  · have one : passages.take (i + 1) = passages.take i ++ [passages[i]] :=
      List.take_succ_eq_append_getElem bound
    rw [one, readAll_append]
    simp only [readAll]
    rw [(read_of_idle idle passages[i]).1, Stream.enter_state, settings, StreamState.next,
      StreamState.take_of_error rejected]

/-- With one line passed over between two that are published, a line that is no document does
not count: the first and the fourth line go out. The reading of the fourth comes down slowly
from that of the first, so the shedding goes on. -/
theorem readAll_four_lines :
    let passages : List Passage :=
      [.smooth r#"{"_tvalide":1,"SINSTS":{"data":9100}}"# none, .smooth r#"{"# none,
        .smooth r#"{"_tvalide":1}"# none,
        .smooth r#"{"_tvalide":1,"SINSTS":{"data":"8000"}}"# none]
    (∀ passage ∈ passages, passage.relay = .ok (.ok ()) ∧ passage.publish = .ok (.ok ())) ∧
      ∃ reading, ((StreamRun.initial (Stream.initial (.usual 1) true none)).readAll
          passages).2[3]? = some reading ∧
        reading.batch = some [⟨"shed", "1"⟩, ⟨"water", "0"⟩, ⟨"peak", "UNKNOWN"⟩,
          ⟨"today", "UNKNOWN"⟩, ⟨"tomorrow", "UNKNOWN"⟩, ⟨"power", "8000"⟩] := by
  intro passages
  have succeed : ∀ passage ∈ passages,
      passage.relay = .ok (.ok ()) ∧ passage.publish = .ok (.ok ()) := by
    simp [passages, Passage.smooth]
  refine ⟨succeed, ?_⟩
  obtain ⟨reading, found, -, given, -⟩ :=
    (readAll_follows_history (.usual 1) rfl true passages succeed).2 3 (by decide)
  exact ⟨reading, found, given.trans (by decide +kernel)⟩

end StreamRun

end MeterSignals
