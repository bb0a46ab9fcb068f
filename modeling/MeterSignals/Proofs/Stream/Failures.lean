/-
# Runs in which things fail

A course is a row of events that can happen over given passages: lines enter in order and
only when no line is waited for, and a leg ends the way its passage says, whenever it does.
In every course the observer gets every line, the broker gets the batches that it would get
if nothing failed, and a line is reported as broken off exactly if one of its legs is.
-/

import MeterSignals.Proofs.Stream.Transcript

namespace MeterSignals

namespace Passage

/-- The passage with two legs that succeed. -/
def succeeding (passage : Passage) : Passage :=
  { passage with relay := .ok (.ok ()), publish := .ok (.ok ()) }

/-- The entrance of the passage. -/
def entering (passage : Passage) : RunEvent := .line passage.line passage.now passage.thrown

/-- Whether the send of the passage breaks off, or its publication if there is one. -/
def breaks (passage : Passage) (submitted : Bool) : Bool :=
  breaksOff passage.relay || (submitted && breaksOff passage.publish)

end Passage

namespace StreamRun

/-- Whether an event can happen next in a run over these passages. -/
def Allows (passages : List Passage) (run : StreamRun) : RunEvent → Prop
  | .line line now thrown =>
    run.current = none ∧
      ∃ passage, passages[run.count]? = some passage ∧ passage.entering = .line line now thrown
  | .relaySettled number reply =>
    ∃ passage, passages[number - 1]? = some passage ∧ passage.relay = reply
  | .publicationSettled number reply =>
    ∃ passage, passages[number - 1]? = some passage ∧ passage.publish = reply
  | _ => True

/-- The passage after those that have entered may enter a run that waits for none. -/
theorem allows_entering {passages : List Passage} {run : StreamRun} {passage : Passage}
    {count : Nat} (idle : run.current.isNone) (entered : run.count = count)
    (found : passages[count]? = some passage) : run.Allows passages passage.entering :=
  ⟨Option.isNone_iff_eq_none.mp idle, passage, entered ▸ found, rfl⟩

/-- The run has read all passages and waits for none of them. -/
def Ended (passages : List Passage) (run : StreamRun) : Prop :=
  run.current = none ∧ passages.length ≤ run.count

end StreamRun

/-- The events can happen one after the other, from a transcript on. -/
def CourseFrom (passages : List Passage) : Transcript → List RunEvent → Prop
  | _, [] => True
  | transcript, event :: events =>
    transcript.run.Allows passages event ∧ CourseFrom passages (transcript.next event) events

/-- The events can happen one after the other in a run over the passages. -/
def Course (passages : List Passage) (stream : Stream) (events : List RunEvent) : Prop :=
  CourseFrom passages (.initial stream) events

/-- Whether a line is to be reported as broken off. -/
def Transcript.fails (transcript : Transcript) (passages : List Passage) (number : Nat) : Bool :=
  passages[number - 1]?.any fun passage => passage.breaks (transcript.submitted number)

namespace Leg

/-- How far the send of a passage can have come. -/
def Fits (passage : Passage) : Leg Unit → Prop
  | .pending => True
  | .done () => breaksOff passage.relay = false
  | .broken _ => breaksOff passage.relay = true

end Leg

namespace Derivation

/-- How far the derivation of a passage can have come. -/
def Fits (passage : Passage) (submitted : Bool) : Derivation → Prop
  | .publishing _ => submitted = true
  | .done _ => (submitted && breaksOff passage.publish) = false
  | .broken _ => (submitted && breaksOff passage.publish) = true

end Derivation

namespace Flight

/-- How far a line can have come whose legs end the way its passage says: it is closed as soon
as it can be, and then with a failure exactly if one of its legs breaks off. -/
structure Fits (passage : Passage) (submitted : Bool) (flight : Flight) : Prop where
  joined : flight.join = flight
  relay : flight.relay.Fits passage
  derivation : flight.derivation.Fits passage submitted
  result : ∀ result, flight.result = some result → breaksOff result = passage.breaks submitted

@[simp]
theorem join_join (flight : Flight) : flight.join.join = flight.join := by
  obtain ⟨relay, derivation, result⟩ := flight
  cases result with
  | some result => rfl
  | none => cases relay <;> cases derivation <;> rfl

/-- Nothing of a line is under way any more when both of its legs have ended. -/
theorem isLanded_settle (flight : Flight) (relay : RelayReply) (publish : PublishReply) :
    ((flight.settleRelay relay).1.settlePublication publish).1.isLanded := by
  obtain ⟨leg, derivation, result⟩ := flight
  cases leg <;> cases derivation <;> rcases relay with _ | _ | _ <;>
    rcases publish with _ | _ | _ <;>
    simp [settleRelay, settlePublication, isLanded]

/-- A line of which nothing is under way is closed if it is closed as soon as it can be. -/
theorem join_isSome_of_landed {flight : Flight} (landed : flight.isLanded) :
    flight.join.result.isSome := by
  obtain ⟨relay, derivation, result⟩ := flight
  cases result with
  | some result => rfl
  | none => cases relay <;> cases derivation <;> first | rfl | cases landed

variable {passage : Passage} {submitted : Bool}

/-- A line that is not closed yet may be closed if its legs fit. -/
theorem fits_join {relay : Leg Unit} {derivation : Derivation}
    (relayFits : relay.Fits passage) (derivationFits : derivation.Fits passage submitted) :
    (join ⟨relay, derivation, none⟩).Fits passage submitted := by
  refine ⟨join_join _, by simpa using relayFits, by simpa using derivationFits, ?_⟩
  intro result closed
  cases relay with
  | pending =>
      cases derivation with
      | broken failure =>
          cases closed
          have broke : (submitted && breaksOff passage.publish) = true := derivationFits
          simp [Passage.breaks, broke]
      | publishing signals => cases closed
      | done outcome => cases closed
  | done =>
      have calm : breaksOff passage.relay = false := relayFits
      cases derivation with
      | broken failure =>
          cases closed
          have broke : (submitted && breaksOff passage.publish) = true := derivationFits
          simp [Passage.breaks, broke]
      | done outcome =>
          cases closed
          have still : (submitted && breaksOff passage.publish) = false := derivationFits
          simp [Passage.breaks, calm, still]
      | publishing signals => cases closed
  | broken failure =>
      have broke : breaksOff passage.relay = true := relayFits
      cases derivation <;> cases closed <;> simp [Passage.breaks, broke]

/-- A line that fits and is not closed keeps fitting when its legs change and still fit. -/
theorem Fits.rejoin {flight : Flight} (fits : flight.Fits passage submitted) {relay : Leg Unit}
    {derivation : Derivation} (relayFits : relay.Fits passage)
    (derivationFits : derivation.Fits passage submitted) :
    (join ⟨relay, derivation, flight.result⟩).Fits passage submitted := by
  cases closed : flight.result with
  | none => exact fits_join relayFits derivationFits
  | some result =>
      exact ⟨rfl, relayFits, derivationFits, fun found same => by
        cases same
        exact fits.result result closed⟩

/-- The send of a line may end the way its passage says. -/
theorem Fits.settleRelay {flight : Flight} (fits : flight.Fits passage submitted) :
    (flight.settleRelay passage.relay).1.Fits passage submitted := by
  unfold Flight.settleRelay
  split
  · next reply => exact fits.rejoin (by rw [Leg.Fits, reply]; rfl) fits.derivation
  · next reply => exact fits.rejoin (by rw [Leg.Fits, reply]; rfl) fits.derivation
  · next reply => exact fits.rejoin (by rw [Leg.Fits, reply]; rfl) fits.derivation
  · exact fits

/-- The publication of a line may end the way its passage says. -/
theorem Fits.settlePublication {flight : Flight} (fits : flight.Fits passage submitted) :
    (flight.settlePublication passage.publish).1.Fits passage submitted := by
  have derivationFits := fits.derivation
  unfold Flight.settlePublication
  split
  · next signals publishing =>
      rw [publishing] at derivationFits
      have given : submitted = true := derivationFits
      split
      · next reply =>
          exact fits.rejoin fits.relay (by rw [Derivation.Fits, given, reply]; rfl)
      · next reply =>
          exact fits.rejoin fits.relay (by rw [Derivation.Fits, given, reply]; rfl)
  · exact fits

/-- When both of its legs have ended, a line that fits is closed. -/
theorem Fits.closed {flight : Flight} (fits : flight.Fits passage submitted) :
    ((flight.settleRelay passage.relay).1.settlePublication
      passage.publish).1.result.isSome := by
  have settled := fits.settleRelay.settlePublication
  have landed := isLanded_settle flight passage.relay passage.publish
  rw [← settled.joined]
  exact join_isSome_of_landed landed

end Flight

/-- A line that enters fits its passage, if the fallback does not throw. -/
theorem Stream.fits_enter {stream : Stream} {passage : Passage}
    (observed : stream.relayed = true)
    (calm : stream.fallback = none ∨ passage.thrown = none) :
    let entrance := stream.enter passage.line passage.now passage.thrown
    entrance.flight.Fits passage entrance.batch.isSome := by
  intro entrance
  have pending : (Leg.pending : Leg Unit).Fits passage := trivial
  rcases Stream.enter_flight_of_calm calm passage.line passage.now with
    ⟨signals, batch, flight, given⟩ | ⟨outcome, flight, given⟩
  · rw [flight, given, observed]
    exact Flight.fits_join pending rfl
  · rw [flight, given, observed]
    exact Flight.fits_join pending rfl

namespace Transcript

/-- What holds of a transcript at every moment of a course, where the fallback throws nothing. -/
structure Sound (passages : List Passage) (transcript : Transcript) : Prop where
  observed : transcript.run.stream.relayed = true
  calm : transcript.run.stream.fallback = none ∨ ∀ passage ∈ passages, passage.thrown = none
  entered : transcript.run.count ≤ passages.length
  relayed : transcript.relayed =
    (passages.take transcript.run.count).map fun passage => relayedText passage.line
  numbered : ∀ batch ∈ transcript.batches, batch.1 ≤ transcript.run.count
  idle : transcript.run.current = none →
    transcript.failures = (List.range' 1 transcript.run.count).filter (transcript.fails passages)
  waiting : ∀ number flight, transcript.run.current = some (number, flight) →
    ∃ earlier passage, number = earlier + 1 ∧ transcript.run.count = number ∧
      passages[earlier]? = some passage ∧
      flight.Fits passage (transcript.submitted number) ∧
      transcript.failures = (List.range' 1 earlier).filter (transcript.fails passages)

variable {passages : List Passage} {transcript : Transcript}

theorem submitted_of_batches {other : Transcript} (same : other.batches = transcript.batches) :
    other.submitted = transcript.submitted := by
  funext number
  rw [submitted, submitted, same]

theorem fails_of_batches {other : Transcript} (same : other.batches = transcript.batches) :
    other.fails passages = transcript.fails passages := by
  funext number
  rw [fails, fails, submitted_of_batches same]

/-- A batch for the next line says nothing about the earlier ones. -/
theorem fails_of_append_batch {other : Transcript} {count number : Nat} {batch : Option Batch}
    (grown : other.batches = transcript.batches ++ batch.toList.map (count + 1, ·))
    (earlier : number ≤ count) :
    other.fails passages number = transcript.fails passages number := by
  have others : (batch.toList.map ((count + 1, ·) : Batch → Nat × Batch)).any
      (fun found => found.1 == number) = false := by
    cases batch with
    | none => rfl
    | some batch => simp; omega
  rw [fails, fails, submitted, submitted, grown, List.any_append, others, Bool.or_false]

/-- The next line is given to the broker if it has a batch. -/
theorem submitted_of_append_batch {other : Transcript} {count : Nat} {batch : Option Batch}
    (grown : other.batches = transcript.batches ++ batch.toList.map (count + 1, ·))
    (numbered : ∀ batch ∈ transcript.batches, batch.1 ≤ count) :
    other.submitted (count + 1) = batch.isSome := by
  have before : transcript.batches.any (fun found => found.1 == count + 1) = false := by
    rw [List.any_eq_false]
    intro found member
    have bound := numbered found member
    simp
    omega
  rw [submitted, grown, List.any_append, before, Bool.false_or]
  cases batch <;> simp

/-- An event that sends nothing leaves all that a transcript says about what was sent. -/
theorem Sound.of_sent {other : Transcript} (sound : transcript.Sound passages)
    (observed : other.run.stream.relayed = true)
    (calm : other.run.stream.fallback = none ∨ ∀ passage ∈ passages, passage.thrown = none)
    (count : other.run.count = transcript.run.count)
    (relayed : other.relayed = transcript.relayed)
    (batches : other.batches = transcript.batches)
    (idle : other.run.current = none → other.failures =
      (List.range' 1 transcript.run.count).filter (transcript.fails passages))
    (waiting : ∀ number flight, other.run.current = some (number, flight) →
      ∃ earlier passage, number = earlier + 1 ∧ transcript.run.count = number ∧
        passages[earlier]? = some passage ∧
        flight.Fits passage (transcript.submitted number) ∧
        other.failures = (List.range' 1 earlier).filter (transcript.fails passages)) :
    other.Sound passages where
  observed := observed
  calm := calm
  entered := count ▸ sound.entered
  relayed := by rw [relayed, count]; exact sound.relayed
  numbered := by rw [batches, count]; exact sound.numbered
  idle := by rw [count, fails_of_batches batches]; exact idle
  waiting := by
    rw [count, fails_of_batches batches, submitted_of_batches batches]
    exact waiting

/-- An event that counts for no progress leaves all that a transcript says about it. -/
theorem Sound.of_progress {other : Transcript} (sound : transcript.Sound passages)
    (same : other.progress = transcript.progress)
    (idle : other.run.current = none → other.failures =
      (List.range' 1 transcript.run.count).filter (transcript.fails passages))
    (waiting : ∀ number flight, other.run.current = some (number, flight) →
      ∃ earlier passage, number = earlier + 1 ∧ transcript.run.count = number ∧
        passages[earlier]? = some passage ∧
        flight.Fits passage (transcript.submitted number) ∧
        other.failures = (List.range' 1 earlier).filter (transcript.fails passages)) :
    other.Sound passages := by
  have stream : other.run.stream = transcript.run.stream := congrArg Progress.stream same
  exact sound.of_sent (by rw [stream]; exact sound.observed) (by rw [stream]; exact sound.calm)
    (congrArg Progress.count same) (congrArg Progress.relayed same)
    (congrArg Progress.batches same) idle waiting

/-- A change of a line that keeps it fitting, and reports no failure, leaves a transcript
sound. -/
theorem Sound.update (sound : transcript.Sound passages) {event : RunEvent} {number : Nat}
    (change : Flight → Flight × List StreamNotice)
    (run : (transcript.next event).run = (transcript.run.update number change).1)
    (silent : (transcript.next event).failures = transcript.failures)
    (progress : (transcript.next event).progress = transcript.progress)
    (fits : ∀ passage submitted flight, passages[number - 1]? = some passage →
      flight.Fits passage submitted → (change flight).1.Fits passage submitted) :
    (transcript.next event).Sound passages := by
  refine sound.of_progress progress ?_ ?_
  · intro idle
    rw [run, StreamRun.update_current, Option.map_eq_none_iff] at idle
    rw [silent, sound.idle idle]
  · intro n flight waiting
    rw [run, StreamRun.update_current, Option.map_eq_some_iff] at waiting
    obtain ⟨⟨n, before⟩, waited, same⟩ := waiting
    cases same
    obtain ⟨earlier, passage, following, count, found, before_fits, failures⟩ :=
      sound.waiting n before waited
    refine ⟨earlier, passage, following, count, found, ?_, silent.trans failures⟩
    split
    · next same =>
        subst same
        refine fits passage _ before ?_ before_fits
        rw [following, Nat.add_sub_cancel]
        exact found
    · exact before_fits

theorem Sound.relaySettled (sound : transcript.Sound passages) {number : Nat}
    {passage : Passage} (found : passages[number - 1]? = some passage) :
    (transcript.next (.relaySettled number passage.relay)).Sound passages := by
  refine sound.update (·.settleRelay passage.relay) rfl
    (failures_next_relaySettled number _) (progress_next_of_not_line rfl) ?_
  intro other submitted flight same fits
  rw [found] at same
  cases same
  exact fits.settleRelay

theorem Sound.publicationSettled (sound : transcript.Sound passages) {number : Nat}
    {passage : Passage} (found : passages[number - 1]? = some passage) :
    (transcript.next (.publicationSettled number passage.publish)).Sound passages := by
  refine sound.update (·.settlePublication passage.publish) rfl
    (failures_next_publicationSettled number _) (progress_next_of_not_line rfl) ?_
  intro other submitted flight same fits
  rw [found] at same
  cases same
  exact fits.settlePublication

/-- The reading goes on: the line it waited for is reported exactly if it broke off. -/
theorem Sound.resumed (sound : transcript.Sound passages) :
    (transcript.next .resumed).Sound passages := by
  have progress : (transcript.next .resumed).progress = transcript.progress :=
    progress_next_of_not_line rfl
  cases current : transcript.run.current with
  | none =>
      have step := transcript.run.step_resumed_of_idle current
      refine sound.of_progress progress ?_ ?_
      · intro idle
        simpa [Transcript.next, Transcript.failures, step] using sound.idle current
      · intro number flight waiting
        simp [Transcript.next, step, current] at waiting
  | some found =>
      obtain ⟨number, flight⟩ := found
      obtain ⟨earlier, passage, rfl, count, found, fits, failures⟩ :=
        sound.waiting number flight current
      rcases transcript.run.step_resumed_of_current _ current with
        ⟨-, step⟩ | ⟨result, left, closed, step⟩
      · refine sound.of_progress progress ?_ ?_
        · intro idle
          simp [Transcript.next, step, current] at idle
        · intro n other waiting
          simp only [Transcript.next, step, current, Option.some.injEq, Prod.mk.injEq] at waiting
          obtain ⟨rfl, rfl⟩ := waiting
          refine ⟨earlier, passage, rfl, count, found, fits, ?_⟩
          simpa [Transcript.next, Transcript.failures, step] using failures
      · refine sound.of_progress progress ?_ ?_
        · intro idle
          have verdict : transcript.fails passages (earlier + 1) = breaksOff result := by
            rw [fits.result result closed, fails, Nat.add_sub_cancel, found]
            rfl
          have reported : (transcript.next .resumed).failures =
              transcript.failures ++ (StreamRun.closing (earlier + 1) result).filterMap
                Notice.failedLine := by
            simp only [Transcript.next, Transcript.failures, step, List.filterMap_append]
          rw [reported, StreamRun.failedLine_closing, failures, count, List.range'_concat,
            List.filter_append, Nat.one_mul, Nat.add_comm 1 earlier, List.filter_cons, verdict,
            List.filter_nil]
        · intro n other waiting
          simp [Transcript.next, step] at waiting

/-- A line enters: it is counted, relayed, and on its way. -/
theorem Sound.line (sound : transcript.Sound passages) (idle : transcript.run.current = none)
    {passage : Passage} (found : passages[transcript.run.count]? = some passage) :
    (transcript.next passage.entering).Sound passages := by
  let entrance := transcript.run.stream.enter passage.line passage.now passage.thrown
  have progress : (transcript.next passage.entering).progress =
      transcript.progress.next passage.entering :=
    progress_next_line idle passage.line passage.now passage.thrown
  have stream : (transcript.next passage.entering).run.stream = entrance.stream :=
    congrArg Progress.stream progress
  have count : (transcript.next passage.entering).run.count = transcript.run.count + 1 :=
    congrArg Progress.count progress
  have relayed : (transcript.next passage.entering).relayed =
      transcript.relayed ++ entrance.relay.toList := congrArg Progress.relayed progress
  have batches : (transcript.next passage.entering).batches =
      transcript.batches ++ entrance.batch.toList.map (transcript.run.count + 1, ·) :=
    congrArg Progress.batches progress
  have current : (transcript.next passage.entering).run.current =
      some (transcript.run.count + 1, entrance.flight) := by
    simp only [Transcript.next, Passage.entering, StreamRun.step_line_of_idle idle]
    rfl
  have failures : (transcript.next passage.entering).failures = transcript.failures :=
    failures_next_line idle passage.line passage.now passage.thrown
  obtain ⟨bound, -⟩ := List.getElem?_eq_some_iff.mp found
  refine ⟨?_, ?_, ?_, ?_, ?_, ?_, ?_⟩
  · rw [stream, Stream.enter_relayed, sound.observed]
  · rw [stream]
    exact sound.calm.imp_left fun alone =>
      (Stream.enter_of_no_fallback alone passage.line passage.now passage.thrown).1
  · rw [count]
    exact bound
  · have given : entrance.relay = some (relayedText passage.line) := by
      simp [entrance, sound.observed]
    rw [relayed, count, sound.relayed, List.take_add_one, List.map_append, found, given]
    rfl
  · intro batch member
    rw [batches, List.mem_append, List.mem_map] at member
    rw [count]
    rcases member with before | ⟨new, -, rfl⟩
    · exact Nat.le_succ_of_le (sound.numbered batch before)
    · exact Nat.le_refl _
  · rw [current]
    exact fun idle => absurd idle (Option.some_ne_none _)
  · intro number flight waiting
    rw [current] at waiting
    cases waiting
    refine ⟨_, passage, rfl, count, found, ?_, ?_⟩
    · rw [submitted_of_append_batch batches sound.numbered]
      exact Stream.fits_enter sound.observed
        (sound.calm.imp_right fun calm => calm passage (List.mem_of_getElem? found))
    · rw [failures, sound.idle idle]
      refine List.filter_congr fun number member => ?_
      rw [List.mem_range'_1] at member
      exact (fails_of_append_batch batches (by omega)).symm

theorem Sound.lookupFinished (sound : transcript.Sound passages) (now : Option Instant)
    (outcome : LookupOutcome) :
    (transcript.next (.lookupFinished now outcome)).Sound passages := by
  obtain ⟨-, relayed, -, absent⟩ := transcript.run.stream.finishLookup_kept now outcome
  have run : (transcript.next (.lookupFinished now outcome)).run =
      { transcript.run with stream := (transcript.run.stream.finishLookup now outcome).1 } := rfl
  have failures := @failures_next_lookupFinished transcript now outcome
  refine sound.of_sent ?_ ?_ rfl (List.append_nil _) (List.append_nil _) ?_ ?_
  · rw [run, relayed, sound.observed]
  · exact sound.calm.imp_left fun alone => by rw [run, absent alone, alone]
  · intro idle
    rw [failures, sound.idle idle]
  · intro number flight waiting
    rw [failures]
    exact sound.waiting number flight waiting

/-- Whatever can happen leaves a transcript sound. -/
theorem Sound.next (sound : transcript.Sound passages) {event : RunEvent}
    (allowed : transcript.run.Allows passages event) :
    (transcript.next event).Sound passages := by
  cases event with
  | line line now thrown =>
      obtain ⟨idle, passage, found, entering⟩ := allowed
      rw [← entering]
      exact sound.line idle found
  | relaySettled number reply =>
      obtain ⟨passage, found, rfl⟩ := allowed
      exact sound.relaySettled found
  | publicationSettled number reply =>
      obtain ⟨passage, found, rfl⟩ := allowed
      exact sound.publicationSettled found
  | resumed => exact sound.resumed
  | lookupFinished now outcome => exact sound.lookupFinished now outcome

theorem sound_initial {stream : Stream} (observed : stream.relayed = true)
    (calm : stream.fallback = none ∨ ∀ passage ∈ passages, passage.thrown = none) :
    (initial stream).Sound passages where
  observed := observed
  calm := calm
  entered := Nat.zero_le _
  relayed := rfl
  numbered := fun _ member => nomatch member
  idle := fun _ => rfl
  waiting := fun _ _ waiting => nomatch waiting

/-- A transcript stays sound as long as a course goes on. -/
theorem Sound.after {events : List RunEvent} (sound : transcript.Sound passages)
    (course : CourseFrom passages transcript events) :
    (transcript.after events).Sound passages := by
  induction events generalizing transcript with
  | nil => exact sound
  | cons event events ih => exact ih (sound.next course.1) course.2

/-- An event that can happen counts for the progress as it does for the run. -/
theorem progress_next {event : RunEvent} (allowed : transcript.run.Allows passages event) :
    (transcript.next event).progress = transcript.progress.next event := by
  cases event with
  | line line now thrown => exact progress_next_line allowed.1 line now thrown
  | relaySettled number reply => exact progress_next_of_not_line rfl
  | publicationSettled number reply => exact progress_next_of_not_line rfl
  | resumed => exact progress_next_of_not_line rfl
  | lookupFinished now outcome => exact progress_next_of_not_line rfl

theorem progress_after {events : List RunEvent} (course : CourseFrom passages transcript events) :
    (transcript.after events).progress = events.foldl Progress.next transcript.progress := by
  induction events generalizing transcript with
  | nil => rfl
  | cons event events ih =>
      rw [List.foldl_cons, ← progress_next course.1]
      exact ih course.2

/-- An event other than a line counts no line. -/
theorem count_next_of_not_line {event : RunEvent} (other : event.isLine = false) :
    (transcript.next event).run.count = transcript.run.count := by
  have progress := congrArg Progress.count (@progress_next_of_not_line transcript event other)
  cases event with
  | line line now thrown => cases other
  | relaySettled number reply => exact progress
  | publicationSettled number reply => exact progress
  | resumed => exact progress
  | lookupFinished now outcome => exact progress

theorem count_next_line (idle : transcript.run.current = none) (line : Text)
    (now : Option Instant) (thrown : Option Failure) :
    (transcript.next (.line line now thrown)).run.count = transcript.run.count + 1 :=
  congrArg Progress.count (progress_next_line idle line now thrown)

/-- The lines that enter in a course are those of the passages, in their order. -/
theorem filter_isLine_of_course {events : List RunEvent}
    (course : CourseFrom passages transcript events) :
    (passages.take transcript.run.count).map Passage.entering ++ events.filter RunEvent.isLine =
      (passages.take (transcript.after events).run.count).map Passage.entering := by
  induction events generalizing transcript with
  | nil => exact List.append_nil _
  | cons event events ih =>
      have rest := ih course.2
      cases event with
      | line line now thrown =>
          obtain ⟨idle, passage, found, entering⟩ := course.1
          rw [count_next_line idle, List.take_add_one, found, List.map_append,
            List.append_assoc] at rest
          rw [Option.toList_some, List.map_singleton, entering] at rest
          exact rest
      | relaySettled number reply => rwa [count_next_of_not_line rfl] at rest
      | publicationSettled number reply => rwa [count_next_of_not_line rfl] at rest
      | resumed => rwa [count_next_of_not_line rfl] at rest
      | lookupFinished now outcome => rwa [count_next_of_not_line rfl] at rest

theorem courseFrom_append {earlier later : List RunEvent} :
    CourseFrom passages transcript (earlier ++ later) ↔
      CourseFrom passages transcript earlier ∧
        CourseFrom passages (transcript.after earlier) later := by
  induction earlier generalizing transcript with
  | nil => exact ⟨fun course => ⟨trivial, course⟩, And.right⟩
  | cons event events ih =>
      rw [List.cons_append, CourseFrom, ih, CourseFrom, and_assoc]
      rfl

/-- The line that is waited for can always be brought to its end. -/
theorem Sound.exists_landing (sound : transcript.Sound passages) :
    ∃ events, CourseFrom passages transcript events ∧
      (transcript.after events).run.current = none ∧
      (transcript.after events).run.count = transcript.run.count ∧
      events.filter RunEvent.reachesStream = [] := by
  cases current : transcript.run.current with
  | none => exact ⟨[], trivial, current, rfl, rfl⟩
  | some found =>
      obtain ⟨number, flight⟩ := found
      obtain ⟨earlier, passage, rfl, count, found, fits, -⟩ :=
        sound.waiting number flight current
      refine ⟨[.relaySettled (earlier + 1) passage.relay,
        .publicationSettled (earlier + 1) passage.publish, .resumed],
        ⟨⟨passage, found, rfl⟩, ⟨passage, found, rfl⟩, trivial, trivial⟩, ?_, ?_, rfl⟩
      · let settled := ((flight.settleRelay passage.relay).1.settlePublication passage.publish).1
        have relay : (transcript.next (.relaySettled (earlier + 1) passage.relay)).run.current =
            some (earlier + 1, (flight.settleRelay passage.relay).1) :=
          congrArg (·.run.current) (StreamRun.step_relaySettled_of_current current _)
        have publication := congrArg (·.run.current)
          (StreamRun.step_publicationSettled_of_current relay passage.publish)
        obtain ⟨result, closed⟩ := Option.isSome_iff_exists.mp fits.closed
        rcases StreamRun.step_resumed_of_current _ _ publication with
          ⟨waiting, -⟩ | ⟨result, left, -, step⟩
        · exact nomatch waiting.symm.trans closed
        · exact congrArg (·.run.current) step
      · change (((transcript.next _).next _).next _).run.count = _
        rw [count_next_of_not_line rfl, count_next_of_not_line rfl, count_next_of_not_line rfl]

/-- A run over passages can always be brought to its end. -/
theorem Sound.exists_end (sound : transcript.Sound passages) :
    ∃ events, CourseFrom passages transcript events ∧
      (transcript.after events).run.Ended passages := by
  induction left : passages.length - transcript.run.count generalizing transcript with
  | zero =>
      obtain ⟨events, course, idle, count, -⟩ := sound.exists_landing
      exact ⟨events, course, idle, by omega⟩
  | succ left ih =>
      obtain ⟨landing, course, idle, count, -⟩ := sound.exists_landing
      have bound : transcript.run.count < passages.length := by omega
      have landed := sound.after course
      let passage := passages[transcript.run.count]
      have found : passages[(transcript.after landing).run.count]? = some passage := by
        rw [count]
        exact List.getElem?_eq_getElem bound
      have counted := count_next_line idle passage.line passage.now passage.thrown
      obtain ⟨rest, going, ended⟩ := ih (landed.line idle found) (by
        rw [Passage.entering, counted]
        omega)
      refine ⟨landing ++ passage.entering :: rest, ?_, ?_⟩
      · exact courseFrom_append.mpr ⟨course, ⟨idle, passage, found, rfl⟩, going⟩
      · rwa [after_append]

/-- To every course there is one in which the same lines and lookups come and nothing fails: each
line is brought to its end before anything else happens. -/
theorem Sound.exists_succeeding {events : List RunEvent} {other : Transcript}
    (sound : other.Sound (passages.map Passage.succeeding)) (idle : other.run.current = none)
    (count : other.run.count = transcript.run.count)
    (course : CourseFrom passages transcript events) :
    ∃ smooth, CourseFrom (passages.map Passage.succeeding) other smooth ∧
      (other.after smooth).run.current = none ∧
      (other.after smooth).run.count = (transcript.after events).run.count ∧
      smooth.filter RunEvent.reachesStream = events.filter RunEvent.reachesStream := by
  induction events generalizing transcript other with
  | nil => exact ⟨[], trivial, idle, count, rfl⟩
  | cons event events ih =>
      obtain ⟨allowed, rest⟩ := course
      cases event with
      | line line now thrown =>
          obtain ⟨waiting, passage, found, entering⟩ := allowed
          have same : passage.succeeding.entering = .line line now thrown := entering
          have found : (passages.map Passage.succeeding)[other.run.count]? =
              some passage.succeeding := by
            rw [count, List.getElem?_map, found]
            rfl
          have entered := sound.line idle found
          obtain ⟨landing, landed, ended, counted, quiet⟩ := entered.exists_landing
          have both : ((other.next passage.succeeding.entering).after landing).run.count =
              (transcript.next (.line line now thrown)).run.count := by
            rw [counted, same, count_next_line idle, count_next_line waiting, count]
          obtain ⟨smooth, going, still, total, alike⟩ :=
            ih (entered.after landed) ended both rest
          refine ⟨passage.succeeding.entering :: (landing ++ smooth),
            ⟨⟨idle, passage.succeeding, found, rfl⟩, courseFrom_append.mpr ⟨landed, going⟩⟩,
            ?_, ?_, ?_⟩
          · change ((other.next _).after (landing ++ smooth)).run.current = none
            rwa [after_append]
          · change ((other.next _).after (landing ++ smooth)).run.count = _
            rwa [after_append]
          · rw [same, List.filter_cons_of_pos rfl, List.filter_append, quiet, List.nil_append,
              alike, List.filter_cons_of_pos rfl]
      | lookupFinished now outcome =>
          have both : (other.next (.lookupFinished now outcome)).run.count =
              (transcript.next (.lookupFinished now outcome)).run.count := by
            rw [count_next_of_not_line rfl, count_next_of_not_line rfl, count]
          obtain ⟨smooth, going, still, total, alike⟩ :=
            ih (sound.lookupFinished now outcome) idle both rest
          refine ⟨.lookupFinished now outcome :: smooth, ⟨trivial, going⟩, still, total, ?_⟩
          rw [List.filter_cons_of_pos rfl, alike, List.filter_cons_of_pos rfl]
      | relaySettled number reply =>
          exact ih sound idle (count.trans (count_next_of_not_line rfl).symm) rest
      | publicationSettled number reply =>
          exact ih sound idle (count.trans (count_next_of_not_line rfl).symm) rest
      | resumed => exact ih sound idle (count.trans (count_next_of_not_line rfl).symm) rest

/-- Two courses over passages with the same lines lead to the same state, and with the same
lookups, or without a fallback, to the same batches. -/
theorem agree_of_courses {stream : Stream} {others : List Passage} {events smooth : List RunEvent}
    (course : Course passages stream events) (other : Course others stream smooth)
    (lines : smooth.filter RunEvent.isLine = events.filter RunEvent.isLine) :
    (of stream smooth).run.stream.state = (of stream events).run.stream.state ∧
      (stream.fallback = none ∨
          smooth.filter RunEvent.reachesStream = events.filter RunEvent.reachesStream →
        (of stream smooth).batches = (of stream events).batches) := by
  have one : (of stream events).progress = events.foldl Progress.next (.initial stream) :=
    progress_after course
  have two : (of stream smooth).progress = smooth.foldl Progress.next (.initial stream) :=
    progress_after other
  constructor
  · calc (of stream smooth).run.stream.state
        = (smooth.foldl Progress.next (.initial stream)).stream.state :=
          congrArg (·.stream.state) two
      _ = ((smooth.filter RunEvent.isLine).foldl Progress.next (.initial stream)).stream.state :=
          (Progress.foldl_next_state smooth rfl rfl).symm
      _ = ((events.filter RunEvent.isLine).foldl Progress.next (.initial stream)).stream.state := by
          rw [lines]
      _ = (events.foldl Progress.next (.initial stream)).stream.state :=
          Progress.foldl_next_state events rfl rfl
      _ = (of stream events).run.stream.state := (congrArg (·.stream.state) one).symm
  · intro alike
    have same : smooth.foldl Progress.next (.initial stream) =
        events.foldl Progress.next (.initial stream) := by
      rcases alike with alone | alike
      · rw [← Progress.foldl_next_lines smooth alone, lines,
          Progress.foldl_next_lines events alone]
      · rw [← Progress.foldl_next_filter smooth, alike, Progress.foldl_next_filter events]
    exact congrArg Progress.batches (two.trans (same.trans one.symm))

/-- In a course that has ended all passages have entered. -/
theorem Sound.count_of_ended (sound : transcript.Sound passages)
    (ended : transcript.run.Ended passages) : transcript.run.count = passages.length :=
  Nat.le_antisymm sound.entered ended.2

theorem filter_isLine_of_ended {stream : Stream} {events : List RunEvent}
    (course : Course passages stream events)
    (count : (of stream events).run.count = passages.length) :
    events.filter RunEvent.isLine = passages.map Passage.entering := by
  have lines := filter_isLine_of_course course
  rwa [show ((initial stream).after events).run.count = passages.length from count,
    List.take_length] at lines

end Transcript

end MeterSignals
