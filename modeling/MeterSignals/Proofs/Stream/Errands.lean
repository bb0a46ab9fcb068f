/-
# Errands of lines

Two errands are run for a line: it is sent to the observer, and its batch is published. Which of
them are under way, and which have broken off, can be told from what goes out and what comes back,
without a look at the lines of a run. An errand begins when it goes out and ends with the first
reply to it, whether the reading still waits for its line or not. It is with the two legs of a
line as its errands say.
-/

import MeterSignals.Proofs.Stream.Observation

namespace MeterSignals

/-- The errands of one kind: the numbers of the lines for which one is under way, and of those for
which one has broken off. -/
structure Errand where
  underway : List Nat
  broken : List Nat

/-- The errands of a run. The derivation of a line is under way as long as its batch is. -/
structure Errands where
  send : Errand
  derivation : Errand

/-- How a leg is after a reply. -/
def legOf {α : Type} : Except Failure α → Leg Unit
  | .ok _ => .done ()
  | .error failure => .broken failure

namespace Leg

/-- What an end makes of a leg: a leg that has ended stays as it is. -/
def settle : Leg Unit → Leg Unit → Leg Unit
  | .pending, ended => ended
  | leg, _ => leg

theorem settle_of_ended {leg : Leg Unit} (ended : leg ≠ .pending) (other : Leg Unit) :
    leg.settle other = leg := by
  cases leg with
  | pending => exact absurd rfl ended
  | done result => rfl
  | broken failure => rfl

theorem legOf_ne_pending {α : Type} (reply : Except Failure α) : legOf reply ≠ .pending := by
  cases reply <;> exact nofun

end Leg

/-- How far the derivation is, without its signals. -/
def Derivation.leg : Derivation → Leg Unit
  | .publishing _ => .pending
  | .done _ => .done ()
  | .broken failure => .broken failure

namespace Errand

/-- No errand has been begun. -/
def initial : Errand := ⟨[], []⟩

/-- An errand for a line goes out, or breaks off before it does. -/
def begin (errand : Errand) (number : Nat) (sent broke : Bool) : Errand :=
  ⟨errand.underway ++ if sent then [number] else [],
    errand.broken ++ if broke then [number] else []⟩

/-- An errand for a line ends if it is under way. -/
def settle (errand : Errand) (number : Nat) (broke : Bool) : Errand :=
  if number ∈ errand.underway then
    ⟨errand.underway.filter (· ≠ number), errand.broken ++ if broke then [number] else []⟩
  else errand

/-- It is with a leg of the line as the errand says. -/
structure Fits (errand : Errand) (number : Nat) (leg : Leg Unit) : Prop where
  underway : number ∈ errand.underway ↔ leg = .pending
  broken : ∀ failure, leg = .broken failure → number ∈ errand.broken

/-- What one errand says of a line, a later one says as well. -/
structure Keeps (errand later : Errand) (number : Nat) : Prop where
  underway : number ∈ later.underway ↔ number ∈ errand.underway
  broken : number ∈ errand.broken → number ∈ later.broken

variable {errand later : Errand} {number : Nat}

theorem Keeps.refl : errand.Keeps errand number := ⟨Iff.rfl, id⟩

theorem Fits.of_keeps {leg : Leg Unit} (fits : errand.Fits number leg)
    (keeps : errand.Keeps later number) : later.Fits number leg :=
  ⟨keeps.underway.trans fits.underway, fun failure same => keeps.broken (fits.broken failure same)⟩

theorem begin_nothing : errand.begin number false false = errand := by
  rw [begin, if_neg Bool.false_ne_true, List.append_nil, List.append_nil]

theorem keeps_begin {other : Nat} (differs : number ≠ other) (sent broke : Bool) :
    errand.Keeps (errand.begin other sent broke) number := by
  constructor <;> cases sent <;> cases broke <;> simp [begin, differs]

theorem keeps_settle {other : Nat} (differs : number ≠ other) (broke : Bool) :
    errand.Keeps (errand.settle other broke) number := by
  rw [settle]
  split
  · constructor <;> cases broke <;> simp [differs]
  · exact Keeps.refl

/-- An end brings nothing under way. -/
theorem underway_settle_subset (broke : Bool) :
    (errand.settle number broke).underway ⊆ errand.underway := by
  rw [settle]
  split
  · exact List.filter_sublist.subset
  · exact List.Subset.refl _

theorem broken_settle (ended : errand.broken = []) :
    (errand.settle number false).broken = [] := by
  rw [settle]
  split
  · rw [ended]
    rfl
  · exact ended

/-- The first reply ends the errand and the leg. -/
theorem Fits.settle {α : Type} {leg : Leg Unit} (fits : errand.Fits number leg)
    (reply : Except Failure α) :
    (errand.settle number (breaksOff reply)).Fits number (leg.settle (legOf reply)) := by
  by_cases pending : leg = .pending
  · rw [Errand.settle, if_pos (fits.underway.mpr pending), pending]
    constructor
    · exact iff_of_false (by simp) (Leg.legOf_ne_pending reply)
    · intro failure broken
      cases reply with
      | ok value => cases broken
      | error thrown => exact List.mem_append_right _ List.mem_cons_self
  · rw [Errand.settle, if_neg fun underway => pending (fits.underway.mp underway),
      Leg.settle_of_ended pending]
    exact fits

/-- A leg that begins with its errand, if no earlier one was for the same line. -/
theorem Fits.begin {leg : Leg Unit} {sent broke : Bool} (new : number ∉ errand.underway)
    (pending : sent = true ↔ leg = .pending)
    (broken : ∀ failure, leg = .broken failure → broke = true) :
    (errand.begin number sent broke).Fits number leg := by
  constructor
  · rw [← pending]
    cases sent <;> simp [Errand.begin, new]
  · intro failure same
    rw [Errand.begin, broken failure same]
    exact List.mem_append_right _ List.mem_cons_self

end Errand

namespace Flight

variable {flight : Flight}

theorem settleRelay_of_pending (pending : flight.relay = .pending) (reply : RelayReply) :
    (flight.settleRelay reply).1 = join { flight with relay := legOf reply } := by
  rcases reply with failure | _ | _ <;> simp [settleRelay, pending, legOf]

theorem settleRelay_of_ended (ended : flight.relay ≠ .pending) (reply : RelayReply) :
    (flight.settleRelay reply).1 = flight := by
  unfold settleRelay
  split <;> first | rfl | exact absurd ‹_› ended

theorem settlePublication_of_pending (pending : flight.derivation.leg = .pending)
    (reply : PublishReply) :
    ∃ derivation, (flight.settlePublication reply).1 = join { flight with derivation } ∧
      derivation.leg = legOf reply := by
  cases publishing : flight.derivation with
  | publishing signals =>
      cases reply <;> simp only [settlePublication, publishing] <;> exact ⟨_, rfl, rfl⟩
  | done outcome => simp [publishing, Derivation.leg] at pending
  | broken failure => simp [publishing, Derivation.leg] at pending

theorem settlePublication_of_ended (ended : flight.derivation.leg ≠ .pending)
    (reply : PublishReply) : (flight.settlePublication reply).1 = flight := by
  unfold settlePublication
  split
  · next publishing => exact absurd (by rw [publishing]; rfl) ended
  · rfl

theorem legs_settleRelay (flight : Flight) (reply : RelayReply) :
    (flight.settleRelay reply).1.relay = flight.relay.settle (legOf reply) ∧
      (flight.settleRelay reply).1.derivation.leg = flight.derivation.leg := by
  by_cases pending : flight.relay = .pending
  · rw [settleRelay_of_pending pending, join_relay, join_derivation, pending]
    exact ⟨rfl, rfl⟩
  · rw [settleRelay_of_ended pending, Leg.settle_of_ended pending]
    exact ⟨rfl, rfl⟩

theorem legs_settlePublication (flight : Flight) (reply : PublishReply) :
    (flight.settlePublication reply).1.relay = flight.relay ∧
      (flight.settlePublication reply).1.derivation.leg =
        flight.derivation.leg.settle (legOf reply) := by
  by_cases pending : flight.derivation.leg = .pending
  · obtain ⟨derivation, settled, leg⟩ := settlePublication_of_pending pending reply
    rw [settled, join_relay, join_derivation, leg, pending]
    exact ⟨rfl, rfl⟩
  · rw [settlePublication_of_ended pending, Leg.settle_of_ended pending]
    exact ⟨rfl, rfl⟩

theorem isLanded_iff :
    flight.isLanded = true ↔ flight.relay ≠ .pending ∧ flight.derivation.leg ≠ .pending := by
  obtain ⟨relay, derivation, result⟩ := flight
  cases relay <;> cases derivation <;> simp [isLanded, Derivation.leg]

/-- One of the legs has broken off. -/
def IsBroken (flight : Flight) : Prop :=
  ∃ failure, flight.relay = .broken failure ∨ flight.derivation.leg = .broken failure

/-- A line is closed only if both legs have ended or one has broken off. -/
def ClosesInTime (flight : Flight) : Prop :=
  flight.result.isSome = true → flight.isLanded = true ∨ flight.IsBroken

theorem ClosesInTime.join (inTime : flight.ClosesInTime) : flight.join.ClosesInTime := by
  obtain ⟨relay, derivation, result⟩ := flight
  cases result with
  | some result => exact inTime
  | none =>
      intro closed
      cases relay with
      | broken failure => cases derivation <;> exact .inr ⟨failure, .inl rfl⟩
      | pending =>
          cases derivation with
          | broken failure => exact .inr ⟨failure, .inr rfl⟩
          | publishing signals => cases closed
          | done outcome => cases closed
      | done =>
          cases derivation with
          | broken failure => exact .inl rfl
          | publishing signals => cases closed
          | done outcome => exact .inl rfl

theorem ClosesInTime.settleRelay (inTime : flight.ClosesInTime) (reply : RelayReply) :
    (flight.settleRelay reply).1.ClosesInTime := by
  by_cases pending : flight.relay = .pending
  · rw [settleRelay_of_pending pending]
    refine ClosesInTime.join fun closed => .inr ?_
    rcases inTime closed with landed | ⟨failure, broken | broken⟩
    · exact absurd pending (isLanded_iff.mp landed).1
    · cases pending.symm.trans broken
    · exact ⟨failure, .inr broken⟩
  · rwa [settleRelay_of_ended pending]

theorem ClosesInTime.settlePublication (inTime : flight.ClosesInTime) (reply : PublishReply) :
    (flight.settlePublication reply).1.ClosesInTime := by
  by_cases pending : flight.derivation.leg = .pending
  · obtain ⟨derivation, settled, -⟩ := settlePublication_of_pending pending reply
    rw [settled]
    refine ClosesInTime.join fun closed => .inr ?_
    rcases inTime closed with landed | ⟨failure, broken | broken⟩
    · exact absurd pending (isLanded_iff.mp landed).2
    · exact ⟨failure, .inl broken⟩
    · cases pending.symm.trans broken
  · rwa [settlePublication_of_ended pending]

/-- A line stays closed. -/
theorem isSome_join (closed : flight.result.isSome = true) : flight.join.result.isSome = true := by
  obtain ⟨result, done⟩ := Option.isSome_iff_exists.mp closed
  rw [join, done]
  exact closed

theorem isSome_settleRelay (closed : flight.result.isSome = true) (reply : RelayReply) :
    (flight.settleRelay reply).1.result.isSome = true := by
  by_cases pending : flight.relay = .pending
  · rw [settleRelay_of_pending pending]
    exact isSome_join closed
  · rwa [settleRelay_of_ended pending]

theorem isSome_settlePublication (closed : flight.result.isSome = true) (reply : PublishReply) :
    (flight.settlePublication reply).1.result.isSome = true := by
  by_cases pending : flight.derivation.leg = .pending
  · obtain ⟨derivation, settled, -⟩ := settlePublication_of_pending pending reply
    rw [settled]
    exact isSome_join closed
  · rwa [settlePublication_of_ended pending]

/-- It is with both legs of the line as the errands say. -/
structure Agrees (flight : Flight) (errands : Errands) (number : Nat) : Prop where
  send : errands.send.Fits number flight.relay
  derivation : errands.derivation.Fits number flight.derivation.leg
  inTime : flight.ClosesInTime

namespace Agrees

variable {errands : Errands} {number : Nat}

/-- A line of which something is under way has not landed. -/
theorem isLanded_eq_false (agrees : flight.Agrees errands number)
    (underway : number ∈ errands.send.underway ∨ number ∈ errands.derivation.underway) :
    flight.isLanded = false := by
  refine Bool.eq_false_iff.mpr fun landed => ?_
  obtain ⟨relay, derivation⟩ := isLanded_iff.mp landed
  exact underway.elim (fun sent => relay (agrees.send.underway.mp sent))
    fun sent => derivation (agrees.derivation.underway.mp sent)

theorem settleRelay (agrees : flight.Agrees errands number) (reply : RelayReply) :
    (flight.settleRelay reply).1.Agrees
      { errands with send := errands.send.settle number (breaksOff reply) } number := by
  obtain ⟨relay, derivation⟩ := legs_settleRelay flight reply
  exact ⟨relay ▸ agrees.send.settle reply, derivation ▸ agrees.derivation,
    agrees.inTime.settleRelay reply⟩

theorem settlePublication (agrees : flight.Agrees errands number) (reply : PublishReply) :
    (flight.settlePublication reply).1.Agrees
      { errands with derivation := errands.derivation.settle number (breaksOff reply) }
      number := by
  obtain ⟨relay, derivation⟩ := legs_settlePublication flight reply
  exact ⟨relay ▸ agrees.send, derivation ▸ agrees.derivation.settle reply,
    agrees.inTime.settlePublication reply⟩

theorem of_keeps {later : Errands} (agrees : flight.Agrees errands number)
    (send : errands.send.Keeps later.send number)
    (derivation : errands.derivation.Keeps later.derivation number) :
    flight.Agrees later number :=
  ⟨agrees.send.of_keeps send, agrees.derivation.of_keeps derivation, agrees.inTime⟩

/-- A line that starts agrees with errands that fit its two legs. -/
theorem start {relayed : Bool} {derivation : Derivation}
    (send : errands.send.Fits number (if relayed then .pending else .done ()))
    (fits : errands.derivation.Fits number derivation.leg) :
    (Flight.start relayed derivation).Agrees errands number := by
  refine ⟨?_, ?_, ClosesInTime.join nofun⟩
  · rw [Flight.start, join_relay]
    exact send
  · rw [Flight.start, join_derivation]
    exact fits

end Agrees

end Flight

end MeterSignals
