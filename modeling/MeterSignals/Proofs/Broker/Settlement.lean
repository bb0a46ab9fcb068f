/-
# What becomes of a batch

The messages of a batch are handed over one after the other, and then all of them are waited for.
Two kinds of failure meet here. One that is thrown ends the handing over at once, and with it the
batch: nobody waits for the messages before it, and their refusals are no part of the result.
Without such a failure all messages are on their way, and the waiting ends with the refusal that
comes first, or with the last message. Which refusal that is is a matter of time and not of the
order of the messages, which counts only for refusals that come together. Whatever happens, the
connection stays as it was.
-/

import Mathlib.Data.List.Sigma
import Mathlib.Data.List.TakeDrop
import MeterSignals.Gateway.Basic
import MeterSignals.Proofs.Broker.Delivery
import MeterSignals.Proofs.Broker.Session

namespace MeterSignals

namespace Acceptance

/-- What handing the message over throws. -/
def thrown? : Acceptance → Option Failure
  | threw failure => some failure
  | _ => none

/-- What the message is refused with, after it has been handed over. -/
def refusal? : Acceptance → Option Failure
  | rejected failure _ => some failure
  | _ => none

/-- When the message is refused. -/
def moment? : Acceptance → Option ℕ
  | rejected _ moment => some moment
  | _ => none

/-- Of two messages, each with its place in the batch, the first is not refused after the second:
its refusal comes earlier, or together with the other and before it in the batch. When a message
is accepted says nothing about that. -/
def ComesBefore (first second : Acceptance × ℕ) : Prop :=
  ∀ moment ∈ first.1.moment?, ∀ moment' ∈ second.1.moment?,
    moment < moment' ∨ moment = moment' ∧ first.2 < second.2

theorem thrown?_eq_none_iff {acceptance : Acceptance} :
    acceptance.thrown? = none ↔ acceptance.throws = false := by
  cases acceptance <;> simp [thrown?, throws]

theorem refusal?_eq_some_iff {acceptance : Acceptance} {failure : Failure} :
    acceptance.refusal? = some failure ↔ ∃ moment, acceptance = rejected failure moment := by
  cases acceptance <;> simp [refusal?]

theorem mem_moment?_iff {acceptance : Acceptance} {moment : ℕ} :
    moment ∈ acceptance.moment? ↔ ∃ failure, acceptance = rejected failure moment := by
  cases acceptance <;> simp [moment?]

theorem eq_accepted_iff {acceptance : Acceptance} :
    acceptance = accepted ↔ acceptance.thrown? = none ∧ acceptance.refusal? = none := by
  cases acceptance <;> simp [thrown?, refusal?]

/-- In the order of time, the refusal that is met first comes before all others. -/
theorem comesBefore_of_first {first other : Acceptance × ℕ} {before after : List (Acceptance × ℕ)}
    (calm : ∀ entry ∈ before, entry.1.refusal? = none)
    (ordered : (before ++ first :: after).Pairwise ComesBefore)
    (member : other ∈ before ++ first :: after) (apart : other ≠ first) :
    ComesBefore first other := by
  rcases List.mem_append.mp member with early | late
  · intro moment _ moment' refused
    obtain ⟨failure, refused⟩ := mem_moment?_iff.mp refused
    cases refused ▸ calm other early
  · have late := (List.mem_cons.mp late).resolve_left apart
    exact List.rel_of_pairwise_cons (List.pairwise_append.mp ordered).2.1 late

end Acceptance

/-- How far the waiting for the messages of a batch has come. -/
inductive Awaiting
  /-- So many messages have been neither accepted nor refused. -/
  | pending (count : ℕ)
  /-- Nothing is waited for any more. -/
  | ended (refusal : Option Failure)

namespace Awaiting

open Acceptance (refusal?)

/-- So many messages are waited for, if there are any. -/
def start (count : ℕ) : Awaiting := if count = 0 then ended none else pending count

/-- A message is accepted or refused. What comes after the end is not heard of. -/
def settle : Awaiting → Acceptance → Awaiting
  | ended refusal, _ => ended refusal
  | pending count, acceptance =>
    match acceptance.refusal? with
    | some failure => ended (some failure)
    | none => start (count - 1)

theorem settle_start (count : ℕ) (acceptance : Acceptance) :
    (start (count + 1)).settle acceptance =
      match acceptance.refusal? with
      | some failure => ended (some failure)
      | none => start count := rfl

theorem foldl_settle_ended (refusal : Option Failure) (settled : List Acceptance) :
    settled.foldl settle (ended refusal) = ended refusal := by
  induction settled with
  | nil => rfl
  | cons acceptance settled ih => exact ih

/-- The waiting goes on for what is not settled yet, until something is refused. -/
theorem foldl_settle_start (settled : List Acceptance) (more : ℕ) :
    settled.foldl settle (start (settled.length + more)) =
      match settled.findSome? refusal? with
      | some failure => ended (some failure)
      | none => start more := by
  induction settled with
  | nil => rw [List.length_nil, Nat.zero_add]; rfl
  | cons acceptance settled ih =>
      rw [List.length_cons, Nat.add_right_comm, List.foldl_cons, settle_start,
        List.findSome?_cons]
      cases acceptance.refusal? with
      | some failure => exact foldl_settle_ended _ settled
      | none => exact ih

/-- When all messages are settled, the waiting is over with the first refusal there was. -/
theorem foldl_settle (settled : List Acceptance) :
    settled.foldl settle (start settled.length) = ended (settled.findSome? refusal?) := by
  have run := foldl_settle_start settled 0
  rw [Nat.add_zero] at run
  rw [run]
  cases settled.findSome? refusal? <;> rfl

end Awaiting

namespace Broker

open Acceptance (thrown? refusal? ComesBefore)

section Refusals

variable {given : List Acceptance} {failure : Failure} {moment : ℕ}

/-- A refusal is looked for where there is one, and what is found is one of them. -/
theorem mem_of_firstRefusal? (found : firstRefusal? given = some (failure, moment)) :
    .rejected failure moment ∈ given := by
  induction given with
  | nil => cases found
  | cons acceptance given ih =>
      cases acceptance with
      | accepted => exact List.mem_cons_of_mem _ (ih found)
      | threw thrown => exact List.mem_cons_of_mem _ (ih found)
      | rejected other moment' =>
          rw [firstRefusal?] at found
          cases later : firstRefusal? given with
          | none =>
              rw [later] at found
              cases found
              exact List.mem_cons_self
          | some refusal =>
              rw [later] at found
              dsimp only at found
              split at found
              · exact List.mem_cons_of_mem _ (ih (later.trans found))
              · cases found
                exact List.mem_cons_self

/-- None is found exactly if there is none. -/
theorem firstRefusal?_eq_none_iff :
    firstRefusal? given = none ↔ ∀ acceptance ∈ given, acceptance.refusal? = none := by
  induction given with
  | nil => exact iff_of_true rfl (List.forall_mem_nil _)
  | cons acceptance given ih =>
      rw [List.forall_mem_cons]
      cases acceptance with
      | accepted => exact ih.trans (and_iff_right rfl).symm
      | threw thrown => exact ih.trans (and_iff_right rfl).symm
      | rejected failure moment =>
          refine iff_of_false (fun none => ?_) (fun calm => nomatch calm.1)
          rw [firstRefusal?] at none
          split at none
          · split at none <;> cases none
          · cases none

/-- The refusal before which none comes, and with which only later messages are refused, is the
first one. -/
theorem firstRefusal?_append {earlier later : List Acceptance}
    (before : ∀ acceptance ∈ earlier, ∀ other ∈ acceptance.moment?, moment < other)
    (after : ∀ acceptance ∈ later, ∀ other ∈ acceptance.moment?, moment ≤ other) :
    firstRefusal? (earlier ++ .rejected failure moment :: later) = some (failure, moment) := by
  induction earlier with
  | nil =>
      rw [List.nil_append, firstRefusal?]
      cases found : firstRefusal? later with
      | none => rfl
      | some refusal =>
          have late : moment ≤ refusal.2 := after _ (mem_of_firstRefusal? found) _ rfl
          exact if_neg (Nat.not_lt.mpr late)
  | cons acceptance earlier ih =>
      obtain ⟨first, rest⟩ := List.forall_mem_cons.mp before
      cases acceptance with
      | accepted => exact ih rest
      | threw thrown => exact ih rest
      | rejected other moment' =>
          rw [List.cons_append, firstRefusal?, ih rest]
          exact if_pos (first moment' rfl)

/-- However the messages of a batch are settled, that can be told in the order of time. -/
theorem exists_chronological (given : List Acceptance) :
    ∃ settled : List (Acceptance × ℕ),
      settled.Perm given.zipIdx ∧ settled.Pairwise ComesBefore := by
  let le (first second : Acceptance) : Bool := first.moment?.getD 0 ≤ second.moment?.getD 0
  have trans (a b c : Acceptance) (ab : le a b = true) (bc : le b c = true) : le a c = true :=
    decide_eq_true (Nat.le_trans (of_decide_eq_true ab) (of_decide_eq_true bc))
  have total (a b : Acceptance) : (le a b || le b a) = true := by
    simpa [le] using Nat.le_total _ _
  let settled := given.zipIdx.mergeSort (List.zipIdxLE le)
  have all : settled.Perm given.zipIdx := List.mergeSort_perm ..
  have sorted : settled.Pairwise (List.zipIdxLE le · ·) :=
    List.pairwise_mergeSort (List.zipIdxLE_trans trans) (List.zipIdxLE_total total) given.zipIdx
  have distinct : settled.Pairwise (·.2 ≠ ·.2) :=
    List.pairwise_map.mp ((List.nodup_zipIdx_map_snd given).perm (all.symm.map Prod.snd))
  refine ⟨settled, all, (sorted.and distinct).imp ?_⟩
  rintro a b ⟨ordered, apart⟩ moment refused moment' refused'
  have earlier : le a.1 b.1 = decide (moment ≤ moment') := by
    simp only [le, Option.mem_def.mp refused, Option.mem_def.mp refused', Option.getD_some]
  have later : le b.1 a.1 = decide (moment' ≤ moment) := by
    simp only [le, Option.mem_def.mp refused, Option.mem_def.mp refused', Option.getD_some]
  rw [List.zipIdxLE, earlier, later] at ordered
  grind

/-- Told in the order of time, the refusal that is met first is the one that comes first. -/
theorem findSome?_of_chronological {settled : List (Acceptance × ℕ)}
    (all : settled.Perm given.zipIdx) (ordered : settled.Pairwise ComesBefore) :
    (settled.map Prod.fst).findSome? refusal? = (firstRefusal? given).map Prod.fst := by
  rw [List.findSome?_map]
  cases found : settled.findSome? (refusal? ∘ Prod.fst) with
  | none =>
      rw [firstRefusal?_eq_none_iff.mpr]
      · rfl
      · intro acceptance member
        obtain ⟨place, entry⟩ := List.mem_iff_getElem?.mp member
        exact List.findSome?_eq_none_iff.mp found (acceptance, place)
          (all.mem_iff.mpr (List.mem_zipIdx_iff_getElem?.mpr entry))
  | some failure =>
      obtain ⟨before, ⟨acceptance, place⟩, after, rfl, refused, calm⟩ :=
        List.findSome?_eq_some_iff.mp found
      obtain ⟨moment, rfl⟩ := Acceptance.refusal?_eq_some_iff.mp refused
      have entry : given[place]? = some (.rejected failure moment) :=
        List.mem_zipIdx_iff_getElem?.mp (all.mem_iff.mp List.mem_append_cons_self)
      have earliest {other : Acceptance} {place' : ℕ} (entry' : given[place']? = some other)
          (apart : place' ≠ place) :
          Acceptance.ComesBefore (.rejected failure moment, place) (other, place') := by
        have member : (other, place') ∈ _ :=
          all.mem_iff.mpr (List.mem_zipIdx_iff_getElem?.mpr entry')
        exact Acceptance.comesBefore_of_first calm ordered member
          fun same => apart (congrArg Prod.snd same)
      obtain ⟨bound, entry⟩ := List.getElem?_eq_some_iff.mp entry
      have parts :
          given = given.take place ++ .rejected failure moment :: given.drop (place + 1) := by
        rw [← entry, ← List.drop_eq_getElem_cons bound, List.take_append_drop]
      rw [parts, firstRefusal?_append]
      · rfl
      · intro other member time late
        obtain ⟨place', foremost, entry'⟩ := List.mem_take_iff_getElem.mp member
        have early := earliest (List.getElem?_eq_some_iff.mpr ⟨_, entry'⟩) (by omega) _ rfl _ late
        omega
      · intro other member time late
        obtain ⟨more, hindmost, entry'⟩ := List.mem_drop_iff_getElem.mp member
        have early := earliest (List.getElem?_eq_some_iff.mpr ⟨_, entry'⟩) (by omega) _ rfl _ late
        omega

end Refusals

variable {γ : Type} {broker : Broker γ} {client : BrokerClient}

/-- What the client does with each message of a batch. -/
def answers (batch : Batch) (acceptances : List Acceptance) : List Acceptance :=
  acceptances.takeD batch.length .accepted

/-- The result of a batch, by what stopped it. -/
def resultOf (batch : Batch) : Option Failure → Except PublishError Unit
  | none => .ok ()
  | some failure =>
    .error (.publishFailed failure.toFault.message (batch.map Message.topic)
      (some (.fault failure.toFault)))

theorem length_answers (batch : Batch) (acceptances : List Acceptance) :
    (answers batch acceptances).length = batch.length :=
  List.takeD_length ..

/-- Every pattern with something for each message is possible. -/
theorem answers_eq_self {batch : Batch} {given : List Acceptance}
    (each : given.length = batch.length) : answers batch given = given := by
  rw [answers, ← each, List.takeD_eq_take _ (Nat.le_refl _), List.take_length]

theorem resultOf_eq_ok_iff {batch : Batch} {stopped : Option Failure} :
    resultOf batch stopped = .ok () ↔ stopped = none := by
  cases stopped <;> simp [resultOf]

/-- What is not said of a message is that it is accepted, and whoever passes over what is accepted
finds the same without it. -/
theorem look_answers {β : Type} (look : List Acceptance → β)
    (passes : ∀ rest, look (.accepted :: rest) = look rest)
    (goesOn : ∀ acceptance rest rest', look rest = look rest' →
      look (acceptance :: rest) = look (acceptance :: rest'))
    (batch : Batch) (acceptances : List Acceptance) :
    look (answers batch acceptances) = look (acceptances.take batch.length) := by
  rw [answers]
  induction batch generalizing acceptances with
  | nil => rw [List.length_nil, List.takeD_zero, List.take_zero]
  | cons message batch ih =>
      rw [List.length_cons, List.takeD_succ]
      cases acceptances with
      | nil => rw [List.head?_nil, Option.getD_none, passes, List.tail_nil, ih, List.take_nil,
          List.take_nil]
      | cons acceptance acceptances => exact goesOn acceptance _ _ (ih acceptances)

theorem failureOf_take (batch : Batch) (acceptances : List Acceptance) :
    failureOf (acceptances.take batch.length) =
      ((answers batch acceptances).findSome? thrown?).or
        ((firstRefusal? (answers batch acceptances)).map Prod.fst) := by
  rw [look_answers (List.findSome? thrown?) (fun _ => rfl), look_answers firstRefusal? fun _ => rfl]
  · rfl
  · intro acceptance rest rest' same
    cases acceptance with
    | accepted => exact same
    | threw failure => exact same
    | rejected failure moment => rw [firstRefusal?, same, firstRefusal?]
  · intro acceptance rest rest' same
    rw [List.findSome?_cons, List.findSome?_cons, same]

theorem handedOver_answers (batch : Batch) (acceptances : List Acceptance) :
    handedOver batch (answers batch acceptances) = handedOver batch acceptances := by
  rw [answers]
  induction batch generalizing acceptances with
  | nil => rfl
  | cons message batch ih =>
      rw [List.length_cons, List.takeD_succ]
      cases acceptances with
      | nil => exact congrArg (message :: ·) (ih [])
      | cons acceptance acceptances =>
          cases acceptance with
          | threw failure => rfl
          | accepted => exact congrArg (message :: ·) (ih acceptances)
          | rejected failure moment => exact congrArg (message :: ·) (ih acceptances)

/-- Up to the first message at which handing over throws, all are handed over. -/
theorem handedOver_of_thrown {batch : Batch} {earlier later : List Acceptance}
    {failure : Failure} (calm : ∀ acceptance ∈ earlier, acceptance.throws = false) :
    handedOver batch (earlier ++ .threw failure :: later) = batch.take (earlier.length + 1) := by
  induction earlier generalizing batch with
  | nil => cases batch <;> rfl
  | cons acceptance earlier ih =>
      obtain ⟨first, rest⟩ := List.forall_mem_cons.mp calm
      cases batch with
      | nil => rfl
      | cons message batch =>
          cases acceptance with
          | threw failure => cases first
          | accepted => exact congrArg (message :: ·) (ih rest)
          | rejected failure moment => exact congrArg (message :: ·) (ih rest)

theorem publish_of_offline (offline : ∀ client, broker.current = some client →
      client.connected = false) (batch : Batch) (acceptances : List Acceptance) :
    broker.publish batch acceptances =
      (.error (.notConnected "MQTT client is not connected"), [], []) := by
  have none : broker.current.filter (·.connected) = none := by
    refine Option.filter_eq_none_iff.mpr fun client current => ?_
    rw [offline client current]
    exact Bool.false_ne_true
  rw [publish, none]

/-- What comes of a batch follows from what the client does with each message. -/
theorem publish_of_online (current : broker.current = some client)
    (connected : client.connected = true) (batch : Batch) (acceptances : List Acceptance) :
    let given := answers batch acceptances
    let published := broker.publish batch acceptances
    published.1 = resultOf batch
        ((given.findSome? thrown?).or ((firstRefusal? given).map Prod.fst)) ∧
      published.2.1 =
        (handedOver batch given).map (.publish client.number · ⟨0, broker.retain⟩) := by
  intro given published
  have ready : broker.current.filter (·.connected) = some client := by
    rw [current, Option.filter_some, if_pos connected]
  change (broker.publish batch acceptances).1 = _ ∧ (broker.publish batch acceptances).2.1 = _
  rw [← failureOf_take, handedOver_answers, publish, ready]
  cases failureOf (acceptances.take batch.length) <;> exact ⟨rfl, rfl⟩

/-- A batch with a message at which handing over throws. -/
theorem publish_of_thrown (current : broker.current = some client)
    (connected : client.connected = true) {batch : Batch} {acceptances : List Acceptance}
    {earlier later : List Acceptance} {failure : Failure}
    (given : answers batch acceptances = earlier ++ .threw failure :: later)
    (calm : ∀ acceptance ∈ earlier, acceptance.throws = false) :
    let published := broker.publish batch acceptances
    published.1 = resultOf batch (some failure) ∧
      published.2.1 = (batch.take (earlier.length + 1)).map
        (.publish client.number · ⟨0, broker.retain⟩) := by
  obtain ⟨result, effects⟩ := publish_of_online current connected batch acceptances
  have first : (answers batch acceptances).findSome? thrown? = some failure := by
    refine List.findSome?_eq_some_iff.mpr ⟨earlier, _, later, given, rfl, fun _ before => ?_⟩
    exact Acceptance.thrown?_eq_none_iff.mpr (calm _ before)
  rw [first, Option.some_or] at result
  rw [given, handedOver_of_thrown calm] at effects
  exact ⟨result, effects⟩

/-- A batch of which all messages are handed over. -/
theorem publish_of_calm (current : broker.current = some client)
    (connected : client.connected = true) {batch : Batch} {acceptances : List Acceptance}
    (calm : ∀ acceptance ∈ answers batch acceptances, acceptance.throws = false) :
    let published := broker.publish batch acceptances
    published.1 = resultOf batch ((firstRefusal? (answers batch acceptances)).map Prod.fst) ∧
      published.2.1 = batch.map (.publish client.number · ⟨0, broker.retain⟩) := by
  obtain ⟨result, effects⟩ := publish_of_online current connected batch acceptances
  have nothing : (answers batch acceptances).findSome? thrown? = none :=
    List.findSome?_eq_none_iff.mpr fun acceptance member =>
      Acceptance.thrown?_eq_none_iff.mpr (calm acceptance member)
  rw [nothing, Option.none_or] at result
  rw [handedOver_of_calm batch (List.any_eq_false.mpr (by simpa using calm))] at effects
  exact ⟨result, effects⟩

/-- A batch is published exactly if every message is accepted. -/
theorem publish_eq_ok_iff (current : broker.current = some client)
    (connected : client.connected = true) (batch : Batch) (acceptances : List Acceptance) :
    (broker.publish batch acceptances).1 = .ok () ↔
      ∀ acceptance ∈ answers batch acceptances, acceptance = .accepted := by
  rw [(publish_of_online current connected batch acceptances).1, resultOf_eq_ok_iff,
    Option.or_eq_none_iff, List.findSome?_eq_none_iff, Option.map_eq_none_iff,
    firstRefusal?_eq_none_iff]
  simp only [Acceptance.eq_accepted_iff, forall_and]

end Broker

/-- The operation publishes a batch. -/
def BrokerOperation.isPublish {γ : Type} : BrokerOperation γ → Bool
  | .publish .. => true
  | _ => false

namespace Session

variable {γ : Type}

/-- Without the batches that are published the connection comes to the same. -/
theorem broker_of_filter (operations : List (BrokerOperation γ)) :
    (of (operations.filter (!·.isPublish))).broker = (of operations).broker := by
  induction operations using List.reverseRecOn with
  | nil => rfl
  | append_singleton operations operation ih =>
      rw [List.filter_append, of_snoc]
      cases published : operation.isPublish with
      | true =>
          rw [List.filter_cons_of_neg (by simp [published]), List.filter_nil, List.append_nil, ih]
          cases operation with
          | publish batch acceptances => rfl
          | _ => cases published
      | false =>
          rw [List.filter_cons_of_pos (by simp [published]), List.filter_nil, of_snoc, next, next,
            ih]

end Session

/-- Publishing a batch leaves the connection of a gateway as it is. -/
theorem Gateway.broker_publish (gateway : Gateway) (outside : Surroundings) (number : ℕ)
    (batch : Batch) : (publish outside number batch gateway).gateway.broker = gateway.broker := rfl

namespace Broker

open Acceptance (ComesBefore)

/-- What a connected client makes of a batch: the result of the batch and what is handed over,
given what the client does with each message. -/
structure IsSettled (client : BrokerClient) (retain : Bool) (batch : Batch)
    (given : List Acceptance) (result : Except PublishError Unit) (effects : List BrokerEffect) :
    Prop where
  /-- Something is done with every message, and with nothing else. -/
  answered : given.length = batch.length
  /-- The first failure that is thrown ends the handing over and is the one reported, whatever is
  refused besides. -/
  thrown : ∀ earlier failure later, given = earlier ++ .threw failure :: later →
    (∀ acceptance ∈ earlier, acceptance.throws = false) →
      result = resultOf batch (some failure) ∧
        effects = (batch.take (earlier.length + 1)).map (.publish client.number · ⟨0, retain⟩)
  /-- Else all messages are handed over. -/
  handed : (∀ acceptance ∈ given, acceptance.throws = false) →
    effects = batch.map (.publish client.number · ⟨0, retain⟩)
  /-- The refusal that comes first is reported: none comes before it, and none together with it is
  that of a message before its own. -/
  refused : (∀ acceptance ∈ given, acceptance.throws = false) →
    ∀ earlier failure moment later, given = earlier ++ .rejected failure moment :: later →
      (∀ acceptance ∈ earlier, ∀ other ∈ acceptance.moment?, moment < other) →
      (∀ acceptance ∈ later, ∀ other ∈ acceptance.moment?, moment ≤ other) →
        result = resultOf batch (some failure)
  /-- The batch is published exactly if every message is accepted. -/
  published : result = .ok () ↔ ∀ acceptance ∈ given, acceptance = .accepted
  /-- In whatever order of time the messages are settled, the waiting for them ends, and the result
  is what it ends with. -/
  awaited : (∀ acceptance ∈ given, acceptance.throws = false) →
    ∀ settled : List (Acceptance × ℕ), settled.Perm given.zipIdx →
      settled.Pairwise ComesBefore →
        ∃ refusal, (settled.map Prod.fst).foldl Awaiting.settle (.start batch.length) =
            .ended refusal ∧
          result = resultOf batch refusal
  /-- There is such an order. -/
  ordered : ∃ settled : List (Acceptance × ℕ),
    settled.Perm given.zipIdx ∧ settled.Pairwise ComesBefore

section Settled

variable {γ : Type} {broker : Broker γ} {client : BrokerClient}

theorem isSettled_publish (current : broker.current = some client)
    (connected : client.connected = true) (batch : Batch) (acceptances : List Acceptance) :
    IsSettled client broker.retain batch (answers batch acceptances)
      (broker.publish batch acceptances).1 (broker.publish batch acceptances).2.1 where
  answered := length_answers batch acceptances
  thrown := fun _ _ _ given calm => publish_of_thrown current connected given calm
  handed := fun calm => (publish_of_calm current connected calm).2
  refused := by
    intro calm earlier failure moment later given before after
    rw [(publish_of_calm current connected calm).1, given, firstRefusal?_append before after]
    rfl
  published := publish_eq_ok_iff current connected batch acceptances
  awaited := by
    intro calm settled all ordered
    refine ⟨(firstRefusal? (answers batch acceptances)).map Prod.fst, ?_,
      (publish_of_calm current connected calm).1⟩
    have length : batch.length = (settled.map Prod.fst).length := by
      rw [List.length_map, all.length_eq, List.length_zipIdx, length_answers]
    rw [length, Awaiting.foldl_settle, findSome?_of_chronological all ordered]
  ordered := exists_chronological (answers batch acceptances)

/-- Without a connected client a batch fails and nothing of it is handed over. Otherwise each
message is accepted, refused at some moment, or handing it over throws, in any pattern, and this
settles the batch. Any pattern with as many entries as messages may be given. A failure is reported
with all topics of the batch; what is no fault becomes one, with the value as running text for its
message. Publishing changes nothing about the connection, neither in a gateway nor in a row of
operations. -/
theorem batch_is_settled (broker : Broker γ) (batch : Batch) (acceptances : List Acceptance) :
    let result := (broker.publish batch acceptances).1
    let effects := (broker.publish batch acceptances).2.1
    ((∀ client, broker.current = some client → client.connected = false) →
      result = .error (.notConnected "MQTT client is not connected") ∧ effects = []) ∧
    (∀ client, broker.current = some client → client.connected = true →
      IsSettled client broker.retain batch (answers batch acceptances) result effects) ∧
    (acceptances.length = batch.length → answers batch acceptances = acceptances) ∧
    (∀ fault, resultOf batch (some (.fault fault)) =
      .error (.publishFailed fault.message (batch.map Message.topic) (some (.fault fault)))) ∧
    (∀ value, resultOf batch (some (.value value)) =
      .error (.publishFailed value.shown (batch.map Message.topic)
        (some (.fault ⟨"Error", value.shown⟩)))) ∧
    (∀ (gateway : Gateway) outside number,
      (gateway.publish outside number batch).gateway.broker = gateway.broker) ∧
    ∀ operations : List (BrokerOperation γ),
      (Session.of (operations.filter (!·.isPublish))).broker = (Session.of operations).broker := by
  intro result effects
  refine ⟨fun offline => ?_, fun client current connected => ?_, answers_eq_self, fun _ => rfl,
    fun _ => rfl, fun gateway outside number => gateway.broker_publish outside number batch,
    fun operations => Session.broker_of_filter operations⟩
  · have published := publish_of_offline offline batch acceptances
    exact ⟨congrArg Prod.fst published, congrArg (·.2.1) published⟩
  · exact isSettled_publish current connected batch acceptances

/-- Of four messages the first is refused and the third throws something that is no fault: the
fourth is not handed over, and the refusal is not reported. Without what is thrown, of three
refusals the second one is reported, which comes before the first and together with the last. -/
theorem batch_of_four_is_settled :
    let client : BrokerClient := ⟨0, true⟩
    let broker : Broker Unit := ⟨1, some client, true, .none⟩
    let batch : Batch := [⟨"a", "1"⟩, ⟨"b", "2"⟩, ⟨"c", "3"⟩, ⟨"d", "4"⟩]
    let refused (text : Text) : Failure := .fault (.plain text)
    let interrupted : List Acceptance :=
      [.rejected (refused "late") 2, .accepted, .threw (.value (.arr [.num 1, .null]))]
    let calm : List Acceptance :=
      [.rejected (refused "late") 2, .rejected (refused "soon") 1, .accepted,
        .rejected (refused "then") 1]
    (broker.publish batch interrupted).1 =
        .error (.publishFailed "1," ["a", "b", "c", "d"] (some (.fault ⟨"Error", "1,"⟩))) ∧
      (broker.publish batch interrupted).2.1 =
        [.publish 0 ⟨"a", "1"⟩ ⟨0, true⟩, .publish 0 ⟨"b", "2"⟩ ⟨0, true⟩,
          .publish 0 ⟨"c", "3"⟩ ⟨0, true⟩] ∧
      (broker.publish batch calm).1 =
        .error (.publishFailed "soon" ["a", "b", "c", "d"] (some (.fault (.plain "soon")))) := by
  intro client broker batch refused interrupted calm
  have settled := (batch_is_settled broker batch interrupted).2.1 client rfl rfl
  obtain ⟨result, effects⟩ := settled.thrown [.rejected (refused "late") 2, .accepted]
    (.value (.arr [.num 1, .null])) [.accepted] rfl (by simp [Acceptance.throws])
  have text : (Json.arr [.num 1, .null]).shown = "1," := by decide +kernel
  refine ⟨result.trans ?_, effects, ?_⟩
  · rw [resultOf, Failure.toFault, text]
    rfl
  · have awaited := (batch_is_settled broker batch calm).2.1 client rfl rfl
    exact awaited.refused (by simp [answers, calm, batch, Acceptance.throws])
      [.rejected (refused "late") 2] (refused "soon") 1 [.accepted, .rejected (refused "then") 1]
      rfl (by simp [Acceptance.moment?]) (by simp [Acceptance.moment?])

/-- It is not always the foremost of the refused messages whose refusal is reported: the one of a
later message may come before it. -/
theorem not_foremost_of_late_refusal :
    ¬ ∀ (broker : Broker Unit) client batch (given : List Acceptance),
      broker.current = some client → client.connected = true → given.length = batch.length →
      (∀ acceptance ∈ given, acceptance.throws = false) →
      ∀ earlier failure moment later, given = earlier ++ .rejected failure moment :: later →
        (∀ acceptance ∈ earlier, acceptance = .accepted) →
          (broker.publish batch given).1 = resultOf batch (some failure) := by
  intro foremost
  let broker : Broker Unit := ⟨1, some ⟨0, true⟩, true, .none⟩
  let batch : Batch := [⟨"a", "1"⟩, ⟨"b", "2"⟩]
  have reported : _ = resultOf batch (some (.fault (.plain "late"))) :=
    foremost broker ⟨0, true⟩ batch
      [.rejected (.fault (.plain "late")) 2, .rejected (.fault (.plain "soon")) 1] rfl rfl rfl
      (by simp [Acceptance.throws]) [] _ 2 _ rfl nofun
  change resultOf batch (some (.fault (.plain "soon"))) = _ at reported
  have same : ("soon" : Text) = "late" :=
    (PublishError.publishFailed.inj (Except.error.inj reported)).1
  exact absurd same (by decide)

end Settled

end Broker

end MeterSignals
