/-
# What reaches the broker

A stream and the connection to the broker go on side by side: lines are read, lookups come
back, and meanwhile clients are asked for, ended, connected and cut off in any order. The two
meet only where a batch is published. As no client keeps messages while it is offline, what is
handed over follows from the moment of each batch alone: all of its messages go to the client
that is current and connected then, or none of them ever goes anywhere.
-/

import MeterSignals.Broker.Client
import MeterSignals.Proofs.Stream.Batches

namespace MeterSignals

/-- Something that happens to a stream or to the connection that it publishes through. -/
inductive DeliveryEvent (γ : Type)
  /-- An event of the reading. If a batch is published with it, the acceptances say what the
  client does with the messages. How a publication ends is an event of its own, which may come
  at any time and say anything. -/
  | reading (event : RunEvent) (acceptances : List Acceptance)
  | connect (url : Text) (clientId : Option Text) (retain : Bool) (handlers : BrokerHandlers γ)
      (thrown : Option Failure)
  | disconnect
  /-- A client, given by its number, is connected or cut off. -/
  | flagged (client : Nat) (connected : Bool)

/-- A stream that is read and the connection that it publishes through. -/
structure Delivery (γ : Type) where
  transcript : Transcript
  broker : Broker γ
  /-- What the connection did to the outside. -/
  effects : List BrokerEffect

/-- A batch at the moment at which it is published. -/
structure Dispatch where
  /-- The number of its line. -/
  number : Nat
  batch : Batch
  /-- The client that is current and connected. -/
  client : Option BrokerClient
  retain : Bool

/-- Handing a message over throws at once. -/
def Acceptance.throws : Acceptance → Bool
  | .threw _ => true
  | _ => false

/-- A message is handed to a client. -/
def BrokerEffect.isPublish : BrokerEffect → Bool
  | .publish .. => true
  | _ => false

/-- The messages of the batch, handed to the client once each and in order, with quality of
service 0. -/
def Dispatch.effects (dispatch : Dispatch) : List BrokerEffect :=
  match dispatch.client with
  | none => []
  | some client => dispatch.batch.map (.publish client.number · ⟨0, dispatch.retain⟩)

/-- The batch with the number of its line. -/
def Dispatch.numbered (dispatch : Dispatch) : Nat × Batch := (dispatch.number, dispatch.batch)

theorem Dispatch.filter_effects (dispatch : Dispatch) :
    dispatch.effects.filter BrokerEffect.isPublish = dispatch.effects := by
  rw [effects]
  cases dispatch.client with
  | none => rfl
  | some client =>
      refine List.filter_eq_self.mpr fun effect member => ?_
      obtain ⟨message, -, rfl⟩ := List.mem_map.mp member
      rfl

namespace DeliveryEvent

variable {γ : Type}

/-- The event of the reading. -/
def reading? : DeliveryEvent γ → Option RunEvent
  | .reading event _ => some event
  | _ => none

/-- Handing over some message throws at once. -/
def throws : DeliveryEvent γ → Bool
  | .reading _ acceptances => acceptances.any Acceptance.throws
  | _ => false

end DeliveryEvent

namespace Broker

variable {γ : Type}

/-- What an event makes of the connection. -/
def react (broker : Broker γ) : DeliveryEvent γ → Broker γ
  | .reading .. => broker
  | .connect url clientId retain handlers thrown =>
    (broker.connect url clientId retain handlers thrown).1
  | .disconnect => broker.disconnect.1
  | .flagged client connected => broker.setConnected client connected

/-- The connection after a row of events. -/
def after (events : List (DeliveryEvent γ)) : Broker γ := events.foldl react initial

/-- A batch that is published now. -/
def dispatch (broker : Broker γ) (number : Nat) (batch : Batch) : Dispatch :=
  ⟨number, batch, broker.current.filter (·.connected), broker.retain⟩

/-- All messages are handed over if that throws for none of them. -/
theorem handedOver_of_calm (batch : Batch) {acceptances : List Acceptance}
    (calm : acceptances.any Acceptance.throws = false) : handedOver batch acceptances = batch := by
  induction batch generalizing acceptances with
  | nil => rfl
  | cons message batch ih =>
      cases acceptances with
      | nil => rw [handedOver, ih calm]
      | cons acceptance acceptances =>
          rw [List.any_cons, Bool.or_eq_false_iff] at calm
          cases acceptance with
          | accepted => rw [handedOver, ih calm.2]; nofun
          | rejected failure moment => rw [handedOver, ih calm.2]; nofun
          | threw failure => cases calm.1

/-- Publishing hands over what the moment says. -/
theorem publish_effects (broker : Broker γ) (number : Nat) (batch : Batch)
    {acceptances : List Acceptance} (calm : acceptances.any Acceptance.throws = false) :
    (broker.publish batch acceptances).2.1 = (broker.dispatch number batch).effects := by
  rw [publish, dispatch, Dispatch.effects]
  cases broker.current.filter (·.connected) with
  | none => rfl
  | some client =>
      dsimp only
      rw [handedOver_of_calm batch calm]
      split <;> rfl

end Broker

namespace Delivery

variable {γ : Type}

/-- Nothing has been read, and no client has been asked for. -/
def initial (stream : Stream) : Delivery γ := ⟨.initial stream, .initial, []⟩

/-- What an event makes the connection do to the outside. -/
def effectsOf (delivery : Delivery γ) : DeliveryEvent γ → List BrokerEffect
  | .reading event acceptances =>
    (delivery.transcript.run.step event).batch.toList.flatMap fun batch =>
      (delivery.broker.publish batch acceptances).2.1
  | .connect url clientId retain handlers thrown =>
    (delivery.broker.connect url clientId retain handlers thrown).2.2.1
  | .disconnect => delivery.broker.disconnect.2.1
  | .flagged .. => []

/-- One event. -/
def next (delivery : Delivery γ) (event : DeliveryEvent γ) : Delivery γ :=
  { transcript := delivery.transcript.after event.reading?.toList
    broker := delivery.broker.react event
    effects := delivery.effects ++ delivery.effectsOf event }

/-- The delivery after a row of events. -/
def of (stream : Stream) (events : List (DeliveryEvent γ)) : Delivery γ :=
  events.foldl next (initial stream)

/-- The messages that were handed to clients, in order. -/
def handed (delivery : Delivery γ) : List BrokerEffect :=
  delivery.effects.filter BrokerEffect.isPublish

/-- The batch that an event publishes. -/
def dispatch? (delivery : Delivery γ) : DeliveryEvent γ → Option Dispatch
  | .reading event _ =>
    let step := delivery.transcript.run.step event
    step.batch.map (delivery.broker.dispatch step.run.count)
  | _ => none

/-- All batches that the events publish, in order. -/
def dispatchesFrom : Delivery γ → List (DeliveryEvent γ) → List Dispatch
  | _, [] => []
  | delivery, event :: events =>
    (delivery.dispatch? event).toList ++ dispatchesFrom (delivery.next event) events

/-- All batches that are published in a row of events. -/
def dispatches (stream : Stream) (events : List (DeliveryEvent γ)) : List Dispatch :=
  (initial stream).dispatchesFrom events

/-- The events of the reading. -/
def readings (events : List (DeliveryEvent γ)) : List RunEvent :=
  events.filterMap DeliveryEvent.reading?

theorem of_snoc (stream : Stream) (events : List (DeliveryEvent γ)) (event : DeliveryEvent γ) :
    of stream (events ++ [event]) = (of stream events).next event := by
  rw [of, List.foldl_append]
  rfl

theorem dispatches_snoc (stream : Stream) (events : List (DeliveryEvent γ))
    (event : DeliveryEvent γ) :
    dispatches stream (events ++ [event]) =
      dispatches stream events ++ ((of stream events).dispatch? event).toList := by
  suffices general : ∀ delivery : Delivery γ, delivery.dispatchesFrom (events ++ [event]) =
      delivery.dispatchesFrom events ++ ((events.foldl next delivery).dispatch? event).toList from
    general _
  induction events with
  | nil => exact fun delivery => List.append_nil _
  | cons first events ih =>
      intro delivery
      rw [List.cons_append, dispatchesFrom, dispatchesFrom, ih, List.append_assoc]
      rfl

theorem readings_snoc (events : List (DeliveryEvent γ)) (event : DeliveryEvent γ) :
    readings (events ++ [event]) = readings events ++ event.reading?.toList := by
  rw [readings, List.filterMap_append, ← readings]
  cases event <;> rfl

/-- The connection does nothing to the stream, and the stream nothing to the connection. -/
theorem of_apart (stream : Stream) (events : List (DeliveryEvent γ)) :
    (of stream events).transcript = .of stream (readings events) ∧
      (of stream events).broker = .after events := by
  induction events using List.reverseRecOn with
  | nil => exact ⟨rfl, rfl⟩
  | append_singleton events event ih =>
      rw [of_snoc, readings_snoc, next, ih.1, ih.2, Broker.after, Broker.after, List.foldl_append]
      exact ⟨(Transcript.after_append ..).symm, rfl⟩

/-- What is handed over with an event is the batch that it publishes, if the moment has a client
for it. -/
theorem filter_effectsOf (delivery : Delivery γ) {event : DeliveryEvent γ}
    (calm : event.throws = false) :
    (delivery.effectsOf event).filter BrokerEffect.isPublish =
      (delivery.dispatch? event).toList.flatMap Dispatch.effects := by
  cases event with
  | reading event acceptances =>
      simp only [effectsOf, dispatch?]
      cases (delivery.transcript.run.step event).batch with
      | none => rfl
      | some batch =>
          simp only [Option.toList_some, Option.map_some, List.flatMap_singleton]
          rw [delivery.broker.publish_effects _ batch calm, Dispatch.filter_effects]
  | connect url clientId retain handlers thrown =>
      simp only [effectsOf, Broker.connect]
      cases delivery.broker.current with
      | some client => rfl
      | none => cases thrown <;> rfl
  | disconnect =>
      simp only [effectsOf, Broker.disconnect]
      cases delivery.broker.current <;> rfl
  | flagged client connected => rfl

theorem handed_snoc (stream : Stream) (events : List (DeliveryEvent γ))
    {event : DeliveryEvent γ} (calm : event.throws = false) :
    (of stream (events ++ [event])).handed = (of stream events).handed ++
      ((of stream events).dispatch? event).toList.flatMap Dispatch.effects := by
  rw [of_snoc, handed, next, List.filter_append, filter_effectsOf _ calm, handed]

/-- What an event publishes is the batch that the reading sends with it. -/
theorem map_dispatch? (delivery : Delivery γ) (event : DeliveryEvent γ) :
    (delivery.next event).transcript.batches =
      delivery.transcript.batches ++
        (delivery.dispatch? event).toList.map Dispatch.numbered := by
  cases event with
  | reading event acceptances =>
      change (delivery.transcript.next event).batches = _
      rw [Transcript.next, dispatch?]
      cases (delivery.transcript.run.step event).batch <;> rfl
  | _ => exact (List.append_nil _).symm

/-- The batches that are published are those of the reading, whatever becomes of the
connection. -/
theorem map_dispatches (stream : Stream) (events : List (DeliveryEvent γ)) :
    (dispatches stream events).map Dispatch.numbered =
      (Transcript.of stream (readings events)).batches := by
  rw [← (of_apart stream events).1]
  induction events using List.reverseRecOn with
  | nil => rfl
  | append_singleton events event ih =>
      rw [dispatches_snoc, List.map_append, ih, of_snoc, map_dispatch?]

/-- What is published with an event is decided by the reading and the connection as they are at
that moment. -/
theorem dispatch?_eq_some {stream : Stream} {events : List (DeliveryEvent γ)}
    {event : DeliveryEvent γ} {dispatch : Dispatch}
    (found : (of stream events).dispatch? event = some dispatch) :
    ∃ reading acceptances, event = .reading reading acceptances ∧
      let step := (Transcript.of stream (readings events)).run.step reading
      step.batch = some dispatch.batch ∧ step.run.count = dispatch.number ∧
        dispatch = (Broker.after events).dispatch dispatch.number dispatch.batch := by
  obtain ⟨transcript, broker⟩ := of_apart stream events
  cases event with
  | reading reading acceptances =>
      rw [dispatch?, transcript, broker] at found
      obtain ⟨batch, sent, rfl⟩ := Option.map_eq_some_iff.mp found
      exact ⟨reading, acceptances, rfl, sent, rfl, rfl⟩
  | _ => cases found

/-- How many lines have entered. -/
def count (delivery : Delivery γ) : Nat := delivery.transcript.run.count

theorem count_le_next (delivery : Delivery γ) (event : DeliveryEvent γ) :
    delivery.count ≤ (delivery.next event).count := by
  cases event with
  | reading event acceptances => exact StreamRun.count_le_step event
  | _ => exact Nat.le_refl _

/-- What an event publishes belongs to the line that enters with it. -/
theorem number_of_dispatch? {delivery : Delivery γ} {event : DeliveryEvent γ}
    {dispatch : Dispatch} (found : delivery.dispatch? event = some dispatch) :
    dispatch.number = delivery.count + 1 ∧ (delivery.next event).count = delivery.count + 1 := by
  cases event with
  | reading event acceptances =>
      obtain ⟨batch, sent, rfl⟩ := Option.map_eq_some_iff.mp found
      have entered := StreamRun.count_of_batch sent
      exact ⟨entered, entered⟩
  | _ => cases found

/-- From any moment on, only batches of lines that enter after it are published. -/
theorem exists_dispatches_append (stream : Stream) (earlier later : List (DeliveryEvent γ)) :
    ∃ more, dispatches stream (earlier ++ later) = dispatches stream earlier ++ more ∧
      (of stream earlier).count ≤ (of stream (earlier ++ later)).count ∧
      ∀ dispatch ∈ more, (of stream earlier).count < dispatch.number ∧
        dispatch.number ≤ (of stream (earlier ++ later)).count := by
  induction later using List.reverseRecOn with
  | nil =>
      rw [List.append_nil]
      exact ⟨[], (List.append_nil _).symm, Nat.le_refl _, List.forall_mem_nil _⟩
  | append_singleton later event ih =>
      obtain ⟨more, same, grown, numbers⟩ := ih
      have next := (of stream (earlier ++ later)).count_le_next event
      rw [← List.append_assoc, dispatches_snoc, same, of_snoc]
      refine ⟨more ++ ((of stream (earlier ++ later)).dispatch? event).toList,
        List.append_assoc .., Nat.le_trans grown next, fun dispatch member => ?_⟩
      rcases List.mem_append.mp member with before | new
      · obtain ⟨after, upTo⟩ := numbers dispatch before
        exact ⟨after, Nat.le_trans upTo next⟩
      · obtain ⟨number, counted⟩ := number_of_dispatch? (Option.mem_toList.mp new)
        rw [number, counted]
        exact ⟨Nat.lt_succ_of_le grown, Nat.le_refl _⟩

/-- The batches are published in the order of their lines, and no line has two. -/
theorem dispatches_increasing (stream : Stream) (events : List (DeliveryEvent γ)) :
    (dispatches stream events).Pairwise (·.number < ·.number) := by
  induction events using List.reverseRecOn with
  | nil => exact List.Pairwise.nil
  | append_singleton events event ih =>
      rw [dispatches_snoc, List.pairwise_append]
      refine ⟨ih, ?_, fun dispatch before last new => ?_⟩
      · cases (of stream events).dispatch? event
        · exact List.Pairwise.nil
        · exact List.pairwise_singleton _ _
      · obtain ⟨all, same, -, numbers⟩ := exists_dispatches_append stream [] events
        change dispatches stream events = all at same
        rw [(number_of_dispatch? (Option.mem_toList.mp new)).1]
        exact Nat.lt_succ_of_le (numbers dispatch (same ▸ before)).2

/-- What is handed over is what the published batches hand over at their moments. -/
theorem handed_of_calm (stream : Stream) {events : List (DeliveryEvent γ)}
    (calm : ∀ event ∈ events, event.throws = false) :
    (of stream events).handed = (dispatches stream events).flatMap Dispatch.effects := by
  induction events using List.reverseRecOn with
  | nil => rfl
  | append_singleton events event ih =>
      obtain ⟨before, last⟩ := List.forall_mem_append.mp calm
      rw [handed_snoc stream events (last event (List.mem_singleton_self event)), ih before,
        dispatches_snoc, List.flatMap_append]

/-- Each published batch was the batch of the reading at some moment, and was handed to the client
that was current and connected then. -/
theorem exists_moment_of_dispatch (stream : Stream) (events : List (DeliveryEvent γ)) :
    ∀ dispatch ∈ dispatches stream events, ∃ earlier reading acceptances,
      earlier ++ [.reading reading acceptances] <+: events ∧
      let step := (Transcript.of stream (readings earlier)).run.step reading
      step.batch = some dispatch.batch ∧ step.run.count = dispatch.number ∧
        dispatch = (Broker.after earlier).dispatch dispatch.number dispatch.batch := by
  induction events using List.reverseRecOn with
  | nil => exact List.forall_mem_nil _
  | append_singleton events event ih =>
      intro dispatch member
      rw [dispatches_snoc] at member
      rcases List.mem_append.mp member with before | new
      · obtain ⟨earlier, reading, acceptances, reached, moment⟩ := ih dispatch before
        exact ⟨earlier, reading, acceptances, reached.trans (List.prefix_append _ _), moment⟩
      · obtain ⟨reading, acceptances, rfl, moment⟩ :=
          dispatch?_eq_some (Option.mem_toList.mp new)
        exact ⟨events, reading, acceptances, List.prefix_refl _, moment⟩

/-- While lines are read and clients are asked for, ended, connected and cut off in any order, the
messages that are handed to clients are those of the published batches whose moment has a
connected current client: in the order of the lines, each message once, in the order of its
batch. The batches are those of the reading by itself, so a lost one leaves no trace in those
after it, and each states what the lines up to its own decide. What is handed over from any
moment on belongs to lines that enter after it. -/
theorem handed_over_at_once (options : StreamOptions) (relayed : Bool)
    (fallback : Option Fallback) {events : List (DeliveryEvent γ)}
    (calm : ∀ event ∈ events, event.throws = false) :
    let stream := Stream.initial options relayed fallback
    let published := dispatches stream events
    (of stream events).handed = published.flatMap Dispatch.effects ∧
    published.map Dispatch.numbered = (Transcript.of stream (readings events)).batches ∧
    published.Pairwise (·.number < ·.number) ∧
    (∀ dispatch ∈ published,
      options.IsBatchOf (Transcript.lines stream (readings events)) dispatch.number
        dispatch.batch ∧
      ∃ earlier reading acceptances,
        earlier ++ [.reading reading acceptances] <+: events ∧
        let step := (Transcript.of stream (readings earlier)).run.step reading
        step.batch = some dispatch.batch ∧ step.run.count = dispatch.number ∧
          dispatch = (Broker.after earlier).dispatch dispatch.number dispatch.batch) ∧
    ∀ earlier later, events = earlier ++ later →
      ∃ more, published = dispatches stream earlier ++ more ∧
        (of stream events).handed =
          (of stream earlier).handed ++ more.flatMap Dispatch.effects ∧
        ∀ dispatch ∈ more, (of stream earlier).count < dispatch.number := by
  intro stream published
  have handed : (of stream events).handed = published.flatMap Dispatch.effects :=
    handed_of_calm stream calm
  have batches := map_dispatches stream events
  refine ⟨handed, batches, dispatches_increasing stream events,
    fun dispatch member => ⟨?_, ?_⟩, fun earlier later whole => ?_⟩
  · refine Transcript.isBatchOf_of_mem options relayed fallback (readings events)
      dispatch.numbered ?_
    rw [← batches]
    exact List.mem_map_of_mem member
  · exact exists_moment_of_dispatch stream events dispatch member
  · obtain ⟨more, same, -, numbers⟩ := exists_dispatches_append stream earlier later
    rw [← whole] at same
    have before : ∀ event ∈ earlier, event.throws = false := fun event member =>
      calm event (whole ▸ List.mem_append_left _ member)
    refine ⟨more, same, ?_, fun dispatch member => (numbers dispatch member).1⟩
    rw [handed, handed_of_calm stream before, ← List.flatMap_append]
    exact congrArg _ same

/-- Three lines of which the second finds the client cut off: its batch is lost, and the third
publishes its own. The client has refused a message of the first by then. -/
theorem handed_over_around_an_outage :
    let refused : Failure := .value (.str "refused")
    let line (text : Text) : DeliveryEvent Unit :=
      .reading (.line text none none) [.accepted, .rejected refused 0]
    let events : List (DeliveryEvent Unit) :=
      [.connect "mqtt://broker" none true .none none, .flagged 0 true,
        line r#"{"_tvalide":1,"SINSTS":{"data":100}}"#, .flagged 0 false,
        .reading (.publicationSettled 1 (.ok (.ok ()))) [], .reading .resumed [],
        line r#"{"_tvalide":1,"SINSTS":{"data":200}}"#,
        .reading (.publicationSettled 2 (.ok (.ok ()))) [], .reading .resumed [],
        .flagged 0 true, line r#"{"_tvalide":1,"SINSTS":{"data":300}}"#]
    let stream := Stream.initial (.usual 0) false none
    (of stream events).handed = (dispatches stream events).flatMap Dispatch.effects ∧
      (dispatches stream events).map (fun dispatch =>
          (dispatch.number, dispatch.client.isSome, dispatch.batch.getLast?.map (·.payload))) =
        [(1, true, some ("100" : Text)), (2, false, some "200"), (3, true, some "300")] := by
  intro refused line events stream
  have calm : ∀ event ∈ events, event.throws = false := by decide
  exact ⟨(handed_over_at_once (.usual 0) false none calm).1, by decide +kernel⟩

end Delivery

end MeterSignals
