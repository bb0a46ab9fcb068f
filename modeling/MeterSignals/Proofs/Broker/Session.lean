/-
# One client at a time

A connection is asked for, given up, published through and hears from its clients in any order
and any number of times; clients are asked for in vain, or while there is one. A session keeps
which of the requests were not ignored, each with the client that came of it. Two things follow
its every step: all clients but the current one have been ended, once each, and the current one is
that of the last request. What the connection remembers of how to publish belongs to that request,
so it is never taken from one that was ignored or had no success.
-/

import Mathlib.Data.List.Induction
import MeterSignals.Broker.Client

namespace MeterSignals

/-- Something that is done with a connection, or that a client of it does. -/
inductive BrokerOperation (γ : Type)
  | connect (url : Text) (clientId : Option Text) (retain : Bool) (handlers : BrokerHandlers γ)
      (thrown : Option Failure)
  | disconnect
  | publish (batch : Batch) (acceptances : List Acceptance)
  /-- A client, given by its number, is connected or cut off. -/
  | flagged (client : Nat) (connected : Bool)
  /-- A client, given by its number, reports an event. -/
  | event (client : Nat) (event : BrokerEvent)

/-- What an operation leads to. -/
structure BrokerStep (γ : Type) where
  broker : Broker γ
  effects : List BrokerEffect
  calls : List (BrokerCall γ)

/-- A request for a client that was not ignored. -/
structure Attempt (γ : Type) where
  /-- The client that came of it; none if creating it threw something. -/
  client : Option Nat
  retain : Bool
  handlers : BrokerHandlers γ

/-- The client that is ended. -/
def BrokerEffect.finished? : BrokerEffect → Option Nat
  | .finish client => some client
  | _ => none

/-- A client is asked for. -/
def BrokerEffect.isConnect : BrokerEffect → Bool
  | .connect .. => true
  | _ => false

namespace Broker

variable {γ : Type}

/-- One operation. Only clients that have been created report something. -/
def perform (broker : Broker γ) : BrokerOperation γ → BrokerStep γ
  | .connect url clientId retain handlers thrown =>
    let (broker, _, effects, _) := broker.connect url clientId retain handlers thrown
    ⟨broker, effects, []⟩
  | .disconnect =>
    let (broker, effects, _) := broker.disconnect
    ⟨broker, effects, []⟩
  | .publish batch acceptances => ⟨broker, (broker.publish batch acceptances).2.1, []⟩
  | .flagged client connected => ⟨broker.setConnected client connected, [], []⟩
  | .event client event =>
    ⟨broker, [], if client < broker.created then (broker.emit event).1 else []⟩

/-- The client that comes of a request; none if creating it throws something. -/
def newClient? (broker : Broker γ) (thrown : Option Failure) : Option Nat :=
  if thrown.isSome then none else some broker.created

/-- The request, if the operation is one that is not ignored: a client is asked for, and it comes
of the request unless that throws something, whatever the connection makes of it. -/
def attempt? (broker : Broker γ) : BrokerOperation γ → Option (Attempt γ)
  | .connect url clientId retain handlers thrown =>
    let (_, _, effects, _) := broker.connect url clientId retain handlers thrown
    if effects.any BrokerEffect.isConnect then
      some ⟨broker.newClient? thrown, retain, handlers⟩
    else none
  | _ => none

section Perform

variable (broker : Broker γ) (url : Text) (clientId : Option Text) (retain : Bool)
  (handlers : BrokerHandlers γ)

variable {broker}

/-- While there is a client a request is ignored. -/
theorem connect_of_some {client : BrokerClient} (current : broker.current = some client)
    (thrown : Option Failure) :
    let operation := BrokerOperation.connect url clientId retain handlers thrown
    broker.perform operation = ⟨broker, [], []⟩ ∧ broker.attempt? operation = none := by
  constructor
  · simp only [perform, connect, current]
  · simp only [attempt?, connect, current]
    rfl

/-- A request that is not ignored. -/
theorem connect_of_none (idle : broker.current = none) (thrown : Option Failure) :
    let operation := BrokerOperation.connect url clientId retain handlers thrown
    let client := broker.newClient? thrown
    broker.perform operation =
        ⟨⟨broker.created + client.toList.length, client.map (⟨·, false⟩), retain, handlers⟩,
          [.connect url (.forClient clientId)], []⟩ ∧
      broker.attempt? operation = some ⟨client, retain, handlers⟩ := by
  constructor
  · simp only [perform, connect, idle]
    cases thrown <;> rfl
  · simp only [attempt?, connect, idle]
    cases thrown <;> rfl

theorem disconnect_of_none (idle : broker.current = none) :
    broker.perform .disconnect = ⟨broker, [], []⟩ := by
  simp only [perform, disconnect, idle]

/-- Giving up ends the current client and forgets the callbacks. -/
theorem disconnect_of_some {client : BrokerClient} (current : broker.current = some client) :
    broker.perform .disconnect =
      ⟨⟨broker.created, none, broker.retain, .none⟩, [.finish client.number], []⟩ := by
  simp only [perform, disconnect, current]

/-- What publishing does to the outside: it hands messages to the current client, with quality of
service 0 and the retain flag that the connection has. -/
theorem mem_publish {batch : Batch} {acceptances : List Acceptance} {effect : BrokerEffect}
    (member : effect ∈ (broker.publish batch acceptances).2.1) :
    ∃ client message, broker.current = some client ∧
      effect = .publish client.number message ⟨0, broker.retain⟩ := by
  unfold publish at member
  split at member
  · cases member
  · next client ready =>
      have current : broker.current = some client := (Option.filter_eq_some_iff.mp ready).1
      have handed : effect ∈ (handedOver batch acceptances).map
          fun message => .publish client.number message (.atMostOnce broker.retain) := by
        dsimp only at member
        split at member <;> exact member
      obtain ⟨message, -, rfl⟩ := List.mem_map.mp handed
      exact ⟨client, message, current, rfl⟩

theorem finished_publish (batch : Batch) (acceptances : List Acceptance) :
    (broker.publish batch acceptances).2.1.filterMap BrokerEffect.finished? = [] := by
  apply List.filterMap_eq_nil_iff.mpr
  intro effect member
  obtain ⟨client, message, -, rfl⟩ := mem_publish member
  rfl

/-- What an operation does to the outside: it asks for a client while there is none, or it ends the
current one or hands it a message. -/
theorem effect_cases {operation : BrokerOperation γ} {effect : BrokerEffect}
    (member : effect ∈ (broker.perform operation).effects) :
    (∃ url options, effect = .connect url options ∧ broker.current = none) ∨
      (∃ client, effect = .finish client.number ∧ broker.current = some client) ∨
      ∃ client message, effect = .publish client.number message ⟨0, broker.retain⟩ ∧
        broker.current = some client := by
  cases operation with
  | connect url clientId retain handlers thrown =>
      cases current : broker.current with
      | some client =>
          rw [(connect_of_some url clientId retain handlers current thrown).1] at member
          cases member
      | none =>
          rw [(connect_of_none url clientId retain handlers current thrown).1] at member
          exact .inl ⟨url, _, List.mem_singleton.mp member, rfl⟩
  | disconnect =>
      cases current : broker.current with
      | none =>
          rw [disconnect_of_none current] at member
          cases member
      | some client =>
          rw [disconnect_of_some current] at member
          exact .inr (.inl ⟨client, List.mem_singleton.mp member, rfl⟩)
  | publish batch acceptances =>
      obtain ⟨client, message, current, rfl⟩ := mem_publish member
      exact .inr (.inr ⟨client, message, rfl, current⟩)
  | flagged client connected => cases member
  | event client event => cases member

/-- No operation asks for more than one client. -/
theorem countP_isConnect_le (operation : BrokerOperation γ) :
    (broker.perform operation).effects.countP BrokerEffect.isConnect ≤ 1 := by
  cases operation with
  | connect url clientId retain handlers thrown =>
      cases current : broker.current with
      | some client =>
          rw [(connect_of_some url clientId retain handlers current thrown).1]
          exact Nat.zero_le 1
      | none =>
          rw [(connect_of_none url clientId retain handlers current thrown).1]
          exact Nat.le_refl 1
  | disconnect =>
      cases current : broker.current with
      | none =>
          rw [disconnect_of_none current]
          exact Nat.zero_le 1
      | some client =>
          rw [disconnect_of_some current]
          exact Nat.zero_le 1
  | publish batch acceptances =>
      have none : (broker.publish batch acceptances).2.1.countP BrokerEffect.isConnect = 0 := by
        refine List.countP_eq_zero.mpr fun effect member => ?_
        obtain ⟨client, message, -, rfl⟩ := mem_publish member
        exact Bool.false_ne_true
      exact Nat.le_trans (Nat.le_of_eq none) (Nat.zero_le 1)
  | flagged client connected => exact Nat.zero_le 1
  | event client event => exact Nat.zero_le 1

/-- That a client is connected or cut off does not make it another one. -/
theorem number_setConnected (client : Nat) (connected : Bool) :
    (broker.setConnected client connected).current.map BrokerClient.number =
      broker.current.map BrokerClient.number := by
  rw [setConnected, Option.map_map]
  congr 1
  funext c
  by_cases same : c.number = client
  · simp [same]
  · simp [same]

end Perform

end Broker

/-- A connection with all that has been done with it. -/
structure Session (γ : Type) where
  broker : Broker γ
  /-- The requests that were not ignored, in order. -/
  attempts : List (Attempt γ)
  /-- What was done to the outside, in order. -/
  effects : List BrokerEffect

namespace Session

variable {γ : Type}

/-- Nothing has been done. -/
def initial : Session γ := ⟨.initial, [], []⟩

/-- One operation. -/
def next (session : Session γ) (operation : BrokerOperation γ) : Session γ :=
  let step := session.broker.perform operation
  { broker := step.broker
    attempts := session.attempts ++ (session.broker.attempt? operation).toList
    effects := session.effects ++ step.effects }

/-- The session of a row of operations. -/
def of (operations : List (BrokerOperation γ)) : Session γ := operations.foldl next initial

/-- The clients that have been created, in order. -/
def clients (session : Session γ) : List Nat := session.attempts.filterMap Attempt.client

/-- The clients that have been ended, in order. -/
def ended (session : Session γ) : List Nat :=
  session.effects.filterMap BrokerEffect.finished?

/-- The last request, unless its client has been ended. -/
def holder? (session : Session γ) : Option (Attempt γ) :=
  session.attempts.getLast?.filter fun attempt => attempt.client.all (· ∉ session.ended)

theorem of_snoc (operations : List (BrokerOperation γ)) (operation : BrokerOperation γ) :
    of (operations ++ [operation]) = (of operations).next operation := by
  rw [of, List.foldl_append]
  rfl

/-- What the connection knows agrees with what has been done. -/
structure IsConsistent (session : Session γ) : Prop where
  /-- Clients are numbered as they are created. -/
  numbered : session.clients = List.range session.broker.created
  /-- All but the current one have been ended, in the order of their creation. -/
  ended : session.clients =
    session.ended ++ (session.broker.current.map BrokerClient.number).toList
  /-- A current client is that of the last request, with its retain flag. -/
  current : ∀ client, session.broker.current = some client →
    ∃ attempt, session.attempts.getLast? = some attempt ∧
      attempt.client = some client.number ∧ attempt.retain = session.broker.retain
  /-- The callbacks are those of the last request, unless its client has been ended. -/
  handlers : session.broker.handlers =
    (session.holder?.map Attempt.handlers).getD BrokerHandlers.none

variable {session : Session γ}

theorem clients_next (session : Session γ) (operation : BrokerOperation γ) :
    (session.next operation).clients =
      session.clients ++ ((session.broker.attempt? operation).bind Attempt.client).toList := by
  rw [clients, next, List.filterMap_append, ← clients]
  cases session.broker.attempt? operation with
  | none => rfl
  | some attempt => cases client : attempt.client <;> simp [client]

theorem ended_next (session : Session γ) (operation : BrokerOperation γ) :
    (session.next operation).ended = session.ended ++
      (session.broker.perform operation).effects.filterMap BrokerEffect.finished? := by
  rw [ended, next, List.filterMap_append, ← ended]

/-- The last request counts as long as its client has not been ended. -/
theorem holder?_of_attempt {attempt : Attempt γ} (last : session.attempts.getLast? = some attempt)
    (alive : ∀ client, attempt.client = some client → client ∉ session.ended) :
    session.holder? = some attempt := by
  rw [holder?, last, Option.filter_some, if_pos]
  simpa [Option.all_eq_true] using alive

theorem isConsistent_initial : (initial : Session γ).IsConsistent :=
  ⟨rfl, rfl, nofun, rfl⟩

namespace IsConsistent

/-- An operation that neither asks for a client nor ends one. -/
theorem kept (consistent : session.IsConsistent) {operation : BrokerOperation γ}
    (ignored : session.broker.attempt? operation = none)
    (unfinished : (session.broker.perform operation).effects.filterMap
      BrokerEffect.finished? = [])
    (created : (session.broker.perform operation).broker.created = session.broker.created)
    (number : (session.broker.perform operation).broker.current.map BrokerClient.number =
      session.broker.current.map BrokerClient.number)
    (retain : (session.broker.perform operation).broker.retain = session.broker.retain)
    (handlers : (session.broker.perform operation).broker.handlers = session.broker.handlers) :
    (session.next operation).IsConsistent := by
  have attempts : (session.next operation).attempts = session.attempts := by
    rw [next, ignored]
    exact List.append_nil _
  have clients : (session.next operation).clients = session.clients := by
    rw [Session.clients, attempts, Session.clients]
  have ended : (session.next operation).ended = session.ended := by
    rw [ended_next, unfinished, List.append_nil]
  constructor
  · rw [clients, consistent.numbered]
    exact congrArg List.range created.symm
  · rw [clients, ended, consistent.ended]
    exact congrArg (session.ended ++ Option.toList ·) number.symm
  · intro client current
    have same : session.broker.current.map BrokerClient.number = some client.number := by
      rw [← number]
      exact congrArg (Option.map BrokerClient.number) current
    obtain ⟨before, found, renamed⟩ := Option.map_eq_some_iff.mp same
    obtain ⟨attempt, last, own, flag⟩ := consistent.current before found
    exact ⟨attempt, attempts ▸ last, renamed ▸ own, flag.trans retain.symm⟩
  · have held : (session.next operation).holder? = session.holder? := by
      rw [holder?, attempts, ended, holder?]
    rw [held, ← consistent.handlers]
    exact handlers

/-- The current client is one of those that have been created, and has not been ended. -/
theorem current_not_mem_ended (consistent : session.IsConsistent) {client : BrokerClient}
    (current : session.broker.current = some client) : client.number ∉ session.ended := by
  have distinct : session.clients.Nodup := consistent.numbered ▸ List.nodup_range
  rw [consistent.ended, current] at distinct
  intro member
  exact (List.nodup_append.mp distinct).2.2 _ member _ (List.mem_singleton_self _) rfl

/-- A request that is not ignored, whether a client comes of it or not. -/
theorem asked (consistent : session.IsConsistent) (idle : session.broker.current = none)
    (url : Text) (clientId : Option Text) (retain : Bool) (handlers : BrokerHandlers γ)
    (thrown : Option Failure) :
    (session.next (.connect url clientId retain handlers thrown)).IsConsistent := by
  obtain ⟨step, attempt⟩ := Broker.connect_of_none url clientId retain handlers idle thrown
  generalize BrokerOperation.connect url clientId retain handlers thrown = operation
    at step attempt
  have all : session.clients = session.ended := by
    rw [consistent.ended, idle]
    exact List.append_nil _
  have clients : (session.next operation).clients =
      session.clients ++ (session.broker.newClient? thrown).toList := by
    rw [clients_next, attempt]
    rfl
  have ended : (session.next operation).ended = session.ended := by
    rw [ended_next, step]
    exact List.append_nil _
  have last : (session.next operation).attempts.getLast? =
      some ⟨session.broker.newClient? thrown, retain, handlers⟩ := by
    rw [next, attempt]
    exact List.getLast?_concat
  have broker := congrArg BrokerStep.broker step
  constructor
  · rw [clients, consistent.numbered, next, broker]
    cases thrown with
    | none => exact List.range_succ.symm
    | some failure => exact List.append_nil _
  · rw [clients, ended, all, next, broker]
    cases thrown <;> rfl
  · intro client current
    rw [next, broker] at current ⊢
    obtain ⟨number, own, rfl⟩ := Option.map_eq_some_iff.mp current
    exact ⟨_, last, own, rfl⟩
  · rw [holder?_of_attempt last, next, broker]
    · rfl
    · intro client own
      cases thrown with
      | none =>
          cases own
          rw [ended, ← all, consistent.numbered]
          exact List.not_mem_range_self
      | some failure => cases own

/-- An operation that ends the current client. -/
theorem closed (consistent : session.IsConsistent) {client : BrokerClient}
    (current : session.broker.current = some client) :
    (session.next .disconnect).IsConsistent := by
  have step := Broker.disconnect_of_some current
  have clients : (session.next .disconnect).clients = session.clients :=
    (session.clients_next .disconnect).trans (List.append_nil _)
  have ended : (session.next .disconnect).ended = session.ended ++ [client.number] := by
    rw [ended_next, step]
    rfl
  have broker := congrArg BrokerStep.broker step
  constructor
  · rw [clients, consistent.numbered, next, broker]
  · rw [clients, ended, consistent.ended, current, next, broker]
    exact (List.append_nil _).symm
  · intro other found
    rw [next, broker] at found
    cases found
  · obtain ⟨attempt, last, own, -⟩ := consistent.current client current
    have attempts : (session.next .disconnect).attempts.getLast? = some attempt := by
      rw [← last, next]
      exact congrArg List.getLast? (List.append_nil _)
    have gone : (session.next .disconnect).holder? = none := by
      rw [holder?, attempts, Option.filter_some, own, ended]
      simp
    rw [gone, next, broker]
    rfl

/-- Every operation keeps the agreement. -/
theorem next (consistent : session.IsConsistent) (operation : BrokerOperation γ) :
    (session.next operation).IsConsistent := by
  cases operation with
  | connect url clientId retain handlers thrown =>
      cases current : session.broker.current with
      | some client =>
          obtain ⟨step, ignored⟩ :=
            Broker.connect_of_some url clientId retain handlers current thrown
          apply consistent.kept ignored <;> rw [step]
          rfl
      | none => exact consistent.asked current url clientId retain handlers thrown
  | disconnect =>
      cases current : session.broker.current with
      | some client => exact consistent.closed current
      | none =>
          have step := Broker.disconnect_of_none current
          apply consistent.kept rfl <;> rw [step]
          rfl
  | publish batch acceptances =>
      exact consistent.kept rfl (Broker.finished_publish batch acceptances) rfl rfl rfl rfl
  | flagged client connected =>
      exact consistent.kept rfl rfl rfl (Broker.number_setConnected client connected) rfl rfl
  | event client event => exact consistent.kept rfl rfl rfl rfl rfl rfl

end IsConsistent

theorem isConsistent_of (operations : List (BrokerOperation γ)) :
    (of operations).IsConsistent := by
  induction operations using List.reverseRecOn with
  | nil => exact isConsistent_initial
  | append_singleton operations operation ih =>
      rw [of_snoc]
      exact ih.next operation

/-- A message goes to the current client, with the retain flag of the request that it came of. -/
theorem IsConsistent.publication (consistent : session.IsConsistent)
    {operation : BrokerOperation γ} {publication : Publication}
    (handed : publication ∈
      (session.broker.perform operation).effects.filterMap BrokerEffect.publication?) :
    ∃ client, session.broker.current = some client ∧ publication.client = client.number ∧
      ∃ attempt ∈ session.attempts, attempt.client = some client.number ∧
        publication.options = ⟨0, attempt.retain⟩ := by
  obtain ⟨effect, member, seen⟩ := List.mem_filterMap.mp handed
  rcases Broker.effect_cases member with
    ⟨url, options, rfl, -⟩ | ⟨client, rfl, -⟩ | ⟨client, message, rfl, current⟩
  · cases seen
  · cases seen
  · obtain ⟨attempt, last, own, flag⟩ := consistent.current client current
    cases seen
    refine ⟨client, current, rfl, attempt, List.mem_of_getLast? last, own, ?_⟩
    rw [flag]

/-- Whatever is done with a connection and in whatever order: as many clients have been created as
have been ended, and one more while there is a current one; no client is created or ended twice,
and none is ended that was not created. A client is asked for only while there is none, and only
once by each operation. Every message goes to the current client, with quality of service 0 and the
retain flag of the very request that this client came of. -/
theorem one_client_at_a_time (operations : List (BrokerOperation γ)) :
    let session := of operations
    session.clients.length =
        session.ended.length + (if session.broker.current.isSome then 1 else 0) ∧
      session.clients.Nodup ∧ session.ended.Nodup ∧ session.ended ⊆ session.clients ∧
      ∀ earlier operation, earlier ++ [operation] <+: operations →
        let before := of earlier
        let effects := (before.broker.perform operation).effects
        effects.countP BrokerEffect.isConnect ≤ 1 ∧
          (∀ url options, .connect url options ∈ effects → before.broker.current = none) ∧
          ∀ publication ∈ effects.filterMap BrokerEffect.publication?,
            ∃ client, before.broker.current = some client ∧
              publication.client = client.number ∧
              ∃ attempt ∈ before.attempts, attempt.client = some client.number ∧
                publication.options = ⟨0, attempt.retain⟩ := by
  intro session
  have consistent : session.IsConsistent := isConsistent_of operations
  have distinct : session.clients.Nodup := consistent.numbered ▸ List.nodup_range
  have started : session.ended <+: session.clients := consistent.ended ▸ List.prefix_append _ _
  refine ⟨?_, distinct, distinct.sublist started.sublist, started.subset, ?_⟩
  · rw [consistent.ended, List.length_append]
    cases session.broker.current <;> rfl
  · intro earlier operation reached before effects
    refine ⟨Broker.countP_isConnect_le operation, ?_, ?_⟩
    · intro url options asked
      rcases Broker.effect_cases asked with
        ⟨_, _, -, idle⟩ | ⟨_, same, -⟩ | ⟨_, _, same, -⟩
      · exact idle
      · cases same
      · cases same
    · intro publication handed
      exact (isConsistent_of earlier).publication handed

end Session

end MeterSignals
