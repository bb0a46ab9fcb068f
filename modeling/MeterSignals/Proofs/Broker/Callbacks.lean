/-
# Whose callbacks are called

A client that was ended may go on reporting events, and every event leads to the callback that the
connection has for it at that moment. These are the callbacks of the last request that was not
ignored, until the client of that request is ended. For an event of the current client that is
the request which the client came of. For an event of an earlier client it never is: a callback
that is called then was given with a later request, be it that its client has taken over or that
creating one threw something.
-/

import MeterSignals.Proofs.Broker.Session

namespace MeterSignals

/-- What an event says. -/
def BrokerEvent.message? : BrokerEvent → Option Text
  | .error message => some message
  | _ => none

/-- The callback for an event. -/
def BrokerHandlers.on {γ : Type} (handlers : BrokerHandlers γ) : BrokerEvent → Option γ
  | .connect => handlers.onConnect
  | .error _ => handlers.onError
  | .close => handlers.onDisconnect
  | .reconnect => .none
  | .offline => .none

namespace Broker

variable {γ : Type}

theorem emit_calls (broker : Broker γ) (event : BrokerEvent) :
    (broker.emit event).1 =
      ((broker.handlers.on event).map (⟨·, event.message?⟩)).toList := by
  cases event <;> rfl

end Broker

namespace Session

variable {γ : Type} {session : Session γ}

/-- The callback that there is for an event: that of the last request, unless its client has been
ended. -/
def listening? (session : Session γ) (event : BrokerEvent) : Option γ :=
  session.holder?.bind (·.handlers.on event)

/-- The calls that an event of a client leads to. -/
def callsOf (session : Session γ) (client : Nat) (event : BrokerEvent) : List (BrokerCall γ) :=
  (session.broker.perform (.event client event)).calls

/-- A call that an event of a client leads to is the client's own: the client is the current one,
and the request which it came of has brought the callback. -/
def IsOwn (session : Session γ) (client : Nat) (event : BrokerEvent) (call : BrokerCall γ) :
    Prop :=
  session.broker.current.map BrokerClient.number = some client ∧
    ∃ attempt ∈ session.attempts, attempt.client = some client ∧
      attempt.handlers.on event = some call.callback

/-- In the course of the operations every call is the own one of the client that reports. -/
def CallsAreOwn (operations : List (BrokerOperation γ)) : Prop :=
  ∀ earlier client event, earlier ++ [.event client event] <+: operations →
    ∀ call ∈ (of earlier).callsOf client event, (of earlier).IsOwn client event call

/-- The callbacks of a connection are those of its last request. -/
theorem IsConsistent.handlers_on (consistent : session.IsConsistent) (event : BrokerEvent) :
    session.broker.handlers.on event = session.listening? event := by
  rw [consistent.handlers, listening?]
  cases session.holder? with
  | none => cases event <;> rfl
  | some attempt => rfl

/-- An event of a client that was ever created calls what is listening. -/
theorem IsConsistent.callsOf (consistent : session.IsConsistent) (client : Nat)
    (event : BrokerEvent) :
    session.callsOf client event =
      if client ∈ session.clients then
        ((session.listening? event).map (⟨·, event.message?⟩)).toList
      else [] := by
  rw [consistent.numbered, ← consistent.handlers_on, ← session.broker.emit_calls]
  simp only [List.mem_range]
  rfl

/-- A client that was created is the current one or has been ended. -/
theorem IsConsistent.mem_clients_iff (consistent : session.IsConsistent) (client : Nat) :
    client ∈ session.clients ↔ client ∈ session.ended ∨
      session.broker.current.map BrokerClient.number = some client := by
  rw [consistent.ended, List.mem_append, Option.mem_toList]

/-- What the current client calls is its own. -/
theorem IsConsistent.isOwn (consistent : session.IsConsistent) {client : Nat}
    {event : BrokerEvent}
    (current : session.broker.current.map BrokerClient.number = some client) :
    ∀ call ∈ session.callsOf client event, session.IsOwn client event call := by
  intro call member
  obtain ⟨found, holds, rfl⟩ := Option.map_eq_some_iff.mp current
  obtain ⟨attempt, last, own, -⟩ := consistent.current found holds
  have held : session.holder? = some attempt := by
    apply holder?_of_attempt last
    intro other same
    cases own.symm.trans same
    exact consistent.current_not_mem_ended holds
  have created : found.number ∈ session.clients :=
    (consistent.mem_clients_iff _).mpr (.inr current)
  rw [consistent.callsOf, if_pos created, Option.mem_toList, listening?, held] at member
  obtain ⟨callback, given, rfl⟩ := Option.map_eq_some_iff.mp member
  exact ⟨current, attempt, List.mem_of_getLast? last, own, given⟩

/-- An event of a client that was ended must meet with nothing, or what it calls is not its own. -/
theorem IsConsistent.isOwn_iff_of_ended (consistent : session.IsConsistent) {client : Nat}
    (ended : client ∈ session.ended) (event : BrokerEvent) :
    (∀ call ∈ session.callsOf client event, session.IsOwn client event call) ↔
      session.listening? event = none := by
  have created : client ∈ session.clients := (consistent.mem_clients_iff _).mpr (.inl ended)
  rw [consistent.callsOf, if_pos created]
  constructor
  · intro own
    by_contra listening
    obtain ⟨callback, found⟩ := Option.ne_none_iff_exists'.mp listening
    have member : ⟨callback, event.message?⟩ ∈
        ((session.listening? event).map (BrokerCall.mk · event.message?)).toList := by
      rw [found]
      exact List.mem_singleton_self _
    obtain ⟨other, holds, same⟩ := Option.map_eq_some_iff.mp (own _ member).1
    exact consistent.current_not_mem_ended holds (same ▸ ended)
  · intro nothing call member
    rw [nothing] at member
    cases member

/-- Whatever is done with a connection and in whatever order: an event of a client that was ever
created calls the callback for it, if there is one, of the last request that was not ignored,
unless the client of that request has been ended; nothing else calls anything. What the current
client calls is its own. So all calls are the own ones of the clients that report if and only if
every event of a client that was ended comes when nothing listens to it: when the client of the last
request has been ended as well, or that request, successful or not, has brought no callback for
it. -/
theorem calls_are_own_iff (operations : List (BrokerOperation γ)) :
    (∀ earlier operation, earlier ++ [operation] <+: operations →
      let before := of earlier
      let calls := (before.broker.perform operation).calls
      ((∀ client event, operation ≠ .event client event) → calls = []) ∧
      ∀ client event, operation = .event client event →
        calls = (if client ∈ before.clients then
            ((before.listening? event).map (⟨·, event.message?⟩)).toList
          else []) ∧
        (before.broker.current.map BrokerClient.number = some client →
          ∀ call ∈ calls, before.IsOwn client event call)) ∧
    (CallsAreOwn operations ↔
      ∀ earlier client event, earlier ++ [.event client event] <+: operations →
        client ∈ (of earlier).ended → (of earlier).listening? event = none) := by
  constructor
  · intro earlier operation reached before calls
    have consistent : before.IsConsistent := isConsistent_of earlier
    constructor
    · intro other
      cases operation with
      | event client event => exact absurd rfl (other client event)
      | _ => rfl
    · rintro client event rfl
      exact ⟨consistent.callsOf client event, fun current => consistent.isOwn current⟩
  · constructor
    · intro own earlier client event reached ended
      exact ((isConsistent_of earlier).isOwn_iff_of_ended ended event).mp
        (own earlier client event reached)
    · intro quiet earlier client event reached
      have consistent := isConsistent_of earlier
      by_cases created : client ∈ (of earlier).clients
      · rcases (consistent.mem_clients_iff client).mp created with ended | current
        · exact (consistent.isOwn_iff_of_ended ended event).mpr
            (quiet earlier client event reached ended)
        · exact consistent.isOwn current
      · rw [consistent.callsOf, if_neg created]
        exact List.forall_mem_nil _

/-- A client is ended, another one is asked for in vain, and then the first one reports that its
connection is closed. This calls a callback of the request that had no success. -/
theorem not_callsAreOwn_of_failure :
    let operations : List (BrokerOperation Text) :=
      [.connect "mqtt://broker" none false ⟨none, some "first", none⟩ none, .disconnect,
        .connect "mqtt://broker" none false ⟨none, some "second", none⟩
          (some (.value (.str "refused")))]
    ((of operations).callsOf 0 .close).map BrokerCall.callback = [("second" : Text)] ∧
      (of operations).attempts.map Attempt.client = [some 0, none] ∧
      (of operations).broker.current = none ∧
      ¬ CallsAreOwn (operations ++ [.event 0 .close]) := by
  intro operations
  refine ⟨rfl, rfl, rfl, fun own => ?_⟩
  obtain ⟨current, -⟩ := own operations 0 .close (List.prefix_refl _) ⟨"second", none⟩
    (List.mem_singleton_self _)
  cases current

end Session

end MeterSignals
