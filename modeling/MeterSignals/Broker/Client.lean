/-
# The connection to the broker

At most one client is current. A client is created by a connect and stays current until
the disconnect; clients are numbered in the order of their creation. Events may still come
from a client that is no longer current. The callbacks and the retain flag are those of the
last connect that was not ignored, whether it succeeded or not.

Messages that cannot be sent at once are not queued: a batch that is missed during an
outage is lost, and nothing of it is sent later. The messages of a batch are handed over one after
the other and then waited for together, until the first refusal comes or all are accepted.
-/

import MeterSignals.Broker.Error
import MeterSignals.Broker.Notice
import MeterSignals.Signal.Batch

namespace MeterSignals

/-- A client of the broker library. -/
structure BrokerClient where
  number : Nat
  connected : Bool
  deriving DecidableEq

/-- The callbacks for connection events; `γ` is the type of a callback. -/
structure BrokerHandlers (γ : Type) where
  onConnect : Option γ
  onDisconnect : Option γ
  onError : Option γ

/-- The state of the broker connection. -/
structure Broker (γ : Type) where
  /-- How many clients have been created. -/
  created : Nat
  current : Option BrokerClient
  retain : Bool
  handlers : BrokerHandlers γ

/-- How a client is set up. -/
structure ConnectOptions where
  /-- Milliseconds between two attempts to connect again. -/
  reconnectPeriod : Nat
  /-- Milliseconds after which an attempt is given up. -/
  connectTimeout : Nat
  /-- Whether messages are kept while the client is offline. -/
  queueQoSZero : Bool
  clientId : Option Text

/-- How a message is published. -/
structure PublishOptions where
  qualityOfService : Nat
  retain : Bool
  deriving DecidableEq

/-- A message that is handed to a client. -/
structure Publication where
  client : Nat
  message : Message
  options : PublishOptions
  deriving DecidableEq

/-- What the connection does to the outside. -/
inductive BrokerEffect
  /-- A client is asked for. -/
  | connect (url : Text) (options : ConnectOptions)
  /-- A message is handed to a client. -/
  | publish (client : Nat) (message : Message) (options : PublishOptions)
  /-- A client is ended. -/
  | finish (client : Nat)

/-- An event of a client. -/
inductive BrokerEvent
  | connect
  | error (message : Text)
  | close
  | reconnect
  | offline
  deriving DecidableEq

/-- A callback that is called, with the message of an error event. -/
structure BrokerCall (γ : Type) where
  callback : γ
  message : Option Text

/-- What a client does with a message that is handed to it. -/
inductive Acceptance
  | accepted
  /-- It is refused later, by a promise that is broken. Moments are counted alike for all messages
  of a batch. -/
  | rejected (failure : Failure) (moment : Nat)
  /-- Handing it over throws at once. -/
  | threw (failure : Failure)

namespace BrokerHandlers

/-- No callback at all. -/
def none {γ : Type} : BrokerHandlers γ := ⟨.none, .none, .none⟩

end BrokerHandlers

namespace ConnectOptions

/-- The options of a client; an empty identifier is left out. -/
def forClient (clientId : Option Text) : ConnectOptions :=
  { reconnectPeriod := 5000
    connectTimeout := 10000
    queueQoSZero := false
    clientId := clientId.filter (!·.isEmpty) }

end ConnectOptions

namespace PublishOptions

/-- A message is sent once and not confirmed. -/
def atMostOnce (retain : Bool) : PublishOptions := ⟨0, retain⟩

end PublishOptions

namespace BrokerEffect

/-- The message that is handed over, with its options. -/
def publication? : BrokerEffect → Option Publication
  | publish client message options => some ⟨client, message, options⟩
  | _ => none

end BrokerEffect

namespace Broker

variable {γ : Type}

/-- No client has been created yet. -/
def initial : Broker γ := ⟨0, none, false, BrokerHandlers.none⟩

/-- Whether the current client is connected. -/
def isConnected (broker : Broker γ) : Bool := broker.current.any (·.connected)

/-- Connect to a broker unless a client is current; `thrown` is what creating the client
throws, if it does. Says whether there is a client now. -/
def connect (broker : Broker γ) (url : Text) (clientId : Option Text) (retain : Bool)
    (handlers : BrokerHandlers γ) (thrown : Option Failure) :
    Broker γ × Bool × List BrokerEffect × List BrokerNotice :=
  match broker.current with
  | some _ => (broker, true, [], [.alreadyRunning])
  | none =>
    let effects := [.connect url (ConnectOptions.forClient clientId)]
    let prepared := { broker with retain := retain, handlers := handlers }
    match thrown with
    | some failure => (prepared, false, effects, [.connecting url, .connectFailed failure])
    | none =>
      let client := ⟨broker.created, false⟩
      ({ prepared with created := broker.created + 1, current := some client }, true, effects,
        [.connecting url])

/-- A client reports that it is connected, or no longer. -/
def setConnected (broker : Broker γ) (client : Nat) (connected : Bool) : Broker γ :=
  { broker with
    current := broker.current.map fun c =>
      if c.number = client then { c with connected := connected } else c }

/-- An event of any client that was ever created: the callback it leads to and the report. -/
def emit (broker : Broker γ) : BrokerEvent → List (BrokerCall γ) × List BrokerNotice
  | .connect => (calls broker.handlers.onConnect none, [.connected])
  | .error message => (calls broker.handlers.onError (some message), [.clientError message])
  | .close => (calls broker.handlers.onDisconnect none, [.closed])
  | .reconnect => ([], [.reconnecting])
  | .offline => ([], [.offline])
where
  /-- The call of a callback, if there is one. -/
  calls (callback : Option γ) (message : Option Text) : List (BrokerCall γ) :=
    (callback.map fun c => ⟨c, message⟩).toList

/-- End the current client, if there is one. -/
def disconnect (broker : Broker γ) : Broker γ × List BrokerEffect × List BrokerNotice :=
  match broker.current with
  | none => (broker, [], [])
  | some client =>
    ({ broker with current := none, handlers := BrokerHandlers.none },
      [.finish client.number], [.disconnecting])

/-- The messages that are handed over: all of them up to the first one at which that
throws. -/
def handedOver : Batch → List Acceptance → Batch
  | [], _ => []
  | message :: _, .threw _ :: _ => [message]
  | message :: rest, _ :: acceptances => message :: handedOver rest acceptances
  | message :: rest, [] => message :: handedOver rest []

/-- The refusal that comes first, with its moment. Of those that come together it is that of the
foremost message. -/
def firstRefusal? : List Acceptance → Option (Failure × Nat)
  | [] => none
  | .rejected failure moment :: rest =>
    match firstRefusal? rest with
    | some (other, earlier) =>
      if earlier < moment then some (other, earlier) else some (failure, moment)
    | none => some (failure, moment)
  | _ :: rest => firstRefusal? rest

/-- What stops a batch: the first message at which handing over throws, else the refusal that comes
first. -/
def failureOf (acceptances : List Acceptance) : Option Failure :=
  let thrown := acceptances.findSome? fun
    | .threw failure => some failure
    | _ => none
  thrown.or ((firstRefusal? acceptances).map Prod.fst)

/-- Publish a batch through the current client. The acceptances say what becomes of each
message, by position; the ones that are missing are accepted. -/
def publish (broker : Broker γ) (batch : Batch) (acceptances : List Acceptance) :
    Except PublishError Unit × List BrokerEffect × List BrokerNotice :=
  match broker.current.filter (·.connected) with
  | none => (.error (.notConnected "MQTT client is not connected"), [], [])
  | some client =>
    let topics := batch.map (·.topic)
    let effects := (handedOver batch acceptances).map fun message =>
      .publish client.number message (.atMostOnce broker.retain)
    match failureOf (acceptances.take batch.length) with
    | none => (.ok (), effects, [.batchPublished topics])
    | some failure =>
      let cause := failure.toFault
      (.error (.publishFailed cause.message topics (some (.fault cause))), effects, [])

end Broker

end MeterSignals
