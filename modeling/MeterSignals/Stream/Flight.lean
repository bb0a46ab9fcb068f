/-
# Lines on their way

Once a line has been taken in, two things are under way at the same time: the line goes to
the observer, and its batch, if it has one, goes to the broker. Either may succeed, report
an error, or break off by throwing something. The line is done when both have ended, or as
soon as one of them breaks off; the first break is the failure of the line, and what is
still under way then goes on by itself.
-/

import MeterSignals.Notice
import MeterSignals.Stream.Intake

namespace MeterSignals

/-- How a send to the observer ends: it may report an error, or break off. -/
abbrev RelayReply := Except Failure (Except RelayError Unit)

/-- How a publication ends: it may report an error, or break off. -/
abbrev PublishReply := Except Failure (Except PublishError Unit)

/-- What a line came to. -/
inductive Outcome
  | rejected (rejection : Rejection)
  | throttled (signals : Signals)
  | published (signals : Signals) (result : Except PublishError Unit)

/-- How far a leg has come. -/
inductive Leg (α : Type)
  | pending
  | done (result : α)
  | broken (failure : Failure)

/-- How far the derivation of a line has come. -/
inductive Derivation
  /-- The batch of these signals is under way. -/
  | publishing (signals : Signals)
  | done (outcome : Outcome)
  | broken (failure : Failure)

/-- A line on its way. -/
structure Flight where
  relay : Leg Unit
  derivation : Derivation
  /-- What the line came to, or what broke it off; `none` as long as it is not done. -/
  result : Option (Except Failure Outcome)

namespace Flight

/-- Close the line if it is done. Nothing changes a line that is closed. -/
def join (flight : Flight) : Flight :=
  match flight.result with
  | some _ => flight
  | none =>
    match flight.relay, flight.derivation with
    | .broken failure, _ => { flight with result := some (.error failure) }
    | _, .broken failure => { flight with result := some (.error failure) }
    | .done (), .done outcome => { flight with result := some (.ok outcome) }
    | _, _ => flight

/-- A line that starts on its way. Without an observer the relay has nothing to do. -/
def start (relayed : Bool) (derivation : Derivation) : Flight :=
  join ⟨if relayed then .pending else .done (), derivation, none⟩

/-- The send to the observer ends. -/
def settleRelay (flight : Flight) (reply : RelayReply) : Flight × List StreamNotice :=
  match flight.relay, reply with
  | .pending, .error failure => (join { flight with relay := .broken failure }, [])
  | .pending, .ok (.ok ()) => (join { flight with relay := .done () }, [])
  | .pending, .ok (.error e) => (join { flight with relay := .done () }, [.relayFailed e])
  | _, _ => (flight, [])

/-- The publication ends. -/
def settlePublication (flight : Flight) (reply : PublishReply) :
    Flight × List StreamNotice :=
  match flight.derivation with
  | .publishing signals =>
    match reply with
    | .error failure => (join { flight with derivation := .broken failure }, [])
    | .ok result =>
      let notice := match result with
        | .ok () => StreamNotice.published signals
        | .error e => StreamNotice.notPublished e
      (join { flight with derivation := .done (.published signals result) }, [notice])
  | _ => (flight, [])

/-- Whether both legs have ended. -/
def isLanded (flight : Flight) : Bool :=
  match flight.relay, flight.derivation with
  | .pending, _ => false
  | _, .publishing _ => false
  | _, _ => true

end Flight

end MeterSignals
