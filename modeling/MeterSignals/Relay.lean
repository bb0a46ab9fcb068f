/-
# The relay

Every line of the input goes, as it was read, to a passive observer. A line is one
datagram; it is sent once, and nobody waits for it to arrive.
-/

import MeterSignals.Log.Entry
import MeterSignals.Text.Utf8

namespace MeterSignals

/-- Where lines are relayed to. -/
structure RelayTarget where
  host : Text
  port : Float

/-- A datagram on its way. -/
structure Datagram where
  bytes : List UInt8
  target : RelayTarget

/-- A line could not be relayed. -/
structure RelayError where
  /-- What is said about the failure, if anything is. -/
  message : Option Json
  cause : Option Failure
  deriving Inhabited

/-- A report of the relay. -/
inductive RelayNotice
  | ready (target : RelayTarget)
  | socketError (message : Text)

namespace RelayError

/-- The name of the only kind of failure. -/
def kind : Text := "SEND_FAILED"

/-- The failure in words. -/
def formatted (e : RelayError) : Text :=
  "Relay send failed: " ++ (e.message.map Json.shown).getD ("undefined" : Text)

end RelayError

namespace RelayNotice

/-- The report as an entry of the log. -/
def entry : RelayNotice → Log.Entry
  | ready target =>
    .detailed .relay .info [("host", .str target.host), ("port", .num target.port)]
      "UDP relay ready"
  | socketError message =>
    .detailed .relay .error [("error", .str message)] "UDP relay socket error"

end RelayNotice

namespace RelayTarget

/-- The datagram of a text. -/
def datagram (target : RelayTarget) (text : Text) : Datagram := ⟨text.toUtf8, target⟩

/-- How a send ends, given what the socket reports. A value that counts as nothing is no
failure. -/
def sendResult (report : Option Failure) : Except RelayError Unit :=
  match report.bind (·.asCause) with
  | none => .ok ()
  | some failure => .error ⟨failure.message?, some failure⟩

end RelayTarget

/-- The text that is relayed for a line: the line and the line feed that was taken off. -/
def relayedText (line : Text) : Text := line ++ ⟨[0x0A]⟩

end MeterSignals
