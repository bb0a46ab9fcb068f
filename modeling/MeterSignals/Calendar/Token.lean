/-
# Tokens of the calendar service

The service hands out a token for the client's credentials. A token is kept until shortly
before it expires.
-/

import MeterSignals.Number.Exact
import MeterSignals.Text.Base64
import MeterSignals.Text.Utf8

namespace MeterSignals

/-- A token and the time, in milliseconds, at which it expires. -/
structure Token where
  value : Text
  expiresAt : Float

namespace Token

/-- Milliseconds before its expiry at which a token is no longer used. -/
def margin : Float := 60000

/-- Seconds for which a token is good if the service does not say. -/
def defaultLifetime : Float := 3600

/-- When a token that was asked for at `now` expires. -/
def expiry (lifetime now : Float) : Float := now + lifetime * 1000

/-- Whether a token that expires at some time can still be used. -/
def isUsable (expiresAt now : Float) : Bool := now < expiresAt - margin

/-- The header that carries credentials. -/
def credentialsHeader (client secret : Text) : Text :=
  "Basic " ++ Base64.encode (client ++ ":" ++ secret).toUtf8

/-- The header that carries a token. -/
def header (token : Text) : Text := "Bearer " ++ token

end Token

end MeterSignals
