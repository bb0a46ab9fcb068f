/-
# Why a batch is not published

A batch that could not be published is reported and then forgotten: the next batch brings
fresh values.
-/

import MeterSignals.Fault

namespace MeterSignals

/-- Why a batch is not published. -/
inductive PublishError
  /-- No client is connected, so nothing was handed over. -/
  | notConnected (message : Text)
  /-- Some message of the batch was not accepted. -/
  | publishFailed (message : Text) (topics : List Text) (cause : Option Failure)
  deriving Inhabited

namespace PublishError

/-- The name of the kind. -/
def kind : PublishError → Text
  | notConnected _ => "NOT_CONNECTED"
  | publishFailed .. => "PUBLISH_FAILED"

/-- What is said about the failure. -/
def message : PublishError → Text
  | notConnected m => m
  | publishFailed m _ _ => m

/-- The failure in words. -/
def formatted : PublishError → Text
  | notConnected m => "Not connected: " ++ m
  | publishFailed m _ _ => "Publish failed: " ++ m

end PublishError

end MeterSignals
