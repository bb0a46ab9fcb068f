/-
# Batches of messages

The signals of one frame are published as one batch, in a fixed order of topics. A signal
that is unknown takes no message.
-/

import MeterSignals.Signal.Derived

namespace MeterSignals

/-- The topic of each signal. -/
structure Topics where
  loadShed : Text
  hotWater : Text
  peak : Text
  dayColor : Text
  nextDayColor : Text
  power : Text

/-- One message of a batch. -/
structure Message where
  topic : Text
  payload : Text
  deriving DecidableEq

/-- The messages of one frame. -/
abbrev Batch := List Message

/-- A flag as one digit. -/
def flagText (flag : Bool) : Text := if flag then "1" else "0"

namespace Signals

/-- The batch of a frame. -/
def batch (signals : Signals) (topics : Topics) : Batch :=
  (signals.loadShed.map fun flag => ⟨topics.loadShed, flagText flag⟩).toList ++
  [ ⟨topics.hotWater, flagText signals.hotWaterAllowed⟩,
    ⟨topics.peak, signals.period.label⟩,
    ⟨topics.dayColor, DayColor.labelOrUnknown signals.dayColor⟩,
    ⟨topics.nextDayColor, DayColor.labelOrUnknown signals.nextDayColor⟩ ] ++
  (signals.power.map fun power => ⟨topics.power, Number.text power⟩).toList

end Signals

end MeterSignals
