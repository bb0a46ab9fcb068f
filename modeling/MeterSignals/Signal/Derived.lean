/-
# Signals of a frame

What one record says by itself, before the filter and the calendar come in: the tariff
period, whether the contract asks for load shedding, whether hot water may be heated, the
two colors and the power. The signals to publish add the filter's flag to that.
-/

import MeterSignals.Record.Basic
import MeterSignals.Signal.DayColor
import MeterSignals.Signal.Period

namespace MeterSignals

/-- The codes of the fields that carry signals. -/
structure SignalCodes where
  power : Text
  tariff : Text
  relays : Text
  status : Text

/-- What one record says by itself. -/
structure Extract where
  period : Period
  /-- The tariff asks for load shedding whatever the power is. -/
  overrideShed : Bool
  hotWaterAllowed : Bool
  dayColor : Option DayColor
  nextDayColor : Option DayColor
  power : Option Float

/-- Everything that is published for one frame. What is unknown is left out. -/
structure Signals where
  loadShed : Option Bool
  hotWaterAllowed : Bool
  period : Period
  dayColor : Option DayColor
  nextDayColor : Option DayColor
  power : Option Float

/-- Hot water may be heated when the first relay, bit 0 of the mask, is closed. Without a
mask it may not. -/
def isHotWaterAllowed : Option Float → Bool
  | none => false
  | some mask => Number.wrap32 mask &&& 1 == 1

/-- Whether the tariff index is the one that asks for load shedding. -/
def isRedPeak (redPeak tariff : Option Float) : Bool :=
  match redPeak, tariff with
  | some wanted, some index => index == wanted
  | _, _ => false

/-- The override wins; without it the flag of the filter holds, known or not. -/
def combineLoadShed (overrideShed : Bool) (flag : Option Bool) : Option Bool :=
  if overrideShed then some true else flag

namespace Extract

/-- Read the signals of a record. -/
def ofRecord (codes : SignalCodes) (redPeak : Option Float) (record : Record) : Extract :=
  let tariff := record.integer? codes.tariff
  let status := record.register? codes.status
  { period := Period.ofIndex tariff
    overrideShed := isRedPeak redPeak tariff
    hotWaterAllowed := isHotWaterAllowed (record.integer? codes.relays)
    dayColor := DayColor.ofRegister status DayColor.todayOffset
    nextDayColor := DayColor.ofRegister status DayColor.tomorrowOffset
    power := record.integer? codes.power }

/-- The signals to publish, given the flag of the filter. -/
def signals (extract : Extract) (flag : Option Bool) : Signals :=
  { loadShed := combineLoadShed extract.overrideShed flag
    hotWaterAllowed := extract.hotWaterAllowed
    period := extract.period
    dayColor := extract.dayColor
    nextDayColor := extract.nextDayColor
    power := extract.power }

end Extract

end MeterSignals
