/-
# Tariff periods

The tariff index of a meter tells cheap hours from dear ones by its parity.
-/

import MeterSignals.Number.Exact
import MeterSignals.Text.Basic

namespace MeterSignals

/-- The tariff period of a frame. -/
inductive Period
  | peak
  | offPeak
  | unknown
  deriving DecidableEq

namespace Period

/-- The word for a period. -/
def label : Period → Text
  | peak => "PEAK"
  | offPeak => "OFFPEAK"
  | unknown => "UNKNOWN"

/-- Odd tariff indexes are off-peak; every other index is peak. -/
def ofIndex : Option Float → Period
  | none => unknown
  | some index => if Number.isOdd index then offPeak else peak

end Period

end MeterSignals
