/-
# Blank units and trimming

The blank units are the tab, the line breaks, the space separators and the byte-order
mark. Every one of them lies in the basic plane, so a text is trimmed unit by unit.
-/

import MeterSignals.Text.Basic

namespace MeterSignals.Text

/-- The blank units: tab to carriage return, space, no-break space, the space
separators of the basic plane, the line and paragraph separators, the byte-order mark. -/
def isBlank (u : UInt16) : Bool :=
  (0x09 ≤ u && u ≤ 0x0D) || u == 0x20 || u == 0xA0 || u == 0x1680 ||
  (0x2000 ≤ u && u ≤ 0x200A) || u == 0x2028 || u == 0x2029 || u == 0x202F ||
  u == 0x205F || u == 0x3000 || u == 0xFEFF

/-- A text without the blank units at its two ends. -/
def trim (t : Text) : Text :=
  ⟨((t.units.dropWhile isBlank).reverse.dropWhile isBlank).reverse⟩

end MeterSignals.Text
