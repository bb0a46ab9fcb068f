/-
# Units with a meaning of their own

The ASCII characters that the grammars of this library name, as units that can stand in
patterns.
-/

import MeterSignals.Text.Basic

namespace MeterSignals.Ascii

@[match_pattern] abbrev tab : UInt16 := 0x09
@[match_pattern] abbrev lineFeed : UInt16 := 0x0A
@[match_pattern] abbrev carriageReturn : UInt16 := 0x0D
@[match_pattern] abbrev space : UInt16 := 0x20
@[match_pattern] abbrev quote : UInt16 := 0x22
@[match_pattern] abbrev plus : UInt16 := 0x2B
@[match_pattern] abbrev comma : UInt16 := 0x2C
@[match_pattern] abbrev minus : UInt16 := 0x2D
@[match_pattern] abbrev dot : UInt16 := 0x2E
@[match_pattern] abbrev slash : UInt16 := 0x2F
@[match_pattern] abbrev zero : UInt16 := 0x30
@[match_pattern] abbrev colon : UInt16 := 0x3A
@[match_pattern] abbrev question : UInt16 := 0x3F
@[match_pattern] abbrev capitalB : UInt16 := 0x42
@[match_pattern] abbrev capitalE : UInt16 := 0x45
@[match_pattern] abbrev capitalO : UInt16 := 0x4F
@[match_pattern] abbrev capitalT : UInt16 := 0x54
@[match_pattern] abbrev capitalX : UInt16 := 0x58
@[match_pattern] abbrev capitalZ : UInt16 := 0x5A
@[match_pattern] abbrev openBracket : UInt16 := 0x5B
@[match_pattern] abbrev backslash : UInt16 := 0x5C
@[match_pattern] abbrev closeBracket : UInt16 := 0x5D
@[match_pattern] abbrev smallB : UInt16 := 0x62
@[match_pattern] abbrev smallE : UInt16 := 0x65
@[match_pattern] abbrev smallF : UInt16 := 0x66
@[match_pattern] abbrev smallN : UInt16 := 0x6E
@[match_pattern] abbrev smallO : UInt16 := 0x6F
@[match_pattern] abbrev smallR : UInt16 := 0x72
@[match_pattern] abbrev smallT : UInt16 := 0x74
@[match_pattern] abbrev smallU : UInt16 := 0x75
@[match_pattern] abbrev smallX : UInt16 := 0x78
@[match_pattern] abbrev openBrace : UInt16 := 0x7B
@[match_pattern] abbrev closeBrace : UInt16 := 0x7D

/-- Whether a unit is an ASCII letter. -/
def isLetter (u : UInt16) : Bool := (0x41 ≤ u && u ≤ 0x5A) || (0x61 ≤ u && u ≤ 0x7A)

/-- Whether a unit is an ASCII decimal digit. -/
def isDigit (u : UInt16) : Bool := 0x30 ≤ u && u ≤ 0x39

end MeterSignals.Ascii
