/-
# Day colors

A day of the tariff calendar is blue, white or red, or its color is not known yet, which
is `none` here. The status register of a meter holds two bits for the color of the day
and two for the color of the next day.
-/

import MeterSignals.Text.Basic

namespace MeterSignals

/-- The color of a day. -/
inductive DayColor
  | blue
  | white
  | red
  deriving DecidableEq

namespace DayColor

/-- The word for a color. -/
def label : DayColor → Text
  | blue => "BLUE"
  | white => "WHITE"
  | red => "RED"

/-- The color that a word stands for. -/
def ofLabel? (t : Text) : Option DayColor :=
  if t = "BLUE" then some blue
  else if t = "WHITE" then some white
  else if t = "RED" then some red
  else none

/-- The word for a color that may be unknown. -/
def labelOrUnknown : Option DayColor → Text
  | some c => c.label
  | none => "UNKNOWN"

/-- The color that two bits stand for; zero stands for no color. -/
def ofBits (bits : UInt32) : Option DayColor :=
  if bits = 1 then some blue
  else if bits = 2 then some white
  else if bits = 3 then some red
  else none

/-- The color in the two bits of a register from `offset` upward. -/
def ofRegister (register : Option UInt32) (offset : UInt32) : Option DayColor :=
  register.bind fun r => ofBits ((r >>> offset) &&& 3)

/-- Where the color of the day stands in the status register. -/
def todayOffset : UInt32 := 24

/-- Where the color of the next day stands in the status register. -/
def tomorrowOffset : UInt32 := 26

end DayColor

end MeterSignals
