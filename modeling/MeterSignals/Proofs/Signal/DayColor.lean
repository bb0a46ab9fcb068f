/-
# The colors in the status register

The color of the day stands in the bits 24 and 25 of the status register, that of the next day in
the bits 26 and 27. Both are digits of the register to the base four, so they follow from the
number that the field states, in whichever of its forms, and from nothing else: a field that states
no register leaves both colors unknown, and registers that agree in these four bits have the same
colors.
-/

import MeterSignals.Proofs.Record.Register
import MeterSignals.Signal.Derived

namespace MeterSignals

open Number (value integer? integer?_eq_some_iff)

namespace DayColor

/-- The colors in the order of their codes. -/
def byCode : List (Option DayColor) := [none, some blue, some white, some red]

theorem byCode_ofBits {bits : UInt32} (few : bits.toNat < 4) :
    byCode[bits.toNat]? = some (ofBits bits) := by
  have same : bits = UInt32.ofNat bits.toNat := UInt32.ofNat_toNat.symm
  generalize bits.toNat = code at few same
  subst same
  interval_cases code <;> rfl

/-- The color in a register is a digit of it to the base four. -/
theorem byCode_ofRegister (r offset : UInt32) (low : offset.toNat < 32) :
    byCode[r.toNat / 2 ^ offset.toNat % 4]? = some (ofRegister (some r) offset) := by
  have bits : ((r >>> offset) &&& 3).toNat = r.toNat / 2 ^ offset.toNat % 4 := by
    rw [UInt32.toNat_and, UInt32.toNat_shiftRight, Nat.mod_eq_of_lt low, Nat.shiftRight_eq_div_pow]
    exact Nat.and_two_pow_sub_one_eq_mod _ 2
  rw [← bits]
  refine byCode_ofBits ?_
  rw [bits]
  exact Nat.mod_lt _ (by decide)

end DayColor

namespace Extract

open DayColor (byCode byCode_ofRegister)

variable {codes : SignalCodes} {redPeak : Option Float} {record other : Record}

/-- The colors of a record are those in the register that its status field states. -/
theorem colors_of_states (redPeak : Option Float) {datum : Datum} {n : ℕ}
    (found : record.datum? codes.status = some datum) (states : datum.States n) :
    record.register? codes.status = some n.toUInt32 ∧
      byCode[n / 2 ^ 24 % 4]? = some (ofRecord codes redPeak record).dayColor ∧
      byCode[n / 2 ^ 26 % 4]? = some (ofRecord codes redPeak record).nextDayColor := by
  have read : record.register? codes.status = some n.toUInt32 := by
    rw [Record.register?_eq, found]
    exact states.register?
  have bits : n.toUInt32.toNat = n := Nat.mod_eq_of_lt states.lt
  have today := byCode_ofRegister n.toUInt32 DayColor.todayOffset (by decide)
  have tomorrow := byCode_ofRegister n.toUInt32 DayColor.tomorrowOffset (by decide)
  rw [bits] at today tomorrow
  refine ⟨read, ?_, ?_⟩
  · rw [ofRecord, read]
    exact today
  · rw [ofRecord, read]
    exact tomorrow

theorem colors_of_none (unread : record.register? codes.status = none) :
    (ofRecord codes redPeak record).dayColor = none ∧
      (ofRecord codes redPeak record).nextDayColor = none := by
  constructor <;> rw [ofRecord, unread] <;> rfl

/-- Registers that agree in the bits 24 to 27 have the same colors. -/
theorem colors_congr {datum datum' : Datum} {n n' : ℕ}
    (found : record.datum? codes.status = some datum) (states : datum.States n)
    (found' : other.datum? codes.status = some datum') (states' : datum'.States n')
    (same : n / 2 ^ 24 % 2 ^ 4 = n' / 2 ^ 24 % 2 ^ 4) :
    (ofRecord codes redPeak record).dayColor = (ofRecord codes redPeak other).dayColor ∧
      (ofRecord codes redPeak record).nextDayColor =
        (ofRecord codes redPeak other).nextDayColor := by
  obtain ⟨-, today, tomorrow⟩ := colors_of_states redPeak found states
  obtain ⟨-, today', tomorrow'⟩ := colors_of_states redPeak found' states'
  have low : n / 2 ^ 24 % 4 = n' / 2 ^ 24 % 4 := by omega
  have high : n / 2 ^ 26 % 4 = n' / 2 ^ 26 % 4 := by omega
  rw [low] at today
  rw [high] at tomorrow
  exact ⟨Option.some.inj (today.symm.trans today'),
    Option.some.inj (tomorrow.symm.trans tomorrow')⟩

/-- The status register of a record is the number that its status field states, of whichever form
that is, and there is none where the field is missing or states none. The colors are those at two
digits of this number to the base four; without a register they are unknown. A register may be
written as an unsigned or as a signed integer of 32 bits; and records whose registers agree in the
bits 24 to 27 have the same colors, whatever forms these are written in. -/
theorem colors_follow_register (codes : SignalCodes) (redPeak : Option Float) (record : Record) :
    let extract := ofRecord codes redPeak
    (∀ n, (record.register? codes.status).map UInt32.toNat = some n ↔
      ∃ datum ∈ record.datum? codes.status, datum.States n) ∧
    (∀ datum ∈ record.datum? codes.status, ∀ n, datum.States n →
      n < 2 ^ 32 ∧ byCode[n / 2 ^ 24 % 4]? = some (extract record).dayColor ∧
        byCode[n / 2 ^ 26 % 4]? = some (extract record).nextDayColor) ∧
    ((∀ datum ∈ record.datum? codes.status, ∀ n, ¬ datum.States n) →
      record.register? codes.status = none ∧ (extract record).dayColor = none ∧
        (extract record).nextDayColor = none) ∧
    (∀ (n : ℕ) (x : Float), n < 2 ^ 32 → x.isFinite = true →
      value x = n ∨ value x = (n : ℤ).bmod (2 ^ 32) → Datum.States (.number x) n) ∧
    ∀ other, ∀ datum ∈ record.datum? codes.status, ∀ datum' ∈ other.datum? codes.status,
      ∀ n n', datum.States n → datum'.States n' → n / 2 ^ 24 % 2 ^ 4 = n' / 2 ^ 24 % 2 ^ 4 →
        (extract record).dayColor = (extract other).dayColor ∧
          (extract record).nextDayColor = (extract other).nextDayColor := by
  intro extract
  have register : record.register? codes.status =
      (record.datum? codes.status).bind Datum.register? := Record.register?_eq _ _
  refine ⟨fun n => ⟨fun read => ?_, ?_⟩, fun datum found n states => ?_, fun unread => ?_,
    fun n x bits finite whole => Datum.states_of_form bits finite whole,
    fun other datum found datum' found' n n' states states' same =>
      colors_congr found states found' states' same⟩
  · obtain ⟨r, given, rfl⟩ := Option.map_eq_some_iff.mp read
    rw [register] at given
    obtain ⟨datum, found, stated⟩ := Option.bind_eq_some_iff.mp given
    exact ⟨datum, found, Datum.states_of_register? stated⟩
  · rintro ⟨datum, found, states⟩
    rw [(colors_of_states redPeak found states).1]
    exact congrArg some (Nat.mod_eq_of_lt states.lt)
  · exact ⟨states.lt, (colors_of_states redPeak found states).2⟩
  · have none : record.register? codes.status = none := by
      rw [register, Option.bind_eq_none_iff]
      intro datum found
      refine Option.eq_none_iff_forall_ne_some.mpr fun r read => ?_
      exact unread datum found r.toNat (Datum.states_of_register? read)
    exact ⟨none, colors_of_none none⟩

/-- One register, unsigned, signed and in hexadecimal digits: white today, red tomorrow. -/
theorem colors_of_three_spellings :
    let codes : SignalCodes := ⟨"SINSTS", "NTARF", "RELAIS", "STGE"⟩
    let carries (datum : Datum) : Record := ⟨[("STGE", ⟨datum, none⟩)]⟩
    let unsigned := carries (.number 2382408653)
    let signed := carries (.number (-1912558643))
    let spelled := carries (.text " 8E00aBcD\n")
    (ofRecord codes none unsigned).dayColor = some .white ∧
      (ofRecord codes none unsigned).nextDayColor = some .red ∧
      (ofRecord codes none unsigned).dayColor = (ofRecord codes none signed).dayColor ∧
      (ofRecord codes none unsigned).nextDayColor = (ofRecord codes none spelled).nextDayColor := by
  intro codes carries unsigned signed spelled
  obtain ⟨-, colors, -, forms, alike⟩ := colors_follow_register codes none unsigned
  have integer : integer? 2382408653 = some 2382408653 := by decide +kernel
  have integer' : integer? (-1912558643) = some (-1912558643) := by decide +kernel
  have first : Datum.States (.number 2382408653) 2382408653 :=
    forms _ _ (by decide) (integer?_eq_some_iff.mp integer).1
      (.inl (by exact_mod_cast (integer?_eq_some_iff.mp integer).2))
  have second : Datum.States (.number (-1912558643)) 2382408653 :=
    forms _ _ (by decide) (integer?_eq_some_iff.mp integer').1
      (.inr (integer?_eq_some_iff.mp integer').2)
  have third : Datum.States (.text " 8E00aBcD\n") 2382408653 :=
    Datum.states_of_register? (r := 2382408653) (by decide +kernel)
  obtain ⟨-, today, tomorrow⟩ := colors _ rfl _ first
  exact ⟨(Option.some.inj today).symm, (Option.some.inj tomorrow).symm,
    (alike signed _ rfl _ rfl _ _ first second rfl).1,
    (alike spelled _ rfl _ rfl _ _ first third rfl).2⟩

end Extract

end MeterSignals
