/-
# What a batch says

Signals that are unknown take no message, and a reader of a batch may be told nothing by the
topics, which can all be the same. The payloads alone say what was meant. A flag is never a word,
so the second payload tells whether the first one is the flag of the filter or that of the hot
water; what follows the four signals that are always known is the power. The power is read again
as the same number, since up to 2^53 its digits are those of the number itself.
-/

import Mathlib.Data.Option.Basic
import MeterSignals.Proofs.Number.Notation
import MeterSignals.Proofs.Record.Integer
import MeterSignals.Signal.Batch

namespace MeterSignals

/-- The flag that a digit stands for. -/
def flag? (t : Text) : Option Bool :=
  if t = "1" then some true
  else if t = "0" then some false
  else none

/-- The period that a word stands for. -/
def Period.ofLabel? (t : Text) : Option Period :=
  if t = "PEAK" then some peak
  else if t = "OFFPEAK" then some offPeak
  else if t = "UNKNOWN" then some unknown
  else none

/-- The color that a word stands for, which may be an unknown one. -/
def DayColor.ofLabelOrUnknown? (t : Text) : Option (Option DayColor) :=
  if t = "UNKNOWN" then some none else (ofLabel? t).map some

theorem flag?_flagText (flag : Bool) : flag? (flagText flag) = some flag := by
  cases flag <;> decide

/-- A word is no flag. -/
theorem flag?_label (period : Period) : flag? period.label = none := by
  cases period <;> decide

theorem Period.ofLabel?_label (period : Period) : ofLabel? period.label = some period := by
  cases period <;> decide

theorem DayColor.ofLabelOrUnknown?_labelOrUnknown (color : Option DayColor) :
    ofLabelOrUnknown? (labelOrUnknown color) = some color := by
  rcases color with - | - | - | - <;> decide

/-- Integers are the same numbers exactly if they are the same integers. -/
theorem Number.beq_iff_of_integer? {x y : Float} {m n : ℤ} (left : integer? x = some m)
    (right : integer? y = some n) : (x == y) = true ↔ m = n := by
  obtain ⟨finite, value⟩ := integer?_eq_some_iff.mp left
  obtain ⟨finite', value'⟩ := integer?_eq_some_iff.mp right
  rw [beq_iff finite finite', value, value', Int.cast_inj]

namespace Batch

/-- The power that the last payload states, if there is one. -/
def power? : List Text → Option (Option Float)
  | [] => some none
  | [payload] => (Datum.integerOfText? payload).map some
  | _ => none

/-- The signals that payloads state from that of the hot water on. -/
def signals? (loadShed : Option Bool) : List Text → Option Signals
  | hotWater :: peak :: dayColor :: nextDayColor :: rest => do
    let hotWaterAllowed ← flag? hotWater
    let period ← Period.ofLabel? peak
    let dayColor ← DayColor.ofLabelOrUnknown? dayColor
    let nextDayColor ← DayColor.ofLabelOrUnknown? nextDayColor
    let power ← power? rest
    return { loadShed, hotWaterAllowed, period, dayColor, nextDayColor, power }
  | _ => none

/-- The signals that a batch states by its payloads alone. Two flags in front are those of the
filter and of the hot water. -/
def read? (batch : Batch) : Option Signals :=
  match batch.map Message.payload with
  | first :: second :: rest =>
    if (flag? second).isSome then
      (flag? first).bind fun flag => signals? (some flag) (second :: rest)
    else signals? none (first :: second :: rest)
  | _ => none

end Batch

namespace Signals

/-- The same signals; powers are compared as numbers. -/
structure Same (signals others : Signals) : Prop where
  apart : { signals with power := none } = { others with power := none }
  power : Option.Rel (fun x y => (x == y) = true) signals.power others.power

/-- The power, where it is known, is an integer of at most 53 bits. -/
def HasExactPower (signals : Signals) : Prop :=
  ∀ power, signals.power = some power →
    ∃ n : ℤ, Number.integer? power = some n ∧ n.natAbs ≤ 2 ^ 53 - 1

/-- The message about the power stands behind all others. -/
theorem batch_eq_append (signals : Signals) (topics : Topics) :
    signals.batch topics = { signals with power := none }.batch topics ++
      (signals.power.map fun power => ⟨topics.power, Number.text power⟩).toList := by
  rw [batch, batch]
  dsimp only
  rw [Option.map_none, Option.toList_none, List.append_nil]

/-- Reading a batch gives the signals back, but for the power, which is read from its digits. -/
theorem read?_batch (signals : Signals) (topics : Topics) :
    Batch.read? (signals.batch topics) =
      (Batch.power? (signals.power.map Number.text).toList).map fun power =>
        { signals with power } := by
  rw [Batch.read?, batch]
  cases signals.loadShed <;> cases signals.power <;>
    simp [flag?_flagText, flag?_label, Batch.signals?, Period.ofLabel?_label,
      DayColor.ofLabelOrUnknown?_labelOrUnknown, Option.map_eq_bind]

variable {signals others : Signals}

namespace HasExactPower

theorem whole (fits : signals.HasExactPower) :
    ∀ x ∈ signals.power, ∃ n, Number.integer? x = some n := by
  intro x known
  obtain ⟨n, whole, -⟩ := fits x known
  exact ⟨n, whole⟩

/-- Digits of 53 bits are read as the number that they were written for. -/
theorem exists_power? (fits : signals.HasExactPower) :
    ∃ power, Batch.power? (signals.power.map Number.text).toList = some power ∧
      power.map Number.integer? = signals.power.map Number.integer? := by
  cases known : signals.power with
  | none => exact ⟨none, rfl, rfl⟩
  | some power =>
      obtain ⟨n, whole, bits⟩ := fits power known
      have small : n.natAbs ≤ 2 ^ 53 := by omega
      obtain ⟨x, read, approximates⟩ := Datum.exists_integerOfText?_ofInt n
      have again : Number.integer? x = some n :=
        Number.integer?_eq_some_iff.mpr (approximates.value_eq_of_le small)
      refine ⟨some x, ?_, ?_⟩
      · rw [Option.map_some, Number.text_eq_ofInt whole small]
        exact congrArg (Option.map some) read
      · rw [Option.map_some, Option.map_some, again, whole]

/-- The same integers are written in the same way. -/
theorem text_eq (fits : signals.HasExactPower)
    (integers : signals.power.map Number.integer? = others.power.map Number.integer?) :
    signals.power.map Number.text = others.power.map Number.text := by
  cases known : signals.power with
  | none =>
      rw [known] at integers
      rw [Option.map_eq_none_iff.mp integers.symm]
  | some x =>
      obtain ⟨n, whole, bits⟩ := fits x known
      rw [known, Option.map_some, whole] at integers
      obtain ⟨y, known', whole'⟩ := Option.map_eq_some_iff.mp integers.symm
      rw [known', Option.map_some, Option.map_some, Number.text_eq_ofInt whole (by omega),
        Number.text_eq_ofInt whole' (by omega)]

end HasExactPower

/-- Powers that are integers are the same numbers exactly if they are the same integers. -/
theorem rel_beq_iff {left right : Option Float}
    (whole : ∀ x ∈ left, ∃ n, Number.integer? x = some n)
    (whole' : ∀ y ∈ right, ∃ n, Number.integer? y = some n) :
    Option.Rel (fun x y => (x == y) = true) left right ↔
      left.map Number.integer? = right.map Number.integer? := by
  cases left with
  | none => cases right <;> simp
  | some x =>
      cases right with
      | none => simp
      | some y =>
          obtain ⟨m, left⟩ := whole x rfl
          obtain ⟨n, right⟩ := whole' y rfl
          simp [Number.beq_iff_of_integer? left right, left, right]

/-- What has the integers of a power is an integer. -/
theorem whole_of_map_eq {left right : Option Float}
    (integers : left.map Number.integer? = right.map Number.integer?)
    (whole : ∀ y ∈ right, ∃ n, Number.integer? y = some n) :
    ∀ x ∈ left, ∃ n, Number.integer? x = some n := by
  rintro x rfl
  rw [Option.map_some] at integers
  obtain ⟨y, known, same⟩ := Option.map_eq_some_iff.mp integers.symm
  rw [← same]
  exact whole y known

/-- Reading a batch gives the signals of the frame. -/
theorem exists_read? (fits : signals.HasExactPower) (topics : Topics) :
    ∃ read, Batch.read? (signals.batch topics) = some read ∧ read.Same signals := by
  obtain ⟨power, read, integers⟩ := fits.exists_power?
  refine ⟨{ signals with power }, ?_, rfl, ?_⟩
  · rw [read?_batch, read, Option.map_some]
  · exact (rel_beq_iff (whole_of_map_eq integers fits.whole) fits.whole).mpr integers

/-- Frames with the same batch have the same signals. -/
theorem same_of_batch_eq (fits : signals.HasExactPower) (fits' : others.HasExactPower)
    {topics topics' : Topics} (batches : signals.batch topics = others.batch topics') :
    signals.Same others := by
  obtain ⟨power, read, integers⟩ := fits.exists_power?
  obtain ⟨power', read', integers'⟩ := fits'.exists_power?
  have both := congrArg Batch.read? batches
  rw [read?_batch, read, read?_batch, read', Option.map_some, Option.map_some,
    Option.some.injEq] at both
  have powers : power = power' := congrArg Signals.power both
  refine ⟨congrArg (fun signals => { signals with power := none }) both, ?_⟩
  apply (rel_beq_iff fits.whole fits'.whole).mpr
  rw [← integers, powers, integers']

/-- Frames with the same signals have the same batch. -/
theorem Same.batch_eq (same : signals.Same others) (fits : signals.HasExactPower)
    (fits' : others.HasExactPower) (topics : Topics) :
    signals.batch topics = others.batch topics := by
  have integers := (rel_beq_iff fits.whole fits'.whole).mp same.power
  have message (power : Option Float) :
      (power.map fun power => (⟨topics.power, Number.text power⟩ : Message)) =
        (power.map Number.text).map (Message.mk topics.power) := by
    rw [Option.map_map]
    rfl
  rw [batch_eq_append signals, batch_eq_append others, same.apart, message, message,
    fits.text_eq integers]

/-- A batch can be read by its payloads alone, and frames have the same batch exactly if they have
the same signals, those that are unknown included. -/
theorem batch_is_faithful (topics : Topics) (signals : Signals)
    (fits : signals.HasExactPower) :
    (∃ read, Batch.read? (signals.batch topics) = some read ∧ read.Same signals) ∧
      ∀ others : Signals, others.HasExactPower →
        (signals.batch topics = others.batch topics ↔ signals.Same others) := by
  refine ⟨exists_read? fits topics, fun others fits' => ?_⟩
  constructor
  · intro batches
    exact same_of_batch_eq fits fits' batches
  · intro same
    exact same.batch_eq fits fits' topics

/-- A frame without a flag and one without a power, with as many messages and all of them under
one topic. -/
theorem batches_of_two_frames :
    let topics : Topics := ⟨"meter", "meter", "meter", "meter", "meter", "meter"⟩
    let metered : Signals := ⟨none, true, .peak, none, none, some 1⟩
    let shed : Signals := ⟨some true, true, .peak, none, none, none⟩
    (metered.batch topics).map Message.topic = (shed.batch topics).map Message.topic ∧
      (∃ read, Batch.read? (metered.batch topics) = some read ∧ read.Same metered) ∧
      metered.batch topics ≠ shed.batch topics := by
  intro topics metered shed
  have one : Number.integer? 1 = some 1 := by decide +kernel
  have fits : metered.HasExactPower := by
    rintro power ⟨⟩
    exact ⟨1, one, by decide⟩
  obtain ⟨read, same_iff⟩ := batch_is_faithful topics metered fits
  refine ⟨rfl, read, fun batches => ?_⟩
  have same := (same_iff shed nofun).mp batches
  cases congrArg Signals.loadShed same.apart

end Signals

end MeterSignals
