/-
# What a message may say

A message belongs to a signal, and each signal has its own way to be written: a flag is one
digit, the tariff period and the two colors are one of a few words, and the power is a decimal
integer. All but the power are written like that whatever a line holds. A power is, too, as long
as it is finite and below 10^21: beyond that it is written with an exponent, and an infinite one,
which a text of very many digits is read as, in words.
-/

import MeterSignals.Proofs.Number.Notation
import MeterSignals.Proofs.Record.Integer
import MeterSignals.Proofs.Stream.Batches

namespace MeterSignals

/-- What messages are about. -/
inductive Signal
  | loadShed
  | hotWater
  | peak
  | dayColor
  | nextDayColor
  | power
  deriving DecidableEq

/-- The topic of a signal. -/
def Topics.of (topics : Topics) : Signal → Text
  | .loadShed => topics.loadShed
  | .hotWater => topics.hotWater
  | .peak => topics.peak
  | .dayColor => topics.dayColor
  | .nextDayColor => topics.nextDayColor
  | .power => topics.power

namespace Signal

/-- The payload is well-formed for the signal of a frame; a power has to be that of the
frame. -/
def Accepts (reading : Option Float) : Signal → Text → Prop
  | .loadShed, payload => payload ∈ (["1", "0"] : List Text)
  | .hotWater, payload => payload ∈ (["1", "0"] : List Text)
  | .peak, payload => payload ∈ (["PEAK", "OFFPEAK", "UNKNOWN"] : List Text)
  | .dayColor, payload => payload ∈ (["BLUE", "WHITE", "RED", "UNKNOWN"] : List Text)
  | .nextDayColor, payload => payload ∈ (["BLUE", "WHITE", "RED", "UNKNOWN"] : List Text)
  | .power, payload =>
    payload.isDecimal = true ∧ ∃ power, reading = some power ∧ Number.Writes payload power

end Signal

/-- Each signal that is known, with its payload. -/
def Signals.payloads (signals : Signals) : List (Signal × Text) :=
  (signals.loadShed.map fun flag => (.loadShed, flagText flag)).toList ++
  [ (.hotWater, flagText signals.hotWaterAllowed),
    (.peak, signals.period.label),
    (.dayColor, DayColor.labelOrUnknown signals.dayColor),
    (.nextDayColor, DayColor.labelOrUnknown signals.nextDayColor) ] ++
  (signals.power.map fun power => (.power, Number.text power)).toList

/-- The message of a signal. -/
def Topics.message (topics : Topics) (payload : Signal × Text) : Message :=
  ⟨topics.of payload.1, payload.2⟩

theorem Signals.batch_eq (signals : Signals) (topics : Topics) :
    signals.batch topics = signals.payloads.map topics.message := by
  rw [batch, payloads]
  cases signals.loadShed <;> cases signals.power <;> rfl

theorem flagText_mem (flag : Bool) : flagText flag ∈ (["1", "0"] : List Text) := by
  cases flag <;> decide

theorem Period.label_mem (period : Period) :
    period.label ∈ (["PEAK", "OFFPEAK", "UNKNOWN"] : List Text) := by
  cases period <;> decide

theorem DayColor.labelOrUnknown_mem (color : Option DayColor) :
    labelOrUnknown color ∈ (["BLUE", "WHITE", "RED", "UNKNOWN"] : List Text) := by
  rcases color with - | - | - | - <;> decide

namespace Signals

variable {signals : Signals} {payload : Signal × Text}

/-- A payload is well-formed whatever the signals are, unless it is that of the power, which is
written as any number. -/
theorem accepts_or_power (reading : Option Float) (member : payload ∈ signals.payloads) :
    payload.1 ≠ .power ∧ payload.1.Accepts reading payload.2 ∨
      ∃ power, signals.power = some power ∧ payload = (.power, Number.text power) := by
  rw [payloads, List.mem_append, List.mem_append] at member
  rcases member with (shed | always) | stated
  · obtain ⟨flag, -, rfl⟩ := Option.map_eq_some_iff.mp (Option.mem_toList.mp shed)
    exact .inl ⟨nofun, flagText_mem flag⟩
  · simp only [List.mem_cons, List.not_mem_nil, or_false] at always
    rcases always with rfl | rfl | rfl | rfl
    · exact .inl ⟨nofun, flagText_mem _⟩
    · exact .inl ⟨nofun, Period.label_mem _⟩
    · exact .inl ⟨nofun, DayColor.labelOrUnknown_mem _⟩
    · exact .inl ⟨nofun, DayColor.labelOrUnknown_mem _⟩
  · obtain ⟨power, known, rfl⟩ := Option.map_eq_some_iff.mp (Option.mem_toList.mp stated)
    exact .inr ⟨power, known, rfl⟩

theorem power_mem_payloads {power : Float} (known : signals.power = some power) :
    (.power, Number.text power) ∈ signals.payloads := by
  rw [payloads, known]
  exact List.mem_append_right _ (List.mem_singleton_self _)

/-- All payloads are well-formed exactly if the power, where there is one, is finite and below
10^21 in magnitude. -/
theorem forall_accepts_iff
    (whole : ∀ power, signals.power = some power → power.isFinite = true →
      ∃ n, Number.integer? power = some n) :
    (∀ payload ∈ signals.payloads, payload.1.Accepts signals.power payload.2) ↔
      ∀ power, signals.power = some power →
        power.isFinite = true ∧ |Number.value power| < 10 ^ 21 := by
  constructor
  · intro accepted power known
    have decimal := (accepted _ (power_mem_payloads known)).1
    exact (Number.isDecimal_text_iff (whole power known)).mp decimal
  · intro small payload member
    rcases accepts_or_power signals.power member with ⟨-, accepted⟩ | ⟨power, known, rfl⟩
    · exact accepted
    · have within := small power known
      refine ⟨(Number.isDecimal_text_iff (whole power known)).mpr within, power, known, ?_⟩
      obtain ⟨n, same⟩ := whole power known within.1
      exact (Number.writes_text same).1 within.2

end Signals

namespace Transcript

/-- Whatever lines hold, the batches that they lead to have a payload for each known signal of
their line, and every payload but that of the power is well-formed. They are well-formed
altogether exactly if the power that the line states, where it states one, is finite and below
10^21 in magnitude. -/
theorem payloads_of_batches (options : StreamOptions) (relayed : Bool)
    (fallback : Option Fallback) (events : List RunEvent) :
    let stream := Stream.initial options relayed fallback
    ∀ sent ∈ (of stream events).batches,
      ∃ earlier line record, ∃ payloads : List (Signal × Text),
      earlier ++ [line] <+: lines stream events ∧ sent.1 = earlier.length + 1 ∧
      Record.ofLine options.validity line = .ok record ∧
      sent.2 = payloads.map options.topics.message ∧
      let reading := (options.extract record).power
      (∀ payload ∈ payloads, payload.1 ≠ .power → payload.1.Accepts reading payload.2) ∧
      ((∀ payload ∈ payloads, payload.1.Accepts reading payload.2) ↔
        ∀ power, reading = some power →
          power.isFinite = true ∧ |Number.value power| < 10 ^ 21) := by
  intro stream sent member
  obtain ⟨earlier, line, record, color, reached, number, read, batch⟩ :=
    isBatchOf_of_mem options relayed fallback events sent member
  let signals := (options.signalsOf (earlier ++ [line]) record).completed color
  refine ⟨earlier, line, record, signals.payloads, reached, number, read,
    batch.trans (signals.batch_eq options.topics), fun payload found other => ?_, ?_⟩
  · rcases Signals.accepts_or_power (options.extract record).power found with
      ⟨-, accepted⟩ | ⟨power, -, rfl⟩
    · exact accepted
    · exact absurd rfl other
  · exact Signals.forall_accepts_iff fun power known finite =>
      Record.isWhole_of_integer? known finite

/-- A power of 8000, stated by a text, is written as the decimal integer that it is. -/
theorem payloads_of_one_line :
    let stream := Stream.initial (.usual 0) false none
    let line : Text := r#"{"_tvalide":1,"SINSTS":{"data":" 8000 "}}"#
    ∃ sent ∈ (of stream [.line line none none]).batches, ∃ payloads : List (Signal × Text),
      sent.2 = payloads.map stream.options.topics.message ∧
      ∀ payload ∈ payloads, payload.1.Accepts (some 8000) payload.2 := by
  intro stream line
  have count : (of stream [.line line none none]).batches.length = 1 := by decide +kernel
  obtain ⟨sent, batches⟩ := List.length_eq_one_iff.mp count
  have member : sent ∈ (of stream [.line line none none]).batches := by
    rw [batches]
    exact List.mem_singleton_self sent
  obtain ⟨earlier, own, record, payloads, reached, number, read, batch, -, accepted⟩ :=
    payloads_of_batches (.usual 0) false none [.line line none none] sent member
  have entered : lines stream [.line line none none] = [line] := by decide +kernel
  have same : own = line := by
    have found : own ∈ lines stream [.line line none none] :=
      reached.subset (List.mem_append_right _ (List.mem_singleton_self own))
    rw [entered] at found
    exact List.mem_singleton.mp found
  have stated : ((Record.ofLine stream.options.validity line).toOption.map fun record =>
      (stream.options.extract record).power) = some (some 8000) := by decide +kernel
  have power : (stream.options.extract record).power = some 8000 := by
    rw [← same, show Record.ofLine stream.options.validity own = .ok record from read] at stated
    exact Option.some.inj stated
  have magnitude : |Number.value 8000| < 10 ^ 21 := by
    have whole : Number.integer? 8000 = some 8000 := by decide +kernel
    rw [(Number.integer?_eq_some_iff.mp whole).2]
    norm_num
  have small : ∀ power, (stream.options.extract record).power = some power →
      power.isFinite = true ∧ |Number.value power| < 10 ^ 21 := by
    intro other known
    cases Option.some.inj (power.symm.trans known)
    exact ⟨by decide +kernel, magnitude⟩
  refine ⟨sent, member, payloads, batch, ?_⟩
  rw [← power]
  exact accepted.mpr small

/-- A power of 10^21 is written with an exponent. -/
theorem not_isDecimal_of_large_power :
    let stream := Stream.initial (.usual 0) false none
    let line : Text := r#"{"_tvalide":1,"SINSTS":{"data":1e21}}"#
    ∃ sent ∈ (of stream [.line line none none]).batches, ∃ message ∈ sent.2,
      message.topic = stream.options.topics.power ∧ message.payload = "1e+21" ∧
        message.payload.isDecimal = false := by
  decide +kernel

end Transcript

end MeterSignals
