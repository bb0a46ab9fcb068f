/-
# Signals of integer fields

The tariff period and the permission to heat water are the parity of an integer, the period by the
number itself and the permission by the lowest of its 32 low bits. Both are the parity of the
integer as it stands in the field, of either sign and beyond 32 bits. The tariff that asks for load
shedding is recognised by its number, and the power is the number itself. So none of these tells
in which way the frame writes its integers.
-/

import Mathlib.Algebra.Group.Int.Even
import MeterSignals.Proofs.Record.Encoding
import MeterSignals.Proofs.Record.Register
import MeterSignals.Proofs.Signal.Batch
import MeterSignals.Signal.Derived

namespace MeterSignals

namespace Number

variable {x : Float} {n : ℤ}

theorem isOdd_iff (whole : integer? x = some n) : isOdd x = true ↔ Odd n := by
  rw [isOdd, whole, beq_iff_eq, Int.odd_iff]

/-- The lowest bit of an integer is its parity. -/
theorem wrap32_and_one_iff (whole : integer? x = some n) :
    (wrap32 x &&& 1 == 1) = true ↔ Odd n := by
  have bit : (wrap32 x &&& 1).toNat = (n % 2 ^ 32).toNat % 2 := by
    rw [UInt32.toNat_and, toNat_wrap32 whole]
    exact Nat.and_one_is_mod _
  rw [beq_iff_eq, ← UInt32.toNat_inj, bit, Int.odd_iff]
  change _ = 1 ↔ _
  omega

/-- A finite number is the same as another one exactly if this is finite and has the same value. -/
theorem beq_iff_of_isFinite {y : Float} (finite : x.isFinite = true) :
    (x == y) = true ↔ y.isFinite = true ∧ value x = value y := by
  by_cases finite' : y.isFinite = true
  · rw [beq_iff finite finite', and_iff_right finite']
  · refine iff_of_false (fun same => ?_) (fun both => finite' both.1)
    have equal : x.toModel.unpack.compare y.toModel.unpack = some .eq := beq_iff_eq.mp same
    change ¬ y.toModel.unpack.isFinite = true at finite'
    -- Nothing is equal to a value that is no number, and no finite number to an infinity.
    rcases unpack_of_isFinite finite with ⟨s, unpacked⟩ | ⟨s, m, e, pos, unpacked, -, -⟩ <;>
      rw [unpacked] at equal <;>
      cases unpacked' : y.toModel.unpack with
      | notANumber => rw [unpacked'] at equal; cases equal
      | infinity s' => rw [unpacked'] at equal; cases s' <;> cases equal
      | zero s' => exact finite' (congrArg _ unpacked')
      | finite s' n f pos' => exact finite' (congrArg _ unpacked')

end Number

namespace Extract

open Number (value integer? integer?_eq_some_iff)

variable {codes : SignalCodes} (redPeak : Option Float) {record : Record} {n : ℤ}

/-- The period is the parity of the tariff index. -/
theorem period_of_hasInteger (has : record.HasInteger codes.tariff n) :
    (ofRecord codes redPeak record).period = if Odd n then .offPeak else .peak := by
  obtain ⟨x, read, whole⟩ := has.exists_integer?
  rw [ofRecord, read]
  exact if_congr (Number.isOdd_iff whole) rfl rfl

/-- The load is shed under the tariff index that asks for it. -/
theorem overrideShed_iff (has : record.HasInteger codes.tariff n) :
    (ofRecord codes redPeak record).overrideShed = true ↔
      ∃ wanted ∈ redPeak, integer? wanted = some n := by
  obtain ⟨x, read, whole⟩ := has.exists_integer?
  obtain ⟨finite, same⟩ := integer?_eq_some_iff.mp whole
  rw [ofRecord, read]
  cases redPeak with
  | none => exact iff_of_false nofun nofun
  | some wanted =>
      change (x == wanted) = true ↔ _
      rw [Number.beq_iff_of_isFinite finite, same]
      constructor
      · rintro ⟨finite', same'⟩
        exact ⟨wanted, rfl, integer?_eq_some_iff.mpr ⟨finite', same'.symm⟩⟩
      · rintro ⟨_, ⟨⟩, whole'⟩
        exact (integer?_eq_some_iff.mp whole').imp_right Eq.symm

/-- Hot water is allowed by an odd mask. -/
theorem hotWaterAllowed_iff (has : record.HasInteger codes.relays n) :
    (ofRecord codes redPeak record).hotWaterAllowed = true ↔ Odd n := by
  obtain ⟨x, read, whole⟩ := has.exists_integer?
  rw [ofRecord, read]
  exact Number.wrap32_and_one_iff whole

/-- The power is the number that its field states. -/
theorem power_of_hasInteger (has : record.HasInteger codes.power n) :
    ∃ x, (ofRecord codes redPeak record).power = some x ∧ integer? x = some n :=
  has.exists_integer?

/-- A field that states an integer of 53 bits, as a number or as a text of digits, is read as that
integer, and one that states none in either way is not read as one. The period is off-peak exactly
if the tariff index is odd, and hot water is allowed exactly if the mask is odd. The tariff asks for
load shedding exactly if its index is the integer that is wanted, and the power is the integer of
its field. So records whose fields state the same integers, in whichever way, have the same period,
the same flags and the same power. -/
theorem signals_of_integers (codes : SignalCodes) (redPeak : Option Float) (record : Record) :
    let extract := ofRecord codes redPeak
    (∀ code n, record.HasInteger code n →
      ∃ x, record.integer? code = some x ∧ x.isFinite = true ∧ value x = n) ∧
    (∀ code, record.integer? code = none ↔
      ∀ datum ∈ record.datum? code, ∀ n, ¬ datum.Encodes n) ∧
    (∀ n, record.HasInteger codes.tariff n →
      (extract record).period = (if Odd n then .offPeak else .peak) ∧
        ((extract record).overrideShed = true ↔ ∃ wanted ∈ redPeak, integer? wanted = some n)) ∧
    (∀ n, record.HasInteger codes.relays n →
      ((extract record).hotWaterAllowed = true ↔ Odd n)) ∧
    (∀ n, record.HasInteger codes.power n →
      ∃ x, (extract record).power = some x ∧ x.isFinite = true ∧ value x = n) ∧
    ∀ other : Record,
      (∀ n, record.HasInteger codes.tariff n → other.HasInteger codes.tariff n →
        (extract record).period = (extract other).period ∧
          (extract record).overrideShed = (extract other).overrideShed) ∧
      (∀ n, record.HasInteger codes.relays n → other.HasInteger codes.relays n →
        (extract record).hotWaterAllowed = (extract other).hotWaterAllowed) ∧
      ∀ n, record.HasInteger codes.power n → other.HasInteger codes.power n →
        Option.Rel (fun x y => (x == y) = true) (extract record).power (extract other).power := by
  intro extract
  refine ⟨fun code n has => ?_, fun code => Record.integer?_eq_none_iff, fun n has => ?_,
    fun n has => hotWaterAllowed_iff redPeak has, fun n has => ?_, fun other => ⟨?_, ?_, ?_⟩⟩
  · obtain ⟨x, read, whole⟩ := has.exists_integer?
    exact ⟨x, read, integer?_eq_some_iff.mp whole⟩
  · exact ⟨period_of_hasInteger redPeak has, overrideShed_iff redPeak has⟩
  · obtain ⟨x, read, whole⟩ := power_of_hasInteger redPeak has
    exact ⟨x, read, integer?_eq_some_iff.mp whole⟩
  · intro n has has'
    exact ⟨(period_of_hasInteger redPeak has).trans (period_of_hasInteger redPeak has').symm,
      Bool.eq_iff_iff.mpr ((overrideShed_iff redPeak has).trans
        (overrideShed_iff redPeak has').symm)⟩
  · intro n has has'
    exact Bool.eq_iff_iff.mpr ((hotWaterAllowed_iff redPeak has).trans
      (hotWaterAllowed_iff redPeak has').symm)
  · intro n has has'
    obtain ⟨x, read, whole⟩ := power_of_hasInteger redPeak has
    obtain ⟨y, read', whole'⟩ := power_of_hasInteger redPeak has'
    change Option.Rel _ (ofRecord codes redPeak record).power (ofRecord codes redPeak other).power
    rw [read, read']
    exact .some ((Number.beq_iff_of_integer? whole whole').mpr rfl)

/-- A negative tariff index as a number and as a text, which is off-peak and asks for load shedding
in both; neither record has a power. -/
theorem signals_of_two_spellings :
    let codes : SignalCodes := ⟨"SINSTS", "NTARF", "RELAIS", "STGE"⟩
    let carries (datum : Datum) : Record := ⟨[("NTARF", ⟨datum, none⟩)]⟩
    let number := carries (.number (-7))
    let spelled := carries (.text " -0007\n")
    let extract := ofRecord codes (some (-7))
    (extract number).period = .offPeak ∧ (extract number).overrideShed = true ∧
      (extract number).period = (extract spelled).period ∧
      (extract number).overrideShed = (extract spelled).overrideShed ∧
      number.integer? codes.power = none := by
  intro codes carries number spelled extract
  have whole : integer? (-7) = some (-7) := by decide +kernel
  have states : Datum.Encodes (.number (-7)) (-7) :=
    .number (integer?_eq_some_iff.mp whole).1 (by exact_mod_cast (integer?_eq_some_iff.mp whole).2)
  have digits : List.Forall₂ Text.IsDigit [48, 48, 48, 55] [0, 0, 0, 7] :=
    Datum.mapM_digit?_iff.mp (by decide)
  have states' : Datum.Encodes (.text " -0007\n") (-7) :=
    @Datum.Encodes.minus [32] _ [10] _ (List.forall_mem_singleton.mpr rfl)
      (List.forall_mem_singleton.mpr rfl) digits (by decide)
  have has : number.HasInteger codes.tariff (-7) := ⟨by decide, _, rfl, states⟩
  have has' : spelled.HasInteger codes.tariff (-7) := ⟨by decide, _, rfl, states'⟩
  obtain ⟨-, absent, tariff, -, -, alike⟩ := signals_of_integers codes (some (-7)) number
  obtain ⟨period, shed⟩ := tariff (-7) has
  obtain ⟨period', shed'⟩ := (alike spelled).1 (-7) has has'
  refine ⟨period.trans (if_pos (by decide)), shed.mpr ⟨-7, rfl, whole⟩, period', shed', ?_⟩
  exact (absent codes.power).mpr nofun

end Extract

end MeterSignals
