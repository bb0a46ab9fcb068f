/-
# Line breaks among bytes

A line feed and a carriage return are one byte each, and no other byte is read as one of them:
neither as a part of a character nor as the end of what cannot become one. So the breaks of a text
are found among its bytes. The invariant of the reader that carries this is about the character
that it is in the middle of. Whatever numbers the missing bytes may still make of it, they are
those of characters beyond ASCII.
-/

import Mathlib.Data.Nat.Digits.Defs
import MeterSignals.Proofs.Text.Utf8
import MeterSignals.Text.Ascii

namespace MeterSignals

namespace Text

/-- Units without a line break. -/
def IsOneLine (units : List UInt16) : Prop :=
  ∀ u ∈ units, u ≠ Ascii.lineFeed ∧ u ≠ Ascii.carriageReturn

/-- A unit in the ASCII range is the character itself. -/
theorem eq_of_mem_unitsOfCodePoint {c : Nat} (scalar : Utf8Reader.IsScalar c) {u : UInt16}
    (member : u ∈ unitsOfCodePoint c) (ascii : u.toNat < 0x80) : c = u.toNat := by
  rw [unitsOfCodePoint] at member
  split at member
  · next plain =>
      rw [List.mem_singleton.mp member]
      exact (UInt16.toNat_ofNat_of_lt' plain).symm
  · next beyond =>
      -- Both halves of a pair lie far above ASCII.
      exfalso
      rw [List.mem_cons, List.mem_singleton] at member
      rcases member with rfl | rfl
      · rw [toNat_highSurrogate scalar] at ascii
        omega
      · rw [toNat_lowSurrogate] at ascii
        omega

/-- A character beyond ASCII is no line break and holds none. -/
theorem isOneLine_unitsOfCodePoint {c : Nat} (scalar : Utf8Reader.IsScalar c)
    (beyond : 0x80 ≤ c) : IsOneLine (unitsOfCodePoint c) := by
  have apart {u : UInt16} (member : u ∈ unitsOfCodePoint c) : ¬ u.toNat < 0x80 := by
    intro ascii
    have same := eq_of_mem_unitsOfCodePoint scalar member ascii
    omega
  intro u member
  constructor
  · rintro rfl
    exact apart member (by decide)
  · rintro rfl
    exact apart member (by decide)

theorem unitsOfCodePoint_ne_nil (c : Nat) : unitsOfCodePoint c ≠ [] := by
  rw [unitsOfCodePoint]
  split <;> exact List.cons_ne_nil _ _

end Text

namespace Utf8Reader

/-- The least number that a character can become. -/
def least (bits missing : Nat) (low : UInt8) : Nat :=
  (bits * 0x40 + (low.toNat - 0x80)) * 0x40 ^ (missing - 1)

/-- The end of the numbers that a character can become. -/
def bound (bits missing : Nat) (high : UInt8) : Nat :=
  (bits * 0x40 + (high.toNat - 0x80) + 1) * 0x40 ^ (missing - 1)

/-- All that a character can still become is beyond ASCII, and on one side of the surrogates.
What cannot become a character reads as one replacement at least. -/
def IsProper : Utf8Reader → Prop
  | fresh => True
  | inside bits missing low high =>
    0x80 ≤ low.toNat ∧ high.toNat ≤ 0xBF ∧ 0x80 ≤ least bits missing low ∧
      (bound bits missing high ≤ 0xD800 ∨
        0xE000 ≤ least bits missing low ∧ bound bits missing high ≤ 0x110000)
  | spoiled replaced _ => 0 < replaced

instance : DecidablePred IsProper
  | fresh => isTrue trivial
  | inside .. => inferInstanceAs (Decidable (_ ∧ _ ∧ _ ∧ (_ ∨ _ ∧ _)))
  | spoiled .. => inferInstanceAs (Decidable (_ < _))

/-- What holds of all 256 bytes. -/
theorem forall_byte {p : UInt8 → Prop} (all : ∀ n < 256, p n.toUInt8) : ∀ byte, p byte := by
  intro byte
  have same : byte.toNat.toUInt8 = byte := UInt8.ofNat_toNat
  exact same ▸ all byte.toNat byte.toNat_lt

theorem isProper_start : ∀ byte, (start byte).1.IsProper :=
  forall_byte (by decide +kernel)

/-- A byte that starts a character is one in ASCII, or reads as a replacement, or has to wait. -/
theorem mem_start : ∀ byte, ∀ c ∈ (start byte).2, c = byte.toNat ∧ c < 0x80 ∨ c = replacement :=
  forall_byte (by decide +kernel)

/-- A byte that gives nothing has to wait for others. -/
theorem start_ne_fresh : ∀ byte, (start byte).2 = [] → (start byte).1 ≠ fresh :=
  forall_byte (by decide +kernel)

section Inside

variable {bits missing : Nat} {low high byte : UInt8}

/-- A byte that continues a character narrows down what it can become. -/
theorem narrow (proper : (inside bits missing low high).IsProper)
    (fits : (low ≤ byte && byte ≤ high) = true) :
    least bits missing low ≤ (bits * 0x40 + byte.toNat % 0x40) * 0x40 ^ (missing - 1) ∧
      (bits * 0x40 + byte.toNat % 0x40 + 1) * 0x40 ^ (missing - 1) ≤ bound bits missing high := by
  obtain ⟨floor, ceiling, -⟩ := proper
  simp only [Bool.and_eq_true, decide_eq_true_eq, UInt8.le_iff_toNat_le] at fits
  have payload : byte.toNat % 0x40 = byte.toNat - 0x80 := by omega
  rw [payload]
  constructor
  · apply Nat.mul_le_mul_right
    omega
  · apply Nat.mul_le_mul_right
    omega

/-- The character that is complete. -/
theorem isScalar_of_last (proper : (inside bits missing low high).IsProper)
    (fits : (low ≤ byte && byte ≤ high) = true) (last : missing ≤ 1) :
    0x80 ≤ bits * 0x40 + byte.toNat % 0x40 ∧ IsScalar (bits * 0x40 + byte.toNat % 0x40) := by
  obtain ⟨above, below⟩ := narrow proper fits
  obtain ⟨-, -, ascii, range⟩ := proper
  have none : missing - 1 = 0 := by omega
  rw [none, Nat.pow_zero, Nat.mul_one] at above below
  refine ⟨Nat.le_trans ascii above, ?_⟩
  rcases range with plain | ⟨beyond, range⟩
  · exact .inl (by omega)
  · exact .inr (by omega)

/-- The character that is still not complete. -/
theorem isProper_of_more (proper : (inside bits missing low high).IsProper)
    (fits : (low ≤ byte && byte ≤ high) = true) (more : ¬ missing ≤ 1) :
    (inside (bits * 0x40 + byte.toNat % 0x40) (missing - 1) 0x80 0xBF).IsProper := by
  obtain ⟨above, below⟩ := narrow proper fits
  obtain ⟨-, -, ascii, range⟩ := proper
  obtain ⟨later, rfl⟩ : ∃ later, missing = later + 2 := ⟨missing - 2, by omega⟩
  generalize bits * 0x40 + byte.toNat % 0x40 = next at above below ⊢
  have rest : later + 2 - 1 = later + 1 := rfl
  rw [rest] at above below ⊢
  have floor : least next (later + 1) 0x80 = next * 0x40 ^ (later + 1) := by
    rw [Nat.pow_succ', ← Nat.mul_assoc]
    rfl
  have ceiling : bound next (later + 1) 0xBF = (next + 1) * 0x40 ^ (later + 1) := by
    rw [Nat.pow_succ', ← Nat.mul_assoc, Nat.add_mul]
    rfl
  refine ⟨by decide, by decide, ?_, ?_⟩
  · rw [floor]
    exact Nat.le_trans ascii above
  · rw [floor, ceiling]
    apply range.imp
    · exact Nat.le_trans below
    · exact And.imp (fun beyond => Nat.le_trans beyond above) (Nat.le_trans below)

end Inside

variable {reader : Utf8Reader}

theorem isProper_step (proper : reader.IsProper) (byte : UInt8) :
    (reader.step byte).1.IsProper := by
  cases reader with
  | fresh => exact isProper_start byte
  | inside bits missing low high =>
      rw [step]
      split
      · next fits =>
          dsimp only
          split
          · trivial
          · next more => exact isProper_of_more proper fits more
      · split
        · exact Nat.two_pos
        · exact isProper_start byte
  | spoiled replaced missing =>
      rw [step]
      split
      · split
        · trivial
        · exact Nat.succ_pos replaced
      · exact isProper_start byte

/-- What is given out at a byte is this byte, if it is in ASCII, or a character beyond. -/
theorem mem_step (proper : reader.IsProper) {byte : UInt8} {c : Nat}
    (member : c ∈ (reader.step byte).2) :
    IsScalar c ∧ (c = byte.toNat ∧ c < 0x80 ∨ 0x80 ≤ c) := by
  have replaced (same : c = replacement) : IsScalar c ∧ (c = byte.toNat ∧ c < 0x80 ∨ 0x80 ≤ c) := by
    rw [same]
    exact ⟨.inr (by decide), .inr (by decide)⟩
  have started (given : c ∈ (start byte).2) :
      IsScalar c ∧ (c = byte.toNat ∧ c < 0x80 ∨ 0x80 ≤ c) := by
    rcases mem_start byte c given with ascii | same
    · exact ⟨.inl (by omega), .inl ascii⟩
    · exact replaced same
  cases reader with
  | fresh => exact started member
  | inside bits missing low high =>
      rw [step] at member
      split at member
      · next fits =>
          dsimp only at member
          split at member
          · next last =>
              rw [List.mem_singleton.mp member]
              obtain ⟨ascii, scalar⟩ := isScalar_of_last proper fits last
              exact ⟨scalar, .inr ascii⟩
          · cases member
      · split at member
        · cases member
        · exact (List.mem_cons.mp member).elim replaced started
  | spoiled count missing =>
      rw [step] at member
      split at member
      · split at member
        · exact replaced (List.eq_of_mem_replicate member)
        · cases member
      · rcases List.mem_append.mp member with earlier | given
        · exact replaced (List.eq_of_mem_replicate earlier)
        · exact started given

/-- A byte in ASCII is a character of its own; what cannot go on then is replaced. -/
theorem step_ascii (proper : reader.IsProper) {byte : UInt8} (ascii : byte.toNat < 0x80) :
    reader.step byte = (fresh, reader.finish ++ [byte.toNat]) := by
  have alone : start byte = (fresh, [byte.toNat]) := by
    have same : byte.toNat.toUInt8 = byte := UInt8.ofNat_toNat
    rw [← start_ascii ascii, same]
  have other : isContinuation byte = false := by
    simp [isContinuation, UInt8.le_iff_toNat_le]
    omega
  cases reader with
  | fresh => exact alone
  | inside bits missing low high =>
      have apart : (low ≤ byte && byte ≤ high) = false := by
        have floor := proper.1
        simp [UInt8.le_iff_toNat_le]
        omega
      simp [step, apart, other, alone, finish]
  | spoiled replaced missing => simp [step, other, alone, finish]

theorem inside_ne_fresh {bits missing : Nat} {low high : UInt8} :
    inside bits missing low high ≠ fresh := by
  intro same
  cases same

theorem spoiled_ne_fresh {replaced missing : Nat} : spoiled replaced missing ≠ fresh := by
  intro same
  cases same

/-- A byte that gives nothing leaves a character that is not complete. -/
theorem ne_fresh_of_step {byte : UInt8} (silent : (reader.step byte).2 = []) :
    (reader.step byte).1 ≠ fresh := by
  cases reader with
  | fresh => exact start_ne_fresh byte silent
  | inside bits missing low high =>
      rw [step] at silent ⊢
      split
      · next fits =>
          rw [if_pos fits] at silent
          dsimp only at silent ⊢
          split
          · next last =>
              rw [if_pos last] at silent
              cases silent
          · exact inside_ne_fresh
      · next unfit =>
          rw [if_neg unfit] at silent
          split
          · exact spoiled_ne_fresh
          · next other =>
              rw [if_neg other] at silent
              cases silent
  | spoiled replaced missing =>
      rw [step] at silent ⊢
      split
      · next goes =>
          rw [if_pos goes] at silent
          split
          · next last =>
              rw [if_pos last] at silent
              cases silent
          · exact spoiled_ne_fresh
      · next stops =>
          rw [if_neg stops] at silent
          exact start_ne_fresh byte (List.append_eq_nil_iff.mp silent).2

/-- The units that a reader gives out at some bytes. -/
def units (reader : Utf8Reader) (bytes : List UInt8) : List UInt16 :=
  (reader.read bytes).2.flatMap Text.unitsOfCodePoint

theorem units_cons (reader : Utf8Reader) (byte : UInt8) (bytes : List UInt8) :
    reader.units (byte :: bytes) =
      (reader.step byte).2.flatMap Text.unitsOfCodePoint ++ (reader.step byte).1.units bytes := by
  rw [units, read, List.flatMap_append]
  rfl

section Breaks

variable {byte : UInt8}

theorem unitsOfCodePoint_byte :
    ∀ byte : UInt8, Text.unitsOfCodePoint byte.toNat = [byte.toUInt16] :=
  forall_byte (by decide +kernel)

/-- A byte in ASCII is among the units. -/
theorem mem_units (proper : reader.IsProper) {bytes : List UInt8} (member : byte ∈ bytes)
    (ascii : byte.toNat < 0x80) : byte.toUInt16 ∈ reader.units bytes := by
  induction bytes generalizing reader with
  | nil => cases member
  | cons first bytes ih =>
      rw [units_cons, List.mem_append]
      rcases List.mem_cons.mp member with rfl | later
      · simp [step_ascii proper ascii, unitsOfCodePoint_byte]
      · exact .inr (ih (isProper_step proper first) later)

/-- The units of what a byte beyond ASCII gives out. -/
theorem isOneLine_step (proper : reader.IsProper) (beyond : ¬ byte.toNat < 0x80) :
    Text.IsOneLine ((reader.step byte).2.flatMap Text.unitsOfCodePoint) := by
  intro u member
  obtain ⟨c, given, unit⟩ := List.mem_flatMap.mp member
  obtain ⟨scalar, kind⟩ := mem_step proper given
  exact Text.isOneLine_unitsOfCodePoint scalar (by omega) u unit

/-- What cannot go on at a byte in ASCII is replaced, so that something stands before the byte. -/
theorem exists_finish (proper : reader.IsProper) (pending : reader ≠ fresh) :
    ∃ more, reader.finish = replacement :: more := by
  cases reader with
  | fresh => exact absurd rfl pending
  | inside bits missing low high => exact ⟨[], rfl⟩
  | spoiled replaced missing =>
      obtain ⟨k, rfl⟩ := Nat.exists_eq_add_of_lt proper
      exact ⟨List.replicate (0 + k) replacement, rfl⟩

/-- The first unit is a line feed exactly if no character is pending and the first byte is one. -/
theorem head?_units (proper : reader.IsProper) (bytes : List UInt8) :
    (reader.units bytes).head? = some Ascii.lineFeed ↔
      reader = fresh ∧ bytes.head? = some 0x0A := by
  induction bytes generalizing reader with
  | nil => simp [units, read]
  | cons byte bytes ih =>
      rw [units_cons]
      by_cases ascii : byte.toNat < 0x80
      · rw [step_ascii proper ascii]
        by_cases pending : reader = fresh
        · have unit : ∀ byte : UInt8, byte.toUInt16 = Ascii.lineFeed ↔ byte = 0x0A :=
            forall_byte (by decide +kernel)
          simp [pending, finish, unitsOfCodePoint_byte, unit]
        · obtain ⟨more, replaced⟩ := exists_finish proper pending
          have first : Text.unitsOfCodePoint replacement = [0xFFFD] := rfl
          have apart : (0xFFFD : UInt16) ≠ Ascii.lineFeed := by decide
          simp [pending, replaced, first, apart]
      · have other : byte ≠ 0x0A := by
          rintro rfl
          exact ascii (by decide)
        have oneLine := isOneLine_step proper ascii
        have silent := @ne_fresh_of_step reader byte
        have later := ih (isProper_step proper byte)
        rcases points : (reader.step byte).2 with - | ⟨c, points⟩
        · simp [other, later, silent points]
        · rw [points] at oneLine
          obtain ⟨u, us, found⟩ := List.exists_cons_of_ne_nil (Text.unitsOfCodePoint_ne_nil c)
          rw [List.flatMap_cons, found] at oneLine ⊢
          have first := (oneLine u List.mem_cons_self).1
          simp [other, first]

/-- The last unit is a carriage return, with no character pending behind it, exactly if the byte
is one. -/
theorem getLast?_step (proper : reader.IsProper) :
    (reader.step byte).1 = fresh ∧
        ((reader.step byte).2.flatMap Text.unitsOfCodePoint).getLast? =
          some Ascii.carriageReturn ↔
      byte = 0x0D := by
  by_cases ascii : byte.toNat < 0x80
  · have unit : ∀ byte : UInt8, byte.toUInt16 = Ascii.carriageReturn ↔ byte = 0x0D :=
      forall_byte (by decide +kernel)
    simp [step_ascii proper ascii, unitsOfCodePoint_byte, unit]
  · have other : byte ≠ 0x0D := by
      rintro rfl
      exact ascii (by decide)
    rw [iff_false_right other]
    rintro ⟨-, last⟩
    exact (isOneLine_step proper ascii _ (List.mem_of_getLast? last)).2 rfl

end Breaks

end Utf8Reader

end MeterSignals
