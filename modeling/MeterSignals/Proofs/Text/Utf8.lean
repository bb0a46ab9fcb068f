/-
# Text through UTF-8

A string goes out as the bytes that every UTF-8 encoder writes for it, and the reader gives
back its characters from them. Reading is a run of the byte machine with what it gives out on
the way; the run over two rows of bytes is the run over the first and then over the second, so a
cut changes nothing. In particular what has been given out at any byte is a beginning of what
the whole gives out.
-/

import MeterSignals.Text.Utf8

namespace MeterSignals

namespace Utf8Reader

/-- Read a row of bytes: the reader after it, and the code points that it completes. -/
def read (reader : Utf8Reader) : List UInt8 → Utf8Reader × List Nat
  | [] => (reader, [])
  | byte :: bytes =>
    let (next, points) := reader.step byte
    let (last, more) := read next bytes
    (last, points ++ more)

theorem read_append (reader : Utf8Reader) (front rest : List UInt8) :
    reader.read (front ++ rest) =
      (((reader.read front).1.read rest).1,
        (reader.read front).2 ++ ((reader.read front).1.read rest).2) := by
  induction front generalizing reader with
  | nil => rfl
  | cons byte front ih =>
      simp only [List.cons_append, read]
      rw [ih, List.append_assoc]

/-- A byte below 0x80 is a character of its own. -/
theorem start_ascii {c : Nat} (ascii : c < 0x80) : start c.toUInt8 = (fresh, [c]) := by
  have byte : c.toUInt8.toNat = c := Nat.mod_eq_of_lt (by omega)
  have small : c.toUInt8 < 0x80 := by
    rw [UInt8.lt_iff_toNat_lt, byte]
    exact ascii
  rw [start, if_pos small, byte]

/-- The first byte of a character of two bytes. -/
theorem start_two {n : Nat} (low : 2 ≤ n) (high : n < 0x20) :
    start (0xC0 + n).toUInt8 = (inside n 1 0x80 0xBF, []) := by
  have all : ∀ n < 0x20, 2 ≤ n → start (0xC0 + n).toUInt8 = (inside n 1 0x80 0xBF, []) := by
    decide
  exact all n high low

/-- The first byte of a character of three bytes. -/
theorem start_three {n : Nat} (high : n < 0x10) :
    start (0xE0 + n).toUInt8 =
      (inside n 2 (if n = 0 then 0xA0 else 0x80) (if n = 0xD then 0x9F else 0xBF), []) := by
  have all : ∀ n < 0x10, start (0xE0 + n).toUInt8 =
      (inside n 2 (if n = 0 then 0xA0 else 0x80) (if n = 0xD then 0x9F else 0xBF), []) := by
    decide
  exact all n high

/-- The first byte of a character of four bytes. -/
theorem start_four {n : Nat} (high : n < 5) :
    start (0xF0 + n).toUInt8 =
      (inside n 3 (if n = 0 then 0x90 else 0x80) (if n = 4 then 0x8F else 0xBF), []) := by
  have all : ∀ n < 5, start (0xF0 + n).toUInt8 =
      (inside n 3 (if n = 0 then 0x90 else 0x80) (if n = 4 then 0x8F else 0xBF), []) := by
    decide
  exact all n high

theorem read_of_start {byte : UInt8} {next : Utf8Reader} (start_eq : start byte = (next, []))
    (bytes : List UInt8) : fresh.read (byte :: bytes) = next.read bytes := by
  simp only [read, step, start_eq, List.nil_append]

section Continuation

variable {bits n : Nat} {low high : UInt8}

/-- A byte that continues a character, in the range in which it must lie. -/
theorem step_inside (missing : Nat) (above : low.toNat ≤ 0x80 + n)
    (below : 0x80 + n ≤ high.toNat) (short : n < 0x40) :
    (inside bits missing low high).step (0x80 + n).toUInt8 =
      if missing ≤ 1 then (fresh, [bits * 0x40 + n])
      else (inside (bits * 0x40 + n) (missing - 1) 0x80 0xBF, []) := by
  have byte : (0x80 + n).toUInt8.toNat = 0x80 + n := Nat.mod_eq_of_lt (by omega)
  have fits : (low ≤ (0x80 + n).toUInt8 && (0x80 + n).toUInt8 ≤ high) = true := by
    simp only [Bool.and_eq_true, decide_eq_true_eq, UInt8.le_iff_toNat_le, byte]
    exact ⟨above, below⟩
  have payload : (0x80 + n) % 0x40 = n := by omega
  simp only [step, fits, if_true, byte, payload]

/-- The last byte of a character. -/
theorem read_last (above : low.toNat ≤ 0x80 + n) (below : 0x80 + n ≤ high.toNat)
    (short : n < 0x40) :
    (inside bits 1 low high).read [(0x80 + n).toUInt8] = (fresh, [bits * 0x40 + n]) := by
  simp only [read, step_inside 1 above below short, Nat.le_refl, if_true, List.append_nil]

/-- A byte inside a character after which others are still missing. -/
theorem read_more (missing : Nat) (above : low.toNat ≤ 0x80 + n) (below : 0x80 + n ≤ high.toNat)
    (short : n < 0x40) (bytes : List UInt8) :
    (inside bits (missing + 2) low high).read ((0x80 + n).toUInt8 :: bytes) =
      (inside (bits * 0x40 + n) (missing + 1) 0x80 0xBF).read bytes := by
  have more : ¬ missing + 2 ≤ 1 := by omega
  simp only [read, step_inside (missing + 2) above below short, more, if_false, List.nil_append,
    Nat.reduceSubDiff]

end Continuation

/-- A code point is that of a character: it is in the range and no surrogate. -/
def IsScalar (c : Nat) : Prop := c < 0xD800 ∨ 0xDFFF < c ∧ c < 0x110000

/-- The bytes of a character read as this character. -/
theorem read_utf8OfCodePoint {c : Nat} (scalar : IsScalar c) :
    fresh.read (Text.utf8OfCodePoint c) = (fresh, [c]) := by
  unfold IsScalar at scalar
  unfold Text.utf8OfCodePoint
  -- The range of most bytes that continue a character, and the ends of the narrower ones.
  have usual : (0x80 : UInt8).toNat = 0x80 ∧ (0xBF : UInt8).toNat = 0xBF := ⟨rfl, rfl⟩
  have narrow : (0xA0 : UInt8).toNat = 0xA0 ∧ (0x9F : UInt8).toNat = 0x9F ∧
      (0x90 : UInt8).toNat = 0x90 ∧ (0x8F : UInt8).toNat = 0x8F := ⟨rfl, rfl, rfl, rfl⟩
  split
  · next one => simp only [read, step, start_ascii one, List.append_nil]
  · split
    · next two =>
        rw [read_of_start (start_two (by omega) (by omega)),
          read_last (by omega) (by omega) (by omega), Nat.div_add_mod']
    · split
      · next three =>
          -- The second byte of the first and of the 14th block has a range of its own.
          rw [read_of_start (start_three (by omega)),
            read_more 0 (by split <;> omega) (by split <;> omega) (by omega),
            read_last (by omega) (by omega) (by omega)]
          congr 2
          omega
      · next four =>
          rw [read_of_start (start_four (by omega)),
            read_more 1 (by split <;> omega) (by split <;> omega) (by omega),
            read_more 0 (by omega) (by omega) (by omega),
            read_last (by omega) (by omega) (by omega)]
          congr 2
          omega

/-- The bytes of characters read as these characters. -/
theorem read_flatMap_utf8OfCodePoint {points : List Nat} (scalar : ∀ c ∈ points, IsScalar c) :
    fresh.read (points.flatMap Text.utf8OfCodePoint) = (fresh, points) := by
  induction points with
  | nil => rfl
  | cons c points ih =>
      obtain ⟨first, rest⟩ := List.forall_mem_cons.mp scalar
      rw [List.flatMap_cons, read_append, read_utf8OfCodePoint first, ih rest]
      rfl

end Utf8Reader

namespace Text

theorem isScalar_toNat (c : Char) : Utf8Reader.IsScalar c.toNat := c.valid

/-- A character is encoded as every UTF-8 encoder does it. -/
theorem utf8OfCodePoint_toNat (c : Char) : utf8OfCodePoint c.toNat = String.utf8EncodeChar c := by
  have scalar := isScalar_toNat c
  unfold Utf8Reader.IsScalar at scalar
  have code : c.val.toNat = c.toNat := rfl
  simp only [utf8OfCodePoint, String.utf8EncodeChar, code]
  by_cases one : c.toNat < 0x80
  · rw [if_pos one, if_pos (Nat.le_of_lt_succ one)]
  · rw [if_neg one, if_neg (show ¬ c.toNat ≤ 127 by omega)]
    by_cases two : c.toNat < 0x800
    · rw [if_pos two, if_pos (Nat.le_of_lt_succ two)]
      have high : 0xC0 + c.toNat / 0x40 = c.toNat / 64 % 32 + 192 := by omega
      rw [high, Nat.add_comm 0x80]
    · rw [if_neg two, if_neg (show ¬ c.toNat ≤ 2047 by omega)]
      by_cases three : c.toNat < 0x10000
      · rw [if_pos three, if_pos (Nat.le_of_lt_succ three)]
        have high : 0xE0 + c.toNat / 0x1000 = c.toNat / 4096 % 16 + 224 := by omega
        rw [high, Nat.add_comm 0x80, Nat.add_comm 0x80]
      · rw [if_neg three, if_neg (show ¬ c.toNat ≤ 65535 by omega)]
        have high : 0xF0 + c.toNat / 0x40000 = c.toNat / 262144 % 8 + 240 := by omega
        rw [high, Nat.add_comm 0x80, Nat.add_comm 0x80, Nat.add_comm 0x80]

/-- A character that takes one unit reads back, whatever follows. -/
theorem go_plain {c : Nat} (scalar : Utf8Reader.IsScalar c) (plain : c < 0x10000)
    (rest : List UInt16) : codePoints.go (c.toUInt16 :: rest) = c :: codePoints.go rest := by
  unfold Utf8Reader.IsScalar at scalar
  have unit : c.toUInt16.toNat = c := UInt16.toNat_ofNat_of_lt' plain
  have high : isHighSurrogate c.toUInt16 = false := by
    simp [isHighSurrogate, UInt16.le_iff_toNat_le, UInt16.lt_iff_toNat_lt, unit]
    omega
  have low : isLowSurrogate c.toUInt16 = false := by
    simp [isLowSurrogate, UInt16.le_iff_toNat_le, UInt16.lt_iff_toNat_lt, unit]
    omega
  have alone : codePoints.alone c.toUInt16 = c := by
    simp [codePoints.alone, high, low, unit]
  cases rest with
  | nil => simp only [codePoints.go, alone]
  | cons v rest =>
      simp only [codePoints.go, high, alone, Bool.false_and, Bool.false_eq_true, if_false]

/-- A pair of surrogates reads back as the character that it stands for. -/
theorem go_pair {high low : UInt16} (first : isHighSurrogate high) (second : isLowSurrogate low)
    (rest : List UInt16) :
    codePoints.go (high :: low :: rest) = codePointOfPair high low :: codePoints.go rest := by
  rw [codePoints.go, first, second, Bool.true_and, if_pos rfl]

/-- The first unit of a character beyond 0xFFFF. -/
theorem toNat_highSurrogate {c : Nat} (scalar : Utf8Reader.IsScalar c) :
    (0xD800 + (c - 0x10000) / 0x400).toUInt16.toNat = 0xD800 + (c - 0x10000) / 0x400 := by
  unfold Utf8Reader.IsScalar at scalar
  exact UInt16.toNat_ofNat_of_lt' (show _ < 65536 by omega)

/-- The second unit of a character beyond 0xFFFF. -/
theorem toNat_lowSurrogate (c : Nat) :
    (0xDC00 + (c - 0x10000) % 0x400).toUInt16.toNat = 0xDC00 + (c - 0x10000) % 0x400 :=
  UInt16.toNat_ofNat_of_lt' (show _ < 65536 by omega)

/-- The units of a character read back as this character, whatever follows. -/
theorem go_unitsOfCodePoint {c : Nat} (scalar : Utf8Reader.IsScalar c) (rest : List UInt16) :
    codePoints.go (unitsOfCodePoint c ++ rest) = c :: codePoints.go rest := by
  rw [unitsOfCodePoint]
  split
  · next plain => exact go_plain scalar plain rest
  · next beyond =>
      have high := toNat_highSurrogate scalar
      have low := toNat_lowSurrogate c
      have pair : codePointOfPair (0xD800 + (c - 0x10000) / 0x400).toUInt16
          (0xDC00 + (c - 0x10000) % 0x400).toUInt16 = c := by
        unfold codePointOfPair
        omega
      unfold Utf8Reader.IsScalar at scalar
      have first : isHighSurrogate (0xD800 + (c - 0x10000) / 0x400).toUInt16 := by
        simp [isHighSurrogate, UInt16.le_iff_toNat_le, UInt16.lt_iff_toNat_lt]
        omega
      have second : isLowSurrogate (0xDC00 + (c - 0x10000) % 0x400).toUInt16 := by
        simp [isLowSurrogate, UInt16.le_iff_toNat_le, UInt16.lt_iff_toNat_lt]
        omega
      rw [List.cons_append, List.cons_append, List.nil_append, go_pair first second, pair]

/-- The characters of a string are the code points of its text. -/
theorem codePoints_ofString (s : String) : (ofString s).codePoints = s.toList.map Char.toNat := by
  rw [codePoints, ofString, ofChars]
  induction s.toList with
  | nil => rfl
  | cons c cs ih =>
      rw [List.flatMap_cons, go_unitsOfCodePoint (isScalar_toNat c), ih, List.map_cons]

/-- The bytes of the text of a string are the string in UTF-8. -/
theorem toUtf8_ofString (s : String) : (ofString s).toUtf8 = s.toUTF8.data.toList := by
  have bytes : s.toUTF8.data.toList = s.toList.flatMap String.utf8EncodeChar := by
    rw [String.toUTF8_eq_toByteArray, ← String.utf8Encode_toList, List.utf8Encode,
      List.data_toByteArray]
  rw [bytes, toUtf8, codePoints_ofString, List.flatMap_map]
  exact congrArg (s.toList.flatMap ·) (funext utf8OfCodePoint_toNat)

end Text

end MeterSignals
