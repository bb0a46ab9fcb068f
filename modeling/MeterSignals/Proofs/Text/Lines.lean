/-
# Lines through pieces

Strings that hold no line break, each with a line feed behind it, are written as UTF-8 and cut
anywhere. The reader of lines gives the strings back. They are the lines of the text that the bytes
are decoded to, and without a carriage return among the bytes no piece can part one from a line
feed.
-/

import MeterSignals.Proofs.Text.Pieces

namespace MeterSignals

/-- The string holds no line break. -/
def IsUnbroken (s : String) : Prop := '\r' ∉ s.toList ∧ '\n' ∉ s.toList

instance (s : String) : Decidable (IsUnbroken s) := inferInstanceAs (Decidable (_ ∧ _))

/-- The bytes of the strings, each with a line feed behind it. -/
def bytesOfLines (strings : List String) : List UInt8 :=
  strings.flatMap fun s => (s ++ "\n").toUTF8.data.toList

namespace Text

theorem ofString_append (s t : String) : ofString (s ++ t) = ofString s ++ ofString t := by
  rw [ofString, String.toList_append, ofChars, List.flatMap_append]
  rfl

/-- A unit in the ASCII range stands for a character of the string. -/
theorem exists_of_mem_ofString {s : String} {u : UInt16} (member : u ∈ (ofString s).units)
    (ascii : u.toNat < 0x80) : ∃ c ∈ s.toList, c.toNat = u.toNat := by
  obtain ⟨c, found, unit⟩ := List.mem_flatMap.mp member
  exact ⟨c, found, eq_of_mem_unitsOfCodePoint (isScalar_toNat c) unit ascii⟩

/-- A text without line breaks. -/
theorem isOneLine_ofString {s : String} (unbroken : IsUnbroken s) :
    IsOneLine (ofString s).units := by
  intro u member
  constructor
  · rintro rfl
    obtain ⟨c, found, same⟩ := exists_of_mem_ofString member (by decide)
    exact unbroken.2 (Char.ext (UInt32.toNat_inj.mp same : c.val = '\n'.val) ▸ found)
  · rintro rfl
    obtain ⟨c, found, same⟩ := exists_of_mem_ofString member (by decide)
    exact unbroken.1 (Char.ext (UInt32.toNat_inj.mp same : c.val = '\r'.val) ▸ found)

end Text

namespace LineReader

/-- The bytes of lines read as their characters. -/
theorem read_bytesOfLines (strings : List String) :
    Utf8Reader.fresh.read (bytesOfLines strings) =
      (.fresh, strings.flatMap fun s => (s ++ "\n").toList.map Char.toNat) := by
  have bytes : bytesOfLines strings =
      (strings.flatMap fun s => (s ++ "\n").toList.map Char.toNat).flatMap
        Text.utf8OfCodePoint := by
    rw [bytesOfLines, List.flatMap_assoc]
    refine congrArg (strings.flatMap ·) (funext fun s => ?_)
    rw [← Text.toUtf8_ofString, Text.toUtf8, Text.codePoints_ofString]
  rw [bytes]
  refine Utf8Reader.read_flatMap_utf8OfCodePoint fun c member => ?_
  obtain ⟨s, -, found⟩ := List.mem_flatMap.mp member
  obtain ⟨char, -, rfl⟩ := List.mem_map.mp found
  exact Text.isScalar_toNat char

theorem units_bytesOfLines (strings : List String) :
    Utf8Reader.fresh.units (bytesOfLines strings) =
      strings.flatMap fun s => (Text.ofString s).units ++ [Ascii.lineFeed] := by
  rw [Utf8Reader.units, read_bytesOfLines, List.flatMap_assoc]
  refine congrArg (strings.flatMap ·) (funext fun s => ?_)
  rw [List.flatMap_map]
  exact congrArg Text.units (Text.ofString_append s "\n")

/-- The lines of strings that hold no line break, each with a line feed behind it, are the
strings. -/
theorem hasLines_of_strings {strings : List String} (unbroken : ∀ s ∈ strings, IsUnbroken s) :
    Text.HasLines (strings.flatMap fun s => (Text.ofString s).units ++ [Ascii.lineFeed])
      (strings.map Text.ofString) := by
  induction strings with
  | nil => exact .nothing
  | cons s strings ih =>
      obtain ⟨first, rest⟩ := List.forall_mem_cons.mp unbroken
      exact .ended (Text.isOneLine_ofString first) .feed (ih rest)

/-- Strings without line breaks, written as UTF-8 with a line feed behind each and cut anywhere,
are the lines of the pieces. -/
theorem linesOf_pieces {strings : List String} (unbroken : ∀ s ∈ strings, IsUnbroken s)
    {pieces : List (List UInt8)} (whole : pieces.flatten = bytesOfLines strings) :
    linesOf pieces = strings.map Text.ofString := by
  have units := units_bytesOfLines strings
  have joined : ¬ IsParted pieces := by
    rintro ⟨front, back, rfl, carriage, -⟩
    have member : 0x0D ∈ bytesOfLines strings := by
      rw [← whole, List.flatten_append]
      exact List.mem_append_left _ (List.mem_of_getLast? carriage)
    have given := @Utf8Reader.mem_units .fresh _ trivial _ member (by decide)
    rw [units] at given
    obtain ⟨s, found, inside⟩ := List.mem_flatMap.mp given
    rcases List.mem_append.mp inside with own | behind
    · exact (Text.isOneLine_ofString (unbroken s found) _ own).2 rfl
    · exact absurd (List.mem_singleton.mp behind) (by decide)
  rw [(linesOf_eq_iff pieces).mpr joined, whole]
  symm
  apply (hasLines_iff _ _).mp
  rw [units]
  exact hasLines_of_strings unbroken

end LineReader

end MeterSignals
