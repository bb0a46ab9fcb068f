/-
# Lines whatever the pieces

The lines of a text are what stands between its line ends, and what stands behind the last one
unless that is nothing. Bytes that come in pieces have the lines of the text that they are decoded
to, wherever they are cut: inside a character, inside a line, and also between a carriage return
and its line feed. Only a piece without any byte can make a difference. Where it stands between a
carriage return and a line feed, each of the two ends a line, which puts an empty line in, and
nothing else.

The reader is compared with one that gets the same bytes at once. At a piece without bytes it only
forgets that a carriage return came last. The first unit from there on shows whether that matters:
both readers do the same with any unit but a line feed.
-/

import MeterSignals.Lines
import MeterSignals.Proofs.Text.Breaks

namespace MeterSignals

namespace Text

/-- An end of a line, and what follows it. A carriage return ends a line by itself only where no
line feed follows. -/
inductive IsLineEnd : List UInt16 → List UInt16 → Prop
  | feed {rest : List UInt16} : IsLineEnd [Ascii.lineFeed] rest
  | both {rest : List UInt16} : IsLineEnd [Ascii.carriageReturn, Ascii.lineFeed] rest
  | carriage {rest : List UInt16} (alone : rest.head? ≠ some Ascii.lineFeed) :
      IsLineEnd [Ascii.carriageReturn] rest

/-- The lines of a text. Behind the last line end there is another line unless nothing is there. -/
inductive HasLines : List UInt16 → List Text → Prop
  | nothing : HasLines [] []
  | unended {line : List UInt16} (oneLine : IsOneLine line) (some_ : line ≠ []) :
      HasLines line [⟨line⟩]
  | ended {line ending rest : List UInt16} {lines : List Text} (oneLine : IsOneLine line)
      (ends : IsLineEnd ending rest) (others : HasLines rest lines) :
      HasLines (line ++ ending ++ rest) (⟨line⟩ :: lines)

theorem IsLineEnd.length_pos {ending rest : List UInt16} (ends : IsLineEnd ending rest) :
    0 < ending.length := by
  cases ends <;> exact Nat.succ_pos _

/-- A text is one line, or has a first line end. -/
theorem isOneLine_or_exists_end (units : List UInt16) :
    IsOneLine units ∨ ∃ line ending rest, units = line ++ ending ++ rest ∧ IsOneLine line ∧
      IsLineEnd ending rest := by
  have none : IsOneLine [] := List.forall_mem_nil _
  induction units with
  | nil => exact .inl none
  | cons u units ih =>
      by_cases feed : u = Ascii.lineFeed
      · exact .inr ⟨[], [Ascii.lineFeed], units, by rw [feed]; rfl, none, .feed⟩
      by_cases carriage : u = Ascii.carriageReturn
      · by_cases both : units.head? = some Ascii.lineFeed
        · obtain ⟨rest, rfl⟩ := List.head?_eq_some_iff.mp both
          exact .inr ⟨[], _, rest, by rw [carriage]; rfl, none, .both⟩
        · exact .inr ⟨[], [Ascii.carriageReturn], units, by rw [carriage]; rfl, none,
            .carriage both⟩
      · rcases ih with oneLine | ⟨line, ending, rest, rfl, oneLine, ends⟩
        · exact .inl (List.forall_mem_cons.mpr ⟨⟨feed, carriage⟩, oneLine⟩)
        · exact .inr ⟨u :: line, ending, rest, rfl,
            List.forall_mem_cons.mpr ⟨⟨feed, carriage⟩, oneLine⟩, ends⟩

/-- Every text has lines. -/
theorem exists_hasLines (units : List UInt16) : ∃ lines, HasLines units lines := by
  induction length : units.length using Nat.strongRecOn generalizing units with
  | ind n ih =>
      rcases isOneLine_or_exists_end units with oneLine | ⟨line, ending, rest, rfl, oneLine, ends⟩
      · by_cases some_ : units = []
        · exact ⟨[], some_ ▸ .nothing⟩
        · exact ⟨_, .unended oneLine some_⟩
      · have shorter : rest.length < n := by
          have pos := ends.length_pos
          rw [← length, List.length_append, List.length_append]
          omega
        obtain ⟨lines, others⟩ := ih rest.length shorter rest rfl
        exact ⟨_, .ended oneLine ends others⟩

/-- No line has a line break in it. -/
theorem HasLines.isOneLine {units : List UInt16} {lines : List Text}
    (has : HasLines units lines) : ∀ line ∈ lines, IsOneLine line.units := by
  induction has with
  | nothing => exact List.forall_mem_nil _
  | unended oneLine some_ => exact List.forall_mem_singleton.mpr oneLine
  | ended oneLine ends others ih => exact List.forall_mem_cons.mpr ⟨oneLine, ih⟩

end Text

namespace LineReader

open Text (IsOneLine IsLineEnd HasLines)

variable {reader : LineReader} {units : List UInt16}

theorem pushUnit_decoder (reader : LineReader) (decoder : Utf8Reader) (u : UInt16) :
    { reader with decoder := decoder }.pushUnit u =
      { reader.pushUnit u with decoder := decoder } := by
  unfold pushUnit
  split
  · split <;> rfl
  · rfl
  · rfl

theorem foldl_pushUnit_decoder (units : List UInt16) (reader : LineReader)
    (decoder : Utf8Reader) :
    units.foldl pushUnit { reader with decoder := decoder } =
      { units.foldl pushUnit reader with decoder := decoder } := by
  induction units generalizing reader with
  | nil => rfl
  | cons u units ih => rw [List.foldl_cons, pushUnit_decoder, ih, List.foldl_cons]

theorem pushPoints_append (reader : LineReader) (front rest : List Nat) :
    reader.pushPoints (front ++ rest) = (reader.pushPoints front).pushPoints rest := by
  rw [pushPoints, List.flatMap_append, List.foldl_append]
  rfl

/-- Reading a row of bytes is decoding it and reading the code points. -/
theorem foldl_push (reader : LineReader) (bytes : List UInt8) :
    bytes.foldl push reader =
      { reader.pushPoints (reader.decoder.read bytes).2 with
        decoder := (reader.decoder.read bytes).1 } := by
  induction bytes generalizing reader with
  | nil => rfl
  | cons byte bytes ih =>
      have first : reader.push byte =
          { reader.pushPoints (reader.decoder.step byte).2 with
            decoder := (reader.decoder.step byte).1 } := foldl_pushUnit_decoder ..
      rw [List.foldl_cons, ih, first, Utf8Reader.read, pushPoints_append]
      dsimp only
      rw [pushPoints, foldl_pushUnit_decoder]
      rfl

/-- The lines that there are when the units have been read and no more follow. -/
def result (reader : LineReader) (units : List UInt16) : List Text :=
  (units.foldl pushUnit reader).finish.take.1

theorem result_append (reader : LineReader) (front rest : List UInt16) :
    reader.result (front ++ rest) = (front.foldl pushUnit reader).result rest := by
  rw [result, List.foldl_append]
  rfl

theorem result_decoder (reader : LineReader) (decoder : Utf8Reader) (units : List UInt16) :
    { reader with decoder := decoder }.result units = reader.result units := by
  rw [result, foldl_pushUnit_decoder]
  rfl

theorem pushUnit_carriageReturn (reader : LineReader) :
    reader.pushUnit Ascii.carriageReturn = { reader.endLine with afterReturn := true } := rfl

theorem pushUnit_lineFeed (closed : reader.afterReturn = false) :
    reader.pushUnit Ascii.lineFeed = reader.endLine :=
  if_neg (closed ▸ Bool.false_ne_true)

theorem pushUnit_of_afterReturn (after : reader.afterReturn = true) :
    reader.pushUnit Ascii.lineFeed = { reader with afterReturn := false } :=
  if_pos after

theorem pushUnit_of_ne {u : UInt16} (notFeed : u ≠ Ascii.lineFeed)
    (notReturn : u ≠ Ascii.carriageReturn) :
    reader.pushUnit u =
      { reader with pending := u :: reader.pending, afterReturn := false } := by
  unfold pushUnit
  split
  · exact absurd rfl notFeed
  · exact absurd rfl notReturn
  · rfl

/-- A line without its end is pending, and a carriage return before it is forgotten. -/
theorem foldl_pushUnit_oneLine (oneLine : IsOneLine units) :
    units.foldl pushUnit reader = { reader with
      pending := units.reverse ++ reader.pending
      afterReturn := units.isEmpty && reader.afterReturn } := by
  induction units generalizing reader with
  | nil => rfl
  | cons u units ih =>
      obtain ⟨⟨notFeed, notReturn⟩, rest⟩ := List.forall_mem_cons.mp oneLine
      rw [List.foldl_cons, pushUnit_of_ne notFeed notReturn, ih rest, List.reverse_cons,
        List.append_assoc]
      simp

/-- The reader finds the lines of a text. A line feed that still belongs to a carriage return
before the text is no line end of it. -/
theorem result_of_hasLines {lines : List Text} (has : HasLines units lines)
    (closed : reader.afterReturn = true → units.head? ≠ some Ascii.lineFeed)
    (empty : reader.pending = []) : reader.result units = reader.completed.reverse ++ lines := by
  induction has generalizing reader with
  | nothing => simp [result, finish, take, empty]
  | @unended line oneLine some_ =>
      rw [result, foldl_pushUnit_oneLine oneLine, empty, List.append_nil]
      simp [finish, take, endLine, some_]
  | @ended line ending rest lines oneLine ends others ih =>
      rw [List.append_assoc, result_append, foldl_pushUnit_oneLine oneLine, empty, List.append_nil,
        result_append]
      cases ends with
      | feed =>
          have opened : (line.isEmpty && reader.afterReturn) = false := by
            rw [Bool.eq_false_iff, ne_eq, Bool.and_eq_true, List.isEmpty_iff]
            rintro ⟨rfl, after⟩
            exact closed after rfl
          rw [List.foldl_cons, List.foldl_nil, pushUnit_lineFeed opened, ih]
          · simp [endLine]
          · intro after
            exact absurd (opened.symm.trans after) nofun
          · rfl
      | both =>
          rw [List.foldl_cons, List.foldl_cons, List.foldl_nil, pushUnit_carriageReturn,
            pushUnit_of_afterReturn rfl, ih]
          · simp [endLine]
          · exact nofun
          · rfl
      | carriage alone =>
          rw [List.foldl_cons, List.foldl_nil, pushUnit_carriageReturn, ih]
          · simp [endLine]
          · exact fun _ => alone
          · rfl

/-- The lines are the others with as many empty lines put in between. -/
structure Padded (count : Nat) (lines others : List Text) : Prop where
  sublist : others.Sublist lines
  length : lines.length = others.length + count
  solid : lines.filter (· ≠ Text.empty) = others.filter (· ≠ Text.empty)

namespace Padded

variable {m n : Nat} {lines others rest : List Text}

theorem refl (lines : List Text) : Padded 0 lines lines := ⟨.refl lines, rfl, rfl⟩

theorem trans (first : Padded m lines others) (second : Padded n others rest) :
    Padded (m + n) lines rest := by
  refine ⟨second.sublist.trans first.sublist, ?_, first.solid.trans second.solid⟩
  rw [first.length, second.length]
  omega

/-- An empty line that is put in. -/
theorem one (front rest : List Text) : Padded 1 (front ++ Text.empty :: rest) (front ++ rest) := by
  refine ⟨.append_left (.cons _ (.refl rest)) front, ?_, ?_⟩
  · simp only [List.length_append, List.length_cons]
    omega
  · simp

theorem eq_iff (padded : Padded n lines others) : lines = others ↔ n = 0 := by
  constructor
  · rintro rfl
    have length := padded.length
    omega
  · rintro rfl
    exact (padded.sublist.eq_of_length padded.length.symm).symm

end Padded

/-- What holds of a reader at any byte: what is pending is proper, and no line has been started
after a carriage return that came last. -/
structure IsSettled (reader : LineReader) : Prop where
  proper : reader.decoder.IsProper
  empty : reader.afterReturn = true → reader.pending = []

/-- The reader has forgotten that a carriage return came last. -/
def forget (reader : LineReader) : LineReader := { reader with afterReturn := false }

/-- Lines that have been completed before stay in front. -/
theorem pushUnit_completed (reader : LineReader) (earlier : List Text) (u : UInt16) :
    { reader with completed := reader.completed ++ earlier }.pushUnit u =
      { reader.pushUnit u with completed := (reader.pushUnit u).completed ++ earlier } := by
  unfold pushUnit
  split
  · split <;> rfl
  · rfl
  · rfl

theorem result_completed (reader : LineReader) (earlier : List Text) (units : List UInt16) :
    { reader with completed := reader.completed ++ earlier }.result units =
      earlier.reverse ++ reader.result units := by
  induction units generalizing reader with
  | nil =>
      unfold result List.foldl finish take endLine
      dsimp only
      split <;> simp
  | cons u units ih =>
      have first := ih (reader.pushUnit u)
      rw [← pushUnit_completed] at first
      exact first

/-- A line feed after a carriage return that has been forgotten ends an empty line. -/
theorem padded_of_lineFeed (settled : reader.IsSettled) (after : reader.afterReturn = true)
    (units : List UInt16) :
    Padded 1 (reader.forget.result (Ascii.lineFeed :: units))
      (reader.result (Ascii.lineFeed :: units)) := by
  let bare : LineReader := { reader.forget with completed := [] }
  have empty : bare.pending = [] := settled.empty after
  have kept : reader.result (Ascii.lineFeed :: units) =
      reader.completed.reverse ++ bare.result units := by
    rw [← result_completed]
    change (reader.pushUnit Ascii.lineFeed).result units = _
    rw [pushUnit_of_afterReturn after]
    rfl
  have ended : reader.forget.result (Ascii.lineFeed :: units) =
      reader.completed.reverse ++ Text.empty :: bare.result units := by
    have both := result_completed bare (Text.empty :: reader.completed) units
    rw [List.reverse_cons, List.append_assoc, List.singleton_append] at both
    rw [← both]
    change (reader.forget.pushUnit Ascii.lineFeed).result units = _
    rw [pushUnit_lineFeed rfl, endLine, show reader.forget.pending = [] from empty]
    rfl
  rw [kept, ended]
  exact .one _ _

/-- Any other unit makes up for what has been forgotten. -/
theorem result_forget (other : units.head? ≠ some Ascii.lineFeed) :
    reader.forget.result units = reader.result units := by
  cases units with
  | nil =>
      unfold result List.foldl finish take endLine forget
      dsimp only
      split <;> rfl
  | cons u units =>
      have notFeed : u ≠ Ascii.lineFeed := fun same => other (congrArg some same)
      have first : reader.forget.pushUnit u = reader.pushUnit u := by
        unfold pushUnit
        split
        · exact absurd rfl notFeed
        · rfl
        · rfl
      rw [result, List.foldl_cons, first]
      rfl

/-- A byte is decoded, and its units are read. -/
theorem push_eq (reader : LineReader) (byte : UInt8) :
    reader.push byte =
      { ((reader.decoder.step byte).2.flatMap Text.unitsOfCodePoint).foldl pushUnit reader with
        decoder := (reader.decoder.step byte).1 } :=
  foldl_pushUnit_decoder ..

/-- A carriage return that came last is remembered, and nothing else. -/
theorem afterReturn_pushUnit (reader : LineReader) (u : UInt16) :
    (reader.pushUnit u).afterReturn = true ↔ u = Ascii.carriageReturn := by
  by_cases feed : u = Ascii.lineFeed
  · have apart : Ascii.lineFeed ≠ Ascii.carriageReturn := by decide
    rw [feed]
    cases after : reader.afterReturn with
    | true => simp [pushUnit_of_afterReturn after, apart]
    | false => simp [pushUnit_lineFeed after, endLine, after, apart]
  by_cases carriage : u = Ascii.carriageReturn
  · rw [carriage]
    exact iff_of_true rfl rfl
  · simp [pushUnit_of_ne feed carriage, carriage]

theorem afterReturn_foldl (some_ : units ≠ []) :
    (units.foldl pushUnit reader).afterReturn = true ↔
      units.getLast? = some Ascii.carriageReturn := by
  rcases List.eq_nil_or_concat units with rfl | ⟨front, last, rfl⟩
  · exact absurd rfl some_
  · rw [List.concat_eq_append, List.foldl_append, List.foldl_cons, List.foldl_nil,
      afterReturn_pushUnit, List.getLast?_concat, Option.some.injEq]

/-- A carriage return came last, with no character pending behind it, exactly if the last byte is
one. -/
theorem afterReturn_push (proper : reader.decoder.IsProper) (byte : UInt8) :
    (reader.push byte).afterReturn = true ∧ (reader.push byte).decoder = .fresh ↔
      byte = 0x0D := by
  rw [push_eq, ← Utf8Reader.getLast?_step proper, and_comm]
  dsimp only
  apply and_congr_right
  intro fresh
  apply afterReturn_foldl
  intro silent
  rcases points : (reader.decoder.step byte).2 with - | ⟨c, points⟩
  · exact Utf8Reader.ne_fresh_of_step points fresh
  · rw [points, List.flatMap_cons, List.append_eq_nil_iff] at silent
    exact Text.unitsOfCodePoint_ne_nil c silent.1

/-- No line has been started where a carriage return came last. -/
theorem pending_foldl (empty : reader.afterReturn = true → reader.pending = []) :
    (units.foldl pushUnit reader).afterReturn = true →
      (units.foldl pushUnit reader).pending = [] := by
  induction units generalizing reader with
  | nil => exact empty
  | cons u units ih =>
      apply ih
      rw [afterReturn_pushUnit]
      rintro rfl
      rfl

theorem isSettled_push (settled : reader.IsSettled) (byte : UInt8) :
    (reader.push byte).IsSettled := by
  rw [push_eq]
  exact ⟨Utf8Reader.isProper_step settled.proper byte, pending_foldl settled.empty⟩

theorem isSettled_foldl (settled : reader.IsSettled) (bytes : List UInt8) :
    (bytes.foldl push reader).IsSettled := by
  induction bytes generalizing reader with
  | nil => exact settled
  | cons byte bytes ih => exact ih (isSettled_push settled byte)

/-- The reader of lines knows whether the last byte is a carriage return. -/
def Tracks (reader : LineReader) (last : Option UInt8) : Prop :=
  reader.afterReturn = true ∧ reader.decoder = .fresh ↔ last = some 0x0D

theorem tracks_foldl (settled : reader.IsSettled) {bytes : List UInt8} (some_ : bytes ≠ []) :
    (bytes.foldl push reader).Tracks bytes.getLast? := by
  rcases List.eq_nil_or_concat bytes with rfl | ⟨front, last, rfl⟩
  · exact absurd rfl some_
  · rw [List.concat_eq_append, List.foldl_append, List.foldl_cons, List.foldl_nil,
      List.getLast?_concat, Tracks, Option.some.injEq]
    exact afterReturn_push (isSettled_foldl settled front).proper last

theorem tracks_forget (reader : LineReader) : reader.forget.Tracks none :=
  iff_of_false (fun after => nomatch after.1) nofun

theorem result_append_bytes (reader : LineReader) (front rest : List UInt8) :
    reader.result (reader.decoder.units (front ++ rest)) =
      (front.foldl push reader).result ((front.foldl push reader).decoder.units rest) := by
  rw [Utf8Reader.units, Utf8Reader.read_append, List.flatMap_append, result_append, foldl_push]
  exact (result_decoder ..).symm

/-- Forgetting a carriage return puts an empty line in where a line feed follows at once, and
nothing anywhere else. -/
theorem padded_forget (settled : reader.IsSettled) {last : Option UInt8}
    (tracks : reader.Tracks last) (bytes : List UInt8) :
    Padded (if last = some 0x0D ∧ bytes.head? = some 0x0A then 1 else 0)
      (reader.forget.result (reader.decoder.units bytes))
      (reader.result (reader.decoder.units bytes)) := by
  have first := Utf8Reader.head?_units settled.proper bytes
  split
  · next parted =>
      obtain ⟨after, fresh⟩ := tracks.mpr parted.1
      obtain ⟨units, found⟩ := List.head?_eq_some_iff.mp (first.mpr ⟨fresh, parted.2⟩)
      rw [found]
      exact padded_of_lineFeed settled after units
  · next joined =>
      cases after : reader.afterReturn with
      | false =>
          have same : reader.forget = reader := by rw [forget, ← after]
          rw [same]
          exact .refl _
      | true =>
          rw [result_forget]
          · exact .refl _
          · intro feed
            obtain ⟨fresh, head⟩ := first.mp feed
            exact joined ⟨tracks.mp ⟨after, fresh⟩, head⟩

/-- How often a piece without bytes parts a carriage return from a line feed. The last byte counts
only until there has been such a piece. -/
def partings : Option UInt8 → List (List UInt8) → Nat
  | _, [] => 0
  | last, [] :: pieces =>
    (if last = some 0x0D ∧ pieces.flatten.head? = some 0x0A then 1 else 0) + partings none pieces
  | _, piece :: pieces => partings piece.getLast? pieces

/-- Each parting puts an empty line in, and the pieces make no other difference. -/
theorem padded_foldl (settled : reader.IsSettled) {last : Option UInt8}
    (tracks : reader.Tracks last) (pieces : List (List UInt8)) :
    Padded (partings last pieces) (pieces.foldl feed reader).finish.take.1
      (reader.result (reader.decoder.units pieces.flatten)) := by
  induction pieces generalizing reader last with
  | nil => exact .refl _
  | cons piece pieces ih =>
      cases piece with
      | nil =>
          have forgotten : reader.forget.IsSettled := ⟨settled.proper, nofun⟩
          have others := ih forgotten (tracks_forget reader)
          have both := others.trans (padded_forget settled tracks pieces.flatten)
          rw [Nat.add_comm] at both
          exact both
      | cons byte bytes =>
          have some_ := List.cons_ne_nil byte bytes
          have others := ih (isSettled_foldl settled (byte :: bytes)) (tracks_foldl settled some_)
          rw [List.flatten_cons, result_append_bytes]
          exact others

/-- A piece without bytes stands where a carriage return came last and a line feed comes next. -/
def PartedAfter (last : Option UInt8) (pieces : List (List UInt8)) : Prop :=
  ∃ front back, pieces = front ++ [] :: back ∧
    front.flatten.getLast?.or last = some 0x0D ∧ back.flatten.head? = some 0x0A

theorem partedAfter_nil_cons {last : Option UInt8} {pieces : List (List UInt8)} :
    PartedAfter last ([] :: pieces) ↔
      (last = some 0x0D ∧ pieces.flatten.head? = some 0x0A) ∨ PartedAfter none pieces := by
  constructor
  · rintro ⟨front, back, same, before, behind⟩
    cases front with
    | nil =>
        obtain ⟨-, rfl⟩ := List.cons.inj same
        exact .inl ⟨before, behind⟩
    | cons piece front =>
        obtain ⟨rfl, rfl⟩ := List.cons.inj same
        rw [List.flatten_cons, List.nil_append] at before
        cases silent : front.flatten.getLast? with
        | none =>
            rw [silent, Option.none_or] at before
            have empty := List.getLast?_eq_none_iff.mp silent
            exact .inl ⟨before, by simpa [empty] using behind⟩
        | some byte =>
            rw [silent] at before
            exact .inr ⟨front, back, rfl, by rw [silent]; exact before, behind⟩
  · rintro (⟨before, behind⟩ | ⟨front, back, rfl, before, behind⟩)
    · exact ⟨[], pieces, rfl, before, behind⟩
    · rw [Option.or_none] at before
      exact ⟨[] :: front, back, rfl, by simp [before], behind⟩

theorem partedAfter_cons {last : Option UInt8} {piece : List UInt8} {pieces : List (List UInt8)}
    (some_ : piece ≠ []) :
    PartedAfter last (piece :: pieces) ↔ PartedAfter piece.getLast? pieces := by
  have joined (front : List (List UInt8)) : (piece :: front).flatten.getLast?.or last =
      front.flatten.getLast?.or piece.getLast? := by
    rw [List.flatten_cons, List.getLast?_append, Option.or_assoc,
      List.getLast?_eq_some_getLast some_, Option.some_or]
  constructor
  · rintro ⟨front, back, same, before, behind⟩
    cases front with
    | nil => exact absurd (List.cons.inj same).1 some_
    | cons own front =>
        obtain ⟨rfl, rfl⟩ := List.cons.inj same
        exact ⟨front, back, rfl, joined front ▸ before, behind⟩
  · rintro ⟨front, back, rfl, before, behind⟩
    exact ⟨piece :: front, back, rfl, (joined front).trans before, behind⟩

theorem partings_eq_zero_iff (last : Option UInt8) (pieces : List (List UInt8)) :
    partings last pieces = 0 ↔ ¬ PartedAfter last pieces := by
  induction pieces generalizing last with
  | nil =>
      refine iff_of_true rfl ?_
      rintro ⟨front, back, same, -⟩
      simp at same
  | cons piece pieces ih =>
      cases piece with
      | nil =>
          rw [partedAfter_nil_cons, not_or, ← ih, partings]
          split <;> simp [*]
      | cons byte bytes =>
          rw [partedAfter_cons (List.cons_ne_nil byte bytes), ← ih, partings]
          exact nofun

/-- A piece without bytes stands between a carriage return and a line feed. -/
def IsParted (pieces : List (List UInt8)) : Prop :=
  ∃ front back, pieces = front ++ [] :: back ∧ front.flatten.getLast? = some 0x0D ∧
    back.flatten.head? = some 0x0A

theorem partedAfter_none_iff (pieces : List (List UInt8)) :
    PartedAfter none pieces ↔ IsParted pieces := by
  simp only [PartedAfter, IsParted, Option.or_none]

theorem linesOf_singleton (bytes : List UInt8) :
    linesOf [bytes] = initial.result (Utf8Reader.fresh.units bytes) := by
  cases bytes with
  | nil => rfl
  | cons byte bytes =>
      have whole := result_append_bytes initial (byte :: bytes) []
      rw [List.append_nil] at whole
      exact whole.symm

/-- Bytes that come at once have the lines of the text that they are decoded to. -/
theorem hasLines_iff (bytes : List UInt8) (lines : List Text) :
    HasLines (Utf8Reader.fresh.units bytes) lines ↔ lines = linesOf [bytes] := by
  have found {lines : List Text} (has : HasLines (Utf8Reader.fresh.units bytes) lines) :
      linesOf [bytes] = lines := by
    rw [linesOf_singleton]
    exact @result_of_hasLines initial _ _ has nofun rfl
  constructor
  · intro has
    exact (found has).symm
  · rintro rfl
    obtain ⟨lines, has⟩ := Text.exists_hasLines (Utf8Reader.fresh.units bytes)
    rwa [found has]

/-- The lines of pieces are those of the bytes at once, with an empty line put in for each
parting. -/
theorem padded_linesOf (pieces : List (List UInt8)) :
    Padded (partings none pieces) (linesOf pieces) (linesOf [pieces.flatten]) := by
  have settled : initial.IsSettled := ⟨trivial, nofun⟩
  rw [linesOf_singleton]
  exact padded_foldl settled (tracks_forget initial) pieces

/-- The pieces make no difference exactly if none without bytes parts a carriage return from a line
feed. -/
theorem linesOf_eq_iff (pieces : List (List UInt8)) :
    linesOf pieces = linesOf [pieces.flatten] ↔ ¬ IsParted pieces := by
  rw [(padded_linesOf pieces).eq_iff, partings_eq_zero_iff, partedAfter_none_iff]

/-- Bytes that come in pieces have the lines of the text that they are decoded to, exactly if no
piece without bytes stands between a carriage return and its line feed. Whether one does or not,
no line has a line break in it, and no line that is not empty is lost, added or changed. -/
theorem lines_of_pieces (pieces : List (List UInt8)) :
    (∀ lines, HasLines (Utf8Reader.fresh.units pieces.flatten) lines ↔
        lines = linesOf [pieces.flatten]) ∧
      (linesOf pieces = linesOf [pieces.flatten] ↔ ¬ IsParted pieces) ∧
      (∀ line ∈ linesOf pieces, IsOneLine line.units) ∧
      (linesOf pieces).filter (· ≠ Text.empty) =
        (linesOf [pieces.flatten]).filter (· ≠ Text.empty) := by
  have whole := hasLines_iff pieces.flatten
  have padded := padded_linesOf pieces
  refine ⟨whole, linesOf_eq_iff pieces, ?_, padded.solid⟩
  intro line member
  by_cases empty : line = Text.empty
  · rw [empty]
    exact List.forall_mem_nil _
  · have solid : line ∈ (linesOf pieces).filter (· ≠ Text.empty) :=
      List.mem_filter.mpr ⟨member, decide_eq_true empty⟩
    rw [padded.solid] at solid
    exact ((whole _).mpr rfl).isOneLine line (List.mem_filter.mp solid).1

/-- Three pieces, cut inside a character and between a carriage return and its line feed. -/
theorem lines_of_three_pieces :
    let pieces : List (List UInt8) := [[0xC3], [0xA9, 0x0D], [0x0A, 0x62]]
    ¬ IsParted pieces ∧
      HasLines (Utf8Reader.fresh.units pieces.flatten) [⟨[0xE9]⟩, ⟨[0x62]⟩] ∧
      IsOneLine [0xE9] := by
  intro pieces
  have lines : linesOf pieces = [⟨[0xE9]⟩, ⟨[0x62]⟩] := by decide
  have whole : linesOf pieces = linesOf [pieces.flatten] := by decide
  obtain ⟨has, joined, oneLine, -⟩ := lines_of_pieces pieces
  rw [lines] at joined oneLine whole
  exact ⟨joined.mp whole, (has _).mpr whole, oneLine _ List.mem_cons_self⟩

/-- A piece without bytes between a carriage return and its line feed makes two line ends of
them. -/
theorem linesOf_ne_of_parted :
    ¬ ∀ pieces others : List (List UInt8), pieces.flatten = others.flatten →
      linesOf pieces = linesOf others := by
  intro same
  have parted := same [[0x61, 0x0D], [], [0x0A, 0x62, 0x0A]] [[0x61, 0x0D], [0x0A, 0x62, 0x0A]] rfl
  exact absurd parted (by decide)

end LineReader

end MeterSignals
