/-
# What the observer gets

An observer that is told about every line gets the input back. Strings without line breaks come
in as UTF-8, each with a line feed behind it and cut anywhere; for each of them one datagram goes
out, and the datagrams one after the other are the bytes that came in. What a line says, whether
it is a frame at all, what becomes of its publication and whether its send succeeds are of no
account here.
-/

import MeterSignals.Proofs.Stream.Batches
import MeterSignals.Proofs.Text.Lines

namespace MeterSignals

/-- The text of a line is relayed with the line feed behind it. -/
theorem relayedText_ofString (s : String) :
    relayedText (Text.ofString s) = Text.ofString (s ++ "\n") :=
  (Text.ofString_append s "\n").symm

namespace RelayTarget

variable (target : RelayTarget)

/-- The datagram of a string with a line feed behind it. -/
def datagramOfLine (s : String) : Datagram := ⟨(s ++ "\n").toUTF8.data.toList, target⟩

/-- What goes out for strings that have been read as lines. -/
theorem map_datagram_ofString (strings : List String) :
    ((strings.map Text.ofString).map relayedText).map target.datagram =
      strings.map target.datagramOfLine := by
  rw [List.map_map, List.map_map]
  refine List.map_congr_left fun s _ => ?_
  change target.datagram (relayedText (Text.ofString s)) = target.datagramOfLine s
  rw [datagram, relayedText_ofString, Text.toUtf8_ofString, datagramOfLine]

/-- The datagrams of lines hold the bytes of the lines. -/
theorem flatMap_datagramOfLine (strings : List String) :
    (strings.map target.datagramOfLine).flatMap Datagram.bytes = bytesOfLines strings :=
  List.flatMap_map ..

end RelayTarget

namespace StreamRun

variable {run : StreamRun}

/-- A stream that is relayed stays so. -/
theorem step_relayed (run : StreamRun) (event : RunEvent) :
    (run.step event).run.stream.relayed = run.stream.relayed := by
  cases event with
  | line line now thrown =>
      by_cases busy : run.current.isSome
      · rw [run.step_line_of_busy busy]
      · rw [step_line_of_idle (Option.not_isSome_iff_eq_none.mp busy)]
        exact run.stream.enter_relayed line now thrown
  | relaySettled number reply => exact congrArg Stream.relayed (update_stream ..)
  | publicationSettled number reply => exact congrArg Stream.relayed (update_stream ..)
  | resumed =>
      rw [resumed_run]
      split
      · rfl
      · split <;> rfl
  | lookupFinished now outcome => exact (run.stream.finishLookup_kept now outcome).2.1

/-- A line that enters goes to the observer, and nothing else does. -/
theorem step_relay (relayed : run.stream.relayed = true) (event : RunEvent) :
    (run.step event).relay = (run.entering? event).map relayedText := by
  cases isLine : event.isLine with
  | false =>
      rw [(run.step_isSilent isLine).relay, run.entering?_of_not_line isLine, Option.map_none]
  | true =>
      obtain ⟨line, now, thrown, rfl⟩ := RunEvent.exists_line_of_isLine isLine
      by_cases busy : run.current.isSome
      · rw [run.step_line_of_busy busy, entering?, if_pos busy, Option.map_none]
      · rw [step_line_of_idle (Option.not_isSome_iff_eq_none.mp busy), entering?, if_neg busy,
          Stream.enter_relay, if_pos relayed, Option.map_some]

/-- However its legs end, every line that is read to its end goes to the observer once. -/
theorem readAll_relays (idle : run.current = none) (relayed : run.stream.relayed = true)
    (passages : List Passage) :
    (run.readAll passages).1.count = run.count + passages.length ∧
      (run.readAll passages).2.filterMap Reading.relay =
        (passages.map Passage.line).map relayedText := by
  induction passages generalizing run with
  | nil => exact ⟨rfl, rfl⟩
  | cons passage passages ih =>
      obtain ⟨next, -, -⟩ := read_of_idle idle passage
      have first : (run.read passage).2.relay = some (relayedText passage.line) := by
        rw [read, step_relay relayed, entering?, idle]
        rfl
      obtain ⟨count, rest⟩ := @ih (run.read passage).1 (by rw [next])
        (by rw [next, Stream.enter_relayed, relayed])
      constructor
      · simp only [readAll]
        rw [count, next, List.length_cons, Nat.add_right_comm, Nat.add_assoc]
      · simp only [readAll, List.map_cons]
        rw [List.filterMap_cons_some first, rest]

end StreamRun

namespace Transcript

/-- The datagrams that go to a target, in order. -/
def datagrams (transcript : Transcript) (target : RelayTarget) : List Datagram :=
  transcript.relayed.map target.datagram

theorem of_relayed (stream : Stream) (events : List RunEvent) :
    (of stream events).run.stream.relayed = stream.relayed := by
  induction events using List.reverseRecOn with
  | nil => rfl
  | append_singleton events event ih =>
      rw [of_snoc]
      exact ((of stream events).run.step_relayed event).trans ih

/-- What has gone to the observer are the lines that have entered. -/
theorem relayed_eq_lines {stream : Stream} (relayed : stream.relayed = true)
    (events : List RunEvent) :
    (of stream events).relayed = (lines stream events).map relayedText := by
  induction events using List.reverseRecOn with
  | nil => rfl
  | append_singleton events event ih =>
      have kept : (of stream events).run.stream.relayed = true :=
        (of_relayed stream events).trans relayed
      have last : (of stream (events ++ [event])).relayed =
          (of stream events).relayed ++
            ((of stream events).run.step event).relay.toList := by
        rw [of_snoc]
        rfl
      rw [last, ih, lines_snoc, List.map_append, StreamRun.step_relay kept]
      cases (of stream events).run.entering? event <;> rfl

end Transcript

/-- Strings without line breaks, each with a line feed behind it, written as UTF-8 and cut
anywhere. The lines that are read from the pieces are the strings. In every run that takes them in
as they come, with anything else happening in between, the datagrams so far are those of the
strings that have entered; they all have the target, and once all have entered they hold the bytes
of the input, neither more nor less. Read to their ends, however those may turn out, all lines do
enter. -/
theorem Transcript.datagrams_of_pieces (options : StreamOptions) (fallback : Option Fallback)
    (target : RelayTarget) {strings : List String} (unbroken : ∀ s ∈ strings, IsUnbroken s)
    {pieces : List (List UInt8)} (whole : pieces.flatten = bytesOfLines strings) :
    let stream := Stream.initial options true fallback
    LineReader.linesOf pieces = strings.map Text.ofString ∧
    (∀ events, lines stream events <+: LineReader.linesOf pieces →
      (of stream events).datagrams target =
        (strings.take (lines stream events).length).map target.datagramOfLine) ∧
    (∀ events, lines stream events = LineReader.linesOf pieces →
      (of stream events).datagrams target = strings.map target.datagramOfLine ∧
        ((of stream events).datagrams target).flatMap Datagram.bytes = pieces.flatten) ∧
    ∀ passages : List Passage, passages.map Passage.line = LineReader.linesOf pieces →
      let (run, readings) := (StreamRun.initial stream).readAll passages
      let datagrams := (readings.filterMap Reading.relay).map target.datagram
      run.current = none ∧ run.count = strings.length ∧
        datagrams = strings.map target.datagramOfLine ∧
        datagrams.flatMap Datagram.bytes = pieces.flatten := by
  intro stream
  have read := LineReader.linesOf_pieces unbroken whole
  have back : (strings.map target.datagramOfLine).flatMap Datagram.bytes = pieces.flatten :=
    (target.flatMap_datagramOfLine strings).trans whole.symm
  have sofar : ∀ events, lines stream events <+: LineReader.linesOf pieces →
      (of stream events).datagrams target =
        (strings.take (lines stream events).length).map target.datagramOfLine := by
    intro events start
    have entered := List.prefix_iff_eq_take.mp start
    rw [read, ← List.map_take] at entered
    rw [datagrams, relayed_eq_lines rfl]
    nth_rewrite 1 [entered]
    rw [target.map_datagram_ofString]
  refine ⟨read, sofar, ?_, ?_⟩
  · intro events all
    have given := sofar events (all ▸ List.prefix_refl _)
    rw [all, read, List.length_map, List.take_length] at given
    exact ⟨given, given ▸ back⟩
  · intro passages all
    obtain ⟨count, relays⟩ := @StreamRun.readAll_relays (.initial stream) rfl rfl passages
    have number : passages.length = strings.length := by
      rw [← List.length_map Passage.line, all, read, List.length_map]
    have given : (((StreamRun.initial stream).readAll passages).2.filterMap Reading.relay).map
        target.datagram = strings.map target.datagramOfLine := by
      rw [relays, all, read, target.map_datagram_ofString]
    refine ⟨StreamRun.readAll_idle rfl passages, ?_, given, given ▸ back⟩
    rw [count, number]
    exact Nat.zero_add _

/-- Two strings, the first of them no frame and cut within its character; the send of the first
fails, and that of the second breaks it off. -/
theorem Transcript.datagrams_of_two_lines :
    let strings := ["é", r#"{"_tvalide":1}"#]
    let pieces : List (List UInt8) :=
      [[0xC3], [0xA9, 0x0A, 0x7B, 0x22, 0x5F], [],
        [0x74, 0x76, 0x61, 0x6C, 0x69, 0x64, 0x65, 0x22, 0x3A, 0x31, 0x7D, 0x0A]]
    let target : RelayTarget := ⟨"observer", Number.ofInteger 5000⟩
    let passages : List Passage :=
      [⟨"é", none, none, .ok (.error ⟨none, none⟩), .ok (.ok ())⟩,
        ⟨r#"{"_tvalide":1}"#, none, none, .error (.value .null), .ok (.ok ())⟩]
    let readings :=
      ((StreamRun.initial (.initial (.usual 0) true none)).readAll passages).2
    (∀ s ∈ strings, IsUnbroken s) ∧ pieces.flatten = bytesOfLines strings ∧
      passages.map Passage.line = LineReader.linesOf pieces ∧
      ((readings.filterMap Reading.relay).map target.datagram).flatMap Datagram.bytes =
        pieces.flatten := by
  intro strings pieces target passages readings
  have unbroken : ∀ s ∈ strings, IsUnbroken s := by decide
  have whole : pieces.flatten = bytesOfLines strings := by decide +kernel
  obtain ⟨read, -, -, ends⟩ := datagrams_of_pieces (.usual 0) none target unbroken whole
  have taken : passages.map Passage.line = LineReader.linesOf pieces := read ▸ rfl
  exact ⟨unbroken, whole, taken, (ends passages taken).2.2.2⟩

end MeterSignals
