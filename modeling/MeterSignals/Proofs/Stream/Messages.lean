/-
# The messages of the meter in the log

A meter repeats its text in frame after frame, and a stream remembers the last text that it has
seen. What the log says can be told without that memory: the texts that the accepted frames carry,
with equal neighbours told once. A line that is rejected and a frame without the field are not
among them, so they do not part two equal texts either. How sends, publications and calendar
lookups end, and when, is of no account.

The step law speaks of what is remembered and reported at one event; the run law follows from it by
induction on the events, the last one taken off first, since the memory is about the texts so far.
-/

import Mathlib.Data.List.Destutter
import MeterSignals.Proofs.Stream.Batches
import MeterSignals.Proofs.Stream.Relevance

namespace MeterSignals

section Collapsing

variable {α : Type} [DecidableEq α]

/-- An element at the end of a list is kept unless it equals the one before it. -/
theorem destutter'_concat (first : α) (rest : List α) (last : α) :
    (rest ++ [last]).destutter' (· ≠ ·) first =
      rest.destutter' (· ≠ ·) first ++
        if rest.getLast?.getD first = last then [] else [last] := by
  induction rest generalizing first with
  | nil => by_cases same : first = last <;> simp [same]
  | cons next rest ih =>
      rw [List.cons_append, List.getLast?_cons, Option.getD_some]
      by_cases same : first = next
      · simp [same, ih]
      · simp [same, ih]

theorem destutter_concat (texts : List α) (last : α) :
    (texts ++ [last]).destutter (· ≠ ·) =
      texts.destutter (· ≠ ·) ++ if texts.getLast? = some last then [] else [last] := by
  cases texts with
  | nil => simp
  | cons first rest =>
      rw [List.cons_append, List.destutter_cons', List.destutter_cons', destutter'_concat,
        List.getLast?_cons]
      simp only [Option.some.injEq]

end Collapsing

namespace MeterMessage

/-- What is remembered is the last text. -/
theorem compare_last (texts : List Text) (text : Option Text) :
    (compare texts.getLast? text).last = (texts ++ text.toList).getLast? := by
  cases text with
  | none => simp [compare]
  | some t => by_cases same : texts.getLast? = some t <;> simp [compare, same]

/-- What is news is what is not collapsed with the texts before it. -/
theorem compare_changed (texts : List Text) (text : Option Text) :
    (texts ++ text.toList).destutter (· ≠ ·) =
      texts.destutter (· ≠ ·) ++ (compare texts.getLast? text).changed.toList := by
  cases text with
  | none => simp [compare]
  | some t =>
      rw [Option.toList_some, destutter_concat]
      by_cases same : texts.getLast? = some t <;> simp [compare, same]

/-- Without a text all stays as it is, and there is no news. -/
theorem compare_none (last : Option Text) : compare last none = ⟨last, none⟩ := rfl

end MeterMessage

namespace StreamOptions

variable (options : StreamOptions)

/-- The text of the meter in a line, if the line is accepted and its frame has the field. -/
def message? (line : Text) : Option Text :=
  (Record.ofLine options.validity line).toOption.bind fun record =>
    (record.datum? options.message).map Datum.shown

/-- The texts of the meter in a row of lines. -/
def messages (lines : List Text) : List Text := lines.filterMap options.message?

theorem messages_append (earlier : List Text) (line : Option Text) :
    options.messages (earlier ++ line.toList) =
      options.messages earlier ++ (line.bind options.message?).toList := by
  rw [messages, List.filterMap_append]
  cases line with
  | none => rfl
  | some line => cases found : options.message? line <;> simp [messages, found]

/-- Frames with the same number, one of which writes it as a text, carry the same text. -/
theorem message?_of_number {line other : Text} {record second : Record} {value : Float}
    (read : Record.ofLine options.validity line = .ok record)
    (otherRead : Record.ofLine options.validity other = .ok second)
    (number : record.datum? options.message = some (.number value))
    (text : second.datum? options.message = some (.text (Number.text value))) :
    options.message? line = options.message? other := by
  simp [message?, read, otherRead, number, text, Except.toOption, Datum.shown]

end StreamOptions

namespace Log.Entry

/-- The entry that tells a message of the meter. -/
def ofMessage (message : Text) : Entry :=
  .detailed .meter .info [("message", .str message)] "Meter message"

/-- The entry has the text of those that tell a message. -/
def isMessage (entry : Entry) : Bool := entry.text = ("Meter message" : Text)

end Log.Entry

/-- The text of an entry tells whether it is about a message of the meter. -/
theorem Notice.isMessage_entry (notice : Notice) :
    notice.entry.isMessage = notice.meterMessage?.isSome := by
  cases notice with
  | stream notice => cases notice <;> rfl
  | gateway notice => cases notice with
    | stopping signal => cases signal <;> rfl
    | _ => rfl
  | input notice => cases notice; rfl
  | fallback notice => cases notice <;> rfl
  | calendar notice => cases notice <;> rfl
  | broker notice => cases notice <;> rfl
  | relay notice => cases notice <;> rfl

/-- A message that is reported is told by the entry of the report. -/
theorem Notice.entry_of_meterMessage? {notice : Notice} {message : Text}
    (told : notice.meterMessage? = some message) : notice.entry = .ofMessage message := by
  cases notice with
  | stream notice => cases notice with
    | meterMessage other => cases told; rfl
    | _ => cases told
  | _ => cases told

/-- The entries that tell a message are those of the messages that are reported. -/
theorem filter_isMessage (notices : List Notice) :
    (notices.map Notice.entry).filter Log.Entry.isMessage =
      (notices.filterMap Notice.meterMessage?).map Log.Entry.ofMessage := by
  induction notices with
  | nil => rfl
  | cons notice notices ih =>
      rw [List.map_cons, List.filter_cons, notice.isMessage_entry, ih]
      cases told : notice.meterMessage? with
      | none => simp [told]
      | some message => simp [told, Notice.entry_of_meterMessage? told]

namespace StreamState

variable (options : StreamOptions) (state : StreamState) (line : Text)

/-- A line that is taken in leaves the message of its frame behind, if it has one. -/
theorem take_lastMessage :
    (state.take options line).state.lastMessage =
      (MeterMessage.compare state.lastMessage (options.message? line)).last := by
  cases read : Record.ofLine options.validity line with
  | error rejection => simp [take_of_error read, StreamOptions.message?, read, Except.toOption,
      MeterMessage.compare_none]
  | ok record => simp [take_of_ok read, takeRecord, StreamOptions.message?, read, Except.toOption,
      MeterMessage.track, Record.text?_eq]

/-- A line that is taken in reports the message of its frame, if that is news. -/
theorem take_messages :
    ((state.take options line).notices.map Notice.stream).filterMap Notice.meterMessage? =
      (MeterMessage.compare state.lastMessage (options.message? line)).changed.toList := by
  cases read : Record.ofLine options.validity line with
  | error rejection => simp [take_of_error read, StreamOptions.message?, read, Except.toOption,
      MeterMessage.compare_none, Notice.meterMessage?]
  | ok record =>
      simp only [take_of_ok read, takeRecord, StreamOptions.message?, read, Except.toOption,
        MeterMessage.track, Record.text?_eq, Option.bind_some]
      cases (MeterMessage.compare state.lastMessage _).changed <;> rfl

end StreamState

namespace StreamRun

variable (run : StreamRun) {event : RunEvent}

/-- The fallback never reports a message of the meter. -/
theorem filterMap_fallback (said : List FallbackNotice) :
    (said.map Notice.fallback).filterMap Notice.meterMessage? = [] := by
  simp [Notice.meterMessage?]

/-- An event that is no line reports no message of the meter. -/
theorem messages_of_not_line (other : event.isLine = false) :
    (run.step event).notices.filterMap Notice.meterMessage? = [] := by
  cases event with
  | line line now thrown => cases other
  | relaySettled number reply =>
      apply List.filterMap_eq_nil_iff.mpr
      intro notice member
      obtain ⟨said, found, rfl⟩ := List.mem_map.mp member
      obtain ⟨flight, source⟩ := run.mem_update number _ found
      obtain ⟨e, rfl⟩ := Flight.eq_of_mem_settleRelay source
      rfl
  | publicationSettled number reply =>
      apply List.filterMap_eq_nil_iff.mpr
      intro notice member
      obtain ⟨said, found, rfl⟩ := List.mem_map.mp member
      obtain ⟨flight, source⟩ := run.mem_update number _ found
      rcases Flight.eq_of_mem_settlePublication source with ⟨signals, rfl⟩ | ⟨e, rfl⟩ <;> rfl
  | resumed =>
      cases current : run.current with
      | none => rw [run.step_resumed_of_idle current]; rfl
      | some line =>
          rcases run.step_resumed_of_current line.1 current with
            ⟨-, step⟩ | ⟨result, left, -, step⟩
          · rw [step]; rfl
          · rw [step]
            rcases result with (fault | value) | outcome <;> rfl
  | lookupFinished now outcome =>
      obtain ⟨said, notices⟩ := run.stream.finishLookup_notices now outcome
      rw [step_lookupFinished, notices, filterMap_fallback]

/-- The text that an event brings, if a line enters with it that carries one. -/
def heard? (event : RunEvent) : Option Text :=
  (run.entering? event).bind run.stream.options.message?

/-- One event: the text that it brings is remembered, and reported if it is news. -/
theorem step_messages (event : RunEvent) :
    let change := MeterMessage.compare run.stream.state.lastMessage (run.heard? event)
    (run.step event).run.stream.state.lastMessage = change.last ∧
      (run.step event).notices.filterMap Notice.meterMessage? = change.changed.toList := by
  cases isLine : event.isLine with
  | false =>
      obtain ⟨-, -, state⟩ := run.step_kept isLine
      simp [heard?, run.entering?_of_not_line isLine, MeterMessage.compare_none, state,
        run.messages_of_not_line isLine]
  | true =>
      obtain ⟨line, now, thrown, rfl⟩ := RunEvent.exists_line_of_isLine isLine
      by_cases busy : run.current.isSome
      · simp [run.step_line_of_busy busy, heard?, entering?, busy, MeterMessage.compare_none]
      · obtain ⟨said, notices⟩ := run.stream.enter_notices line now thrown
        rw [step_line_of_idle (Option.not_isSome_iff_eq_none.mp busy), heard?, entering?,
          if_neg busy, Option.bind_some]
        constructor
        · rw [Stream.enter_state, StreamState.next, StreamState.take_lastMessage]
        · rw [notices, List.filterMap_append, filterMap_fallback, List.append_nil,
            StreamState.take_messages]

end StreamRun

namespace Transcript

variable (options : StreamOptions) (relayed : Bool) (fallback : Option Fallback)

/-- The log of a run. -/
def log (transcript : Transcript) : List Log.Entry := transcript.notices.map Notice.entry

/-- The texts so far decide which message is remembered and which ones were reported. -/
theorem messages_of (events : List RunEvent) :
    let stream := Stream.initial options relayed fallback
    let texts := options.messages (lines stream events)
    (of stream events).run.stream.state.lastMessage = texts.getLast? ∧
      (of stream events).notices.filterMap Notice.meterMessage? = texts.destutter (· ≠ ·) := by
  intro stream
  induction events using List.reverseRecOn with
  | nil => exact ⟨rfl, rfl⟩
  | append_singleton events event ih =>
      obtain ⟨remembered, reported⟩ := ih
      obtain ⟨last, changed⟩ := (of stream events).run.step_messages event
      have settings : (of stream events).run.stream.options = options := of_options stream events
      rw [StreamRun.heard?, settings, remembered] at last changed
      intro texts
      have more : texts = options.messages (lines stream events) ++
          (((of stream events).run.entering? event).bind options.message?).toList := by
        rw [← options.messages_append, ← lines_snoc]
      rw [of_snoc, more, ← MeterMessage.compare_last, MeterMessage.compare_changed, ← reported,
        ← changed]
      exact ⟨last, List.filterMap_append ..⟩

/-- In every run, however its sends and publications and the lookups of its fallback end and in
whatever order: the entries of the log about messages of the meter tell, in order, the texts that
the accepted lines carry, with equal neighbours collapsed to one; after every event, and so after
every line, the last of these texts is remembered, if there is one. A number and a text that reads
like it count as equal. -/
theorem messages_are_collapsed (events : List RunEvent) :
    let stream := Stream.initial options relayed fallback
    let texts := options.messages (lines stream events)
    (of stream events).log.filter Log.Entry.isMessage =
      (texts.destutter (· ≠ ·)).map Log.Entry.ofMessage ∧
    (of stream events).run.stream.state.lastMessage = texts.getLast? ∧
    ∀ line other record second value,
      Record.ofLine options.validity line = .ok record →
      Record.ofLine options.validity other = .ok second →
      record.datum? options.message = some (.number value) →
      second.datum? options.message = some (.text (Number.text value)) →
      options.message? line = options.message? other := by
  intro stream texts
  obtain ⟨remembered, reported⟩ := messages_of options relayed fallback events
  refine ⟨?_, remembered, ?_⟩
  · rw [log, filter_isMessage, reported]
  · intro line other record second value read otherRead number text
    exact options.message?_of_number read otherRead number text

/-- The text comes as a number, is repeated as a text after a line that is no document and a frame
without it, and changes in the end. The send of the first line breaks it off, and the publication of
the third one fails. -/
theorem messages_of_five_lines :
    let events : List RunEvent :=
      [.line r#"{"_tvalide":1,"MSG1":{"data":12}}"# none none,
        .relaySettled 1 (.error (.value .null)), .resumed,
        .line "?" none none, .relaySettled 2 (.ok (.ok ())), .resumed,
        .line r#"{"_tvalide":1}"# none none, .relaySettled 3 (.ok (.ok ())),
        .publicationSettled 3 (.ok (.error (.notConnected "no client"))), .resumed,
        .line r#"{"_tvalide":1,"MSG1":{"data":"12"}}"# none none,
        .publicationSettled 4 (.ok (.ok ())), .relaySettled 4 (.ok (.ok ())), .resumed,
        .line r#"{"_tvalide":1,"MSG1":{"data":"13"}}"# none none]
    (StreamOptions.usual 0).messages (lines (.initial (.usual 0) true none) events) =
        (["12", "12", "13"] : List Text) ∧
      (of (.initial (.usual 0) true none) events).log.filter Log.Entry.isMessage =
        [.ofMessage "12", .ofMessage "13"] ∧
      (of (.initial (.usual 0) true none) events).run.stream.state.lastMessage =
        some ("13" : Text) := by
  intro events
  have told := messages_are_collapsed (.usual 0) true none events
  have texts : (StreamOptions.usual 0).messages (lines (.initial (.usual 0) true none) events) =
      (["12", "12", "13"] : List Text) := by
    decide +kernel
  have collapsed : List.destutter (· ≠ ·) (["12", "12", "13"] : List Text) =
      (["12", "13"] : List Text) := by
    decide +kernel
  simp only [texts, collapsed] at told
  exact ⟨texts, told.1, told.2.1⟩

end Transcript

end MeterSignals
