/-
# Which lines are records

Whether a line is a record, and which fields this record has, follows from the document that the
line denotes: a line that denotes nothing is malformed, a document that is no object is no frame,
and a frame is rejected unless one member marks it as valid. Only members of the frame itself count,
so a code that the frame lacks is no field and marks nothing, whatever it is called; the one code
that a frame cannot use neither is a field nor marks a frame, even where the frame has it.
-/

import MeterSignals.Proofs.Json.Completeness
import MeterSignals.Proofs.Number.Scientific
import MeterSignals.Proofs.Record.Fields

namespace MeterSignals

/-- What a document holds as a number is one. -/
theorem Json.Grammar.isNaN_of_number {input rest : List UInt16} {x : Float}
    (value : Value input (.num x) rest) : x.isNaN = false := by
  cases value with
  | number decimal => exact (Number.approximates_nearest _ _).isNaN_eq_false
  | negative decimal => exact (Number.approximates_nearest _ _).neg.isNaN_eq_false

/-- The value of a member marks a frame as valid. -/
inductive Marks : Json → Prop
  | flag : Marks (.bool true)
  | number {x : Float} (nonzero : (x == 0) = false) : Marks (.num x)
  | text {t : Text} (some_ : t ≠ Text.empty) (nonzero : t ≠ "0") : Marks (.str t)

/-- The value of a member is the data of a field. -/
inductive IsDatum : Json → Datum → Prop
  | number {x : Float} : IsDatum (.num x) (.number x)
  | text {t : Text} : IsDatum (.str t) (.text t)

/-- The members of an entry describe a field: they have its data, and its time stamp unless it has
none. -/
structure Describes (entry : Json.Members) (field : RecordField) : Prop where
  data : ∃ value, entry.lookup ("data" : Text) = some value ∧ IsDatum value field.data
  stamp : entry.lookup ("horodate" : Text) = field.timestamp.map Json.str

/-- What is taken for a marker is one; a number that is read is never lost. -/
theorem isTruthyMarker_iff {marker : Json} (number : ∀ x, marker = .num x → x.isNaN = false) :
    isTruthyMarker (some marker) = true ↔ Marks marker := by
  constructor
  · intro truthy
    cases marker with
    | bool b =>
        cases b with
        | false => cases truthy
        | true => exact .flag
    | num x =>
        rw [isTruthyMarker, Bool.and_eq_true, bne, Bool.not_eq_true'] at truthy
        exact .number truthy.1
    | str t =>
        rw [isTruthyMarker, Bool.and_eq_true, bne_iff_ne, bne_iff_ne] at truthy
        exact .text truthy.1 truthy.2
    | _ => cases truthy
  · rintro (_ | nonzero | ⟨some_, nonzero⟩)
    · rfl
    · rw [isTruthyMarker, bne, nonzero, number _ rfl]
      rfl
    · rw [isTruthyMarker, Bool.and_eq_true, bne_iff_ne, bne_iff_ne]
      exact ⟨some_, nonzero⟩

theorem isDatum_iff {member : Option Json} {datum : Datum} :
    Datum.ofJson? member = some datum ↔ ∃ value, member = some value ∧ IsDatum value datum := by
  constructor
  · intro read
    cases member with
    | none => cases read
    | some value =>
        cases value with
        | num x =>
            cases read
            exact ⟨_, rfl, .number⟩
        | str t =>
            cases read
            exact ⟨_, rfl, .text⟩
        | _ => cases read
  · rintro ⟨value, rfl, _ | _⟩ <;> rfl

theorem stamp?_eq_some_iff {member : Option Json} {stamp : Option Text} :
    stamp? member = some stamp ↔ member = stamp.map Json.str := by
  constructor
  · intro read
    cases member with
    | none =>
        cases read
        rfl
    | some value =>
        cases value with
        | str t =>
            cases read
            rfl
        | _ => cases read
  · rintro rfl
    cases stamp <;> rfl

/-- A member of a frame is a field exactly if it describes one. -/
theorem RecordField.ofJson?_eq_some_iff {value : Json} {field : RecordField} :
    ofJson? value = some field ↔ ∃ entry, value = .obj entry ∧ Describes entry field := by
  rw [ofJson?_eq, Option.bind_eq_some_iff]
  constructor
  · rintro ⟨data, found, read⟩
    obtain ⟨stamp, stamped, rfl⟩ := Option.map_eq_some_iff.mp read
    cases value with
    | obj entry => exact ⟨entry, rfl, isDatum_iff.mp found, stamp?_eq_some_iff.mp stamped⟩
    | _ => cases found
  · rintro ⟨entry, rfl, data, stamp⟩
    have stamped : stamp? ((Json.obj entry).get? "horodate") = some field.timestamp :=
      stamp?_eq_some_iff.mpr stamp
    exact ⟨field.data, isDatum_iff.mpr data, by rw [stamped]; rfl⟩

namespace Record

open Json (Denotes read?_eq_some_iff)

variable {validity line : Text} {frame : Json.Members}

/-- The frame has a member under the code that marks it as valid. The reserved code has none. -/
def IsMarked (frame : Json.Members) (validity : Text) : Prop :=
  validity ≠ reservedCode ∧ ∃ marker, frame.lookup validity = some marker ∧ Marks marker

theorem isTruthyMarker_marker?_iff (document : Denotes line (.obj frame)) :
    isTruthyMarker (marker? frame validity) = true ↔ IsMarked frame validity := by
  rw [marker?, IsMarked]
  split
  · next reserved => exact iff_of_false nofun fun marked => marked.1 reserved
  · next own =>
      rw [and_iff_right own]
      cases found : frame.lookup validity with
      | none => exact iff_of_false nofun nofun
      | some marker =>
          have number (x : Float) (same : marker = .num x) : x.isNaN = false := by
            obtain ⟨a, b, value⟩ := document.exists_value (same ▸ found)
            exact Json.Grammar.isNaN_of_number value
          rw [isTruthyMarker_iff number]
          exact ⟨fun marks => ⟨marker, rfl, marks⟩, fun ⟨_, same, marks⟩ =>
            Option.some.inj same ▸ marks⟩

theorem ofLine_of_frame (document : Denotes line (.obj frame)) :
    ofLine validity line = ofFrame frame validity := by
  rw [ofLine, read?_eq_some_iff.mpr document]

theorem ofLine_of_marked (document : Denotes line (.obj frame)) (marked : IsMarked frame validity) :
    ofLine validity line = .ok ⟨fieldsOf frame validity⟩ := by
  rw [ofLine_of_frame document, ofFrame]
  exact if_pos ((isTruthyMarker_marker?_iff document).mpr marked)

theorem ofLine_of_unmarked (document : Denotes line (.obj frame))
    (unmarked : ¬ IsMarked frame validity) :
    ∃ message marker, ofLine validity line = .error (.invalidFrame message marker) := by
  rw [ofLine_of_frame document, ofFrame]
  exact ⟨_, _, if_neg (mt (isTruthyMarker_marker?_iff document).mp unmarked)⟩

theorem ofLine_of_other {document : Json} (denoted : Denotes line document)
    (other : ∀ frame, document ≠ .obj frame) :
    ∃ message, ofLine validity line = .error (.notAFrame message) := by
  rw [ofLine, read?_eq_some_iff.mpr denoted]
  cases document with
  | obj frame => exact absurd rfl (other frame)
  | _ => exact ⟨_, rfl⟩

theorem ofLine_of_nothing (nothing : ∀ document, ¬ Denotes line document) :
    ∃ message cause, ofLine validity line = .error (.malformedLine message cause) := by
  have unread : Json.read? line = none := Option.eq_none_iff_forall_ne_some.mpr fun document read =>
    nothing document (read?_eq_some_iff.mp read)
  rw [ofLine, unread]
  exact ⟨_, _, rfl⟩

/-- The fields of a record are the entries of the frame that describe one. -/
theorem field?_eq_some_iff (document : Denotes line (.obj frame)) {code : Text}
    {field : RecordField} :
    (Record.mk (fieldsOf frame validity)).field? code = some field ↔
      code ≠ validity ∧ code ≠ reservedCode ∧
        ∃ entry, frame.lookup code = some (.obj entry) ∧ Describes entry field := by
  have keyed := Json.isKeyed_of_read? (read?_eq_some_iff.mpr document)
  rw [field?, lookup_fieldsOf keyed, ← and_assoc, ← not_or]
  split
  · next reserved => exact iff_of_false (Option.some_ne_none _).symm fun found => found.1 reserved
  · next own =>
      rw [and_iff_right own, Option.bind_eq_some_iff]
      constructor
      · rintro ⟨value, found, read⟩
        obtain ⟨entry, rfl, describes⟩ := RecordField.ofJson?_eq_some_iff.mp read
        exact ⟨entry, found, describes⟩
      · rintro ⟨entry, found, describes⟩
        exact ⟨_, found, RecordField.ofJson?_eq_some_iff.mpr ⟨entry, rfl, describes⟩⟩

/-- The four outcomes, each with what the line denotes. -/
theorem ofLine_cases (validity line : Text) :
    (∀ document, ¬ Denotes line document) ∧
        (∃ message cause, ofLine validity line = .error (.malformedLine message cause)) ∨
      (∃ document, Denotes line document ∧ (∀ frame, document ≠ .obj frame) ∧
        ∃ message, ofLine validity line = .error (.notAFrame message)) ∨
      (∃ frame, Denotes line (.obj frame) ∧ ¬ IsMarked frame validity ∧
        ∃ message marker, ofLine validity line = .error (.invalidFrame message marker)) ∨
      ∃ frame, Denotes line (.obj frame) ∧ IsMarked frame validity ∧
        ofLine validity line = .ok ⟨fieldsOf frame validity⟩ := by
  by_cases denoted : ∃ document, Denotes line document
  · obtain ⟨document, denoted⟩ := denoted
    by_cases object : ∃ frame, document = .obj frame
    · obtain ⟨frame, rfl⟩ := object
      by_cases marked : IsMarked frame validity
      · exact .inr (.inr (.inr ⟨frame, denoted, marked, ofLine_of_marked denoted marked⟩))
      · exact .inr (.inr (.inl ⟨frame, denoted, marked, ofLine_of_unmarked denoted marked⟩))
    · have other := not_exists.mp object
      exact .inr (.inl ⟨document, denoted, other, ofLine_of_other denoted other⟩)
  · have nothing := not_exists.mp denoted
    exact .inl ⟨nothing, ofLine_of_nothing nothing⟩

theorem malformedLine_iff :
    (∃ message cause, ofLine validity line = .error (.malformedLine message cause)) ↔
      ∀ document, ¬ Denotes line document := by
  refine ⟨?_, ofLine_of_nothing⟩
  rintro ⟨message, cause, malformed⟩
  obtain ⟨nothing, -⟩ | ⟨_, _, _, _, other⟩ | ⟨_, _, _, _, _, invalid⟩ | ⟨_, _, _, decoded⟩ :=
    ofLine_cases validity line
  · exact nothing
  · cases malformed.symm.trans other
  · cases malformed.symm.trans invalid
  · cases malformed.symm.trans decoded

theorem notAFrame_iff :
    (∃ message, ofLine validity line = .error (.notAFrame message)) ↔
      ∃ document, Denotes line document ∧ ∀ frame, document ≠ .obj frame := by
  constructor
  · rintro ⟨message, other⟩
    obtain ⟨_, _, _, malformed⟩ | ⟨document, denoted, noFrame, -⟩ | ⟨_, _, _, _, _, invalid⟩ |
      ⟨_, _, _, decoded⟩ := ofLine_cases validity line
    · cases other.symm.trans malformed
    · exact ⟨document, denoted, noFrame⟩
    · cases other.symm.trans invalid
    · cases other.symm.trans decoded
  · rintro ⟨document, denoted, noFrame⟩
    exact ofLine_of_other denoted noFrame

theorem invalidFrame_iff :
    (∃ message marker, ofLine validity line = .error (.invalidFrame message marker)) ↔
      ∃ frame, Denotes line (.obj frame) ∧ ¬ IsMarked frame validity := by
  constructor
  · rintro ⟨message, marker, invalid⟩
    obtain ⟨_, _, _, malformed⟩ | ⟨_, _, _, _, other⟩ | ⟨frame, document, unmarked, -⟩ |
      ⟨_, _, _, decoded⟩ := ofLine_cases validity line
    · cases invalid.symm.trans malformed
    · cases invalid.symm.trans other
    · exact ⟨frame, document, unmarked⟩
    · cases invalid.symm.trans decoded
  · rintro ⟨frame, document, unmarked⟩
    exact ofLine_of_unmarked document unmarked

/-- A record has no field under a code that the frame lacks. -/
theorem field?_of_missing (document : Denotes line (.obj frame)) {code : Text}
    (missing : frame.lookup code = none) {record : Record}
    (decoded : ofLine validity line = .ok record) : record.field? code = none := by
  have marked : IsMarked frame validity := by
    by_contra unmarked
    obtain ⟨_, _, invalid⟩ := ofLine_of_unmarked document unmarked
    cases invalid.symm.trans decoded
  have same := Except.ok.inj ((ofLine_of_marked document marked).symm.trans decoded)
  rw [← same]
  refine Option.eq_none_iff_forall_ne_some.mpr fun field found => ?_
  obtain ⟨-, -, entry, entered, -⟩ := (field?_eq_some_iff document).mp found
  cases missing.symm.trans entered

/-- A line is malformed exactly if it denotes nothing, no frame exactly if it denotes something that
is no object, and an invalid frame exactly if it denotes an object that is not marked as valid. Else
it is a record, and this has a field under a code exactly if the code is neither that of the marker
nor the reserved one and the object has an entry under the code that describes the field. No code
that the object lacks marks it or is a field. -/
theorem decoding_follows_document (validity line : Text) :
    ((∃ message cause, ofLine validity line = .error (.malformedLine message cause)) ↔
      ∀ document, ¬ Denotes line document) ∧
    ((∃ message, ofLine validity line = .error (.notAFrame message)) ↔
      ∃ document, Denotes line document ∧ ∀ frame, document ≠ .obj frame) ∧
    ((∃ message marker, ofLine validity line = .error (.invalidFrame message marker)) ↔
      ∃ frame, Denotes line (.obj frame) ∧ ¬ IsMarked frame validity) ∧
    (∀ frame, Denotes line (.obj frame) → IsMarked frame validity →
      ∃ record, ofLine validity line = .ok record ∧ ∀ code field,
        record.field? code = some field ↔ code ≠ validity ∧ code ≠ reservedCode ∧
          ∃ entry, frame.lookup code = some (.obj entry) ∧ Describes entry field) ∧
    ∀ frame, Denotes line (.obj frame) → ∀ code ∉ frame.map Prod.fst,
      ¬ IsMarked frame code ∧
        ∀ record, ofLine validity line = .ok record → record.field? code = none := by
  refine ⟨malformedLine_iff, notAFrame_iff, invalidFrame_iff, fun frame document marked => ?_,
    fun frame document code missing => ?_⟩
  · exact ⟨_, ofLine_of_marked document marked, fun code field => field?_eq_some_iff document⟩
  · have absent : frame.lookup code = none := List.lookup_eq_none_iff.mpr fun member found =>
      bne_iff_ne.mpr fun same => missing (List.mem_map.mpr ⟨member, found, same.symm⟩)
    refine ⟨?_, fun record decoded => field?_of_missing document absent decoded⟩
    rintro ⟨-, marker, found, -⟩
    cases absent.symm.trans found

/-- A frame with one field. Its last entry is none, and it lacks the other name. -/
theorem decoding_of_one_field :
    let line : Text := ("\x7b\"_tvalide\":\"1\",\"SINSTS\":\x7b\"data\":\"0450\"\x7d," : Text) ++
      "\"toString\":\x7b\x7d\x7d"
    ∃ record, ofLine "_tvalide" line = .ok record ∧
      record.field? "SINSTS" = some ⟨.text "0450", none⟩ ∧
        record.field? "toString" = none ∧ record.field? "constructor" = none := by
  intro line
  let frame : Json.Members := [("_tvalide", .str "1"), ("SINSTS", .obj [("data", .str "0450")]),
    ("toString", .obj [])]
  have document : Denotes line (.obj frame) := read?_eq_some_iff.mp (by cbv)
  have marked : IsMarked frame "_tvalide" :=
    ⟨by decide, .str "1", rfl, .text (by decide) (by decide)⟩
  obtain ⟨-, -, -, decoding, missing⟩ := decoding_follows_document "_tvalide" line
  obtain ⟨record, decoded, fields⟩ := decoding frame document marked
  refine ⟨record, decoded, (fields _ _).mpr ⟨by decide, by decide, _, rfl, ?_⟩, ?_, ?_⟩
  · exact ⟨⟨_, rfl, .text⟩, rfl⟩
  · refine Option.eq_none_iff_forall_ne_some.mpr fun field found => ?_
    obtain ⟨-, -, entry, entered, ⟨_, data, -⟩, -⟩ := (fields _ _).mp found
    cases entered
    cases data
  · exact (missing frame document "constructor" (by decide)).2 record decoded

/-- The reserved code marks no frame, also where the frame has it with the value true. -/
theorem not_marked_by_reserved :
    let line : Text := "\x7b\"__proto__\":true\x7d"
    (∃ message marker, ofLine "__proto__" line = .error (.invalidFrame message marker)) ∧
      ¬ ∃ frame, Denotes line (.obj frame) ∧
        ∀ marker ∈ frame.lookup ("__proto__" : Text), ¬ Marks marker := by
  intro line
  have document : Denotes line (.obj [("__proto__", .bool true)]) :=
    read?_eq_some_iff.mp (by cbv)
  refine ⟨ofLine_of_unmarked document fun marked => marked.1 rfl, ?_⟩
  rintro ⟨frame, document', unmarked⟩
  cases document.unique document'
  exact unmarked (.bool true) rfl .flag

end Record

end MeterSignals
