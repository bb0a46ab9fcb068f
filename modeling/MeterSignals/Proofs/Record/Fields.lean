/-
# What a frame says under a code

A field of a record is read through its data alone. Which data a frame has under a code is decided
by two members of one entry: its data, and its time stamp in so far as that must be a text where it
stands. The other members of the entry, the other entries and the order of both have no part in it,
as no key of a frame comes twice.
-/

import MeterSignals.Proofs.Json.Keys
import MeterSignals.Record.Decode

namespace MeterSignals

deriving instance DecidableEq for Datum

/-- The data that a member of an entry states. -/
def Datum.ofJson? : Option Json → Option Datum
  | some (.num x) => some (.number x)
  | some (.str t) => some (.text t)
  | _ => none

/-- A time stamp may be missing, but where it stands it is a text. -/
def isStamp : Option Json → Bool
  | none => true
  | some (.str _) => true
  | some _ => false

/-- The time stamp of a field, if the member of that name is a text or missing. -/
def stamp? : Option Json → Option (Option Text)
  | none => some none
  | some (.str t) => some (some t)
  | some _ => none

theorem isStamp_eq (member : Option Json) : isStamp member = (stamp? member).isSome := by
  cases member with
  | none => rfl
  | some stamp => cases stamp <;> rfl

/-- A field takes data and a time stamp that is not of the wrong kind. -/
theorem RecordField.ofJson?_eq (value : Json) :
    ofJson? value = (Datum.ofJson? (value.get? "data")).bind fun data =>
      (stamp? (value.get? "horodate")).map (RecordField.mk data) := by
  unfold ofJson?
  cases value.get? "data" with
  | none => rfl
  | some found =>
      cases found with
      | num x => cases value.get? "horodate" with
        | none => rfl
        | some stamp => cases stamp <;> rfl
      | str t => cases value.get? "horodate" with
        | none => rfl
        | some stamp => cases stamp <;> rfl
      | _ => rfl

theorem RecordField.data_ofJson? (entry : Json) :
    (ofJson? entry).map data =
      if isStamp (entry.get? "horodate") then Datum.ofJson? (entry.get? "data") else none := by
  rw [ofJson?_eq, isStamp_eq]
  cases Datum.ofJson? (entry.get? "data") with
  | none => exact (ite_self none).symm
  | some data => cases stamp? (entry.get? "horodate") <;> rfl

namespace Record

/-- The data of the field with a code. -/
def datum? (record : Record) (code : Text) : Option Datum :=
  (record.field? code).map RecordField.data

variable (record : Record) (code : Text)

theorem integer?_eq : record.integer? code = (record.datum? code).bind Datum.integer? := by
  rw [integer?, datum?, Option.bind_map]
  rfl

theorem text?_eq : record.text? code = (record.datum? code).map Datum.shown := by
  rw [text?, datum?, Option.map_map]
  rfl

theorem register?_eq : record.register? code = (record.datum? code).bind Datum.register? := by
  rw [register?, datum?, Option.bind_map]
  rfl

/-- A member of the entry that a frame has under a code. -/
def entryMember? (frame : Json.Members) (code key : Text) : Option Json :=
  (frame.lookup code).bind (·.get? key)

/-- The fields of a frame are looked up in the frame. -/
theorem lookup_fieldsOf {frame : Json.Members} (keyed : frame.IsKeyed) (validity code : Text) :
    (fieldsOf frame validity).lookup code =
      if code = validity ∨ code = reservedCode then none
      else (frame.lookup code).bind RecordField.ofJson? := by
  induction frame with
  | nil => exact (ite_self none).symm
  | cons head rest ih =>
      obtain ⟨key, entry⟩ := head
      obtain ⟨fresh, others⟩ := List.nodup_cons.mp keyed
      have later := ih others
      rw [fieldsOf] at later ⊢
      by_cases same : code = key
      · subst same
        -- Behind the entry itself there is no other one under its code.
        have last : rest.lookup code = none := List.lookup_eq_none_iff.mpr fun member found =>
          bne_iff_ne.mpr fun equal => fresh (List.mem_map.mpr ⟨member, found, equal.symm⟩)
        rw [last] at later
        by_cases apart : code = validity ∨ code = reservedCode
        · rw [if_pos apart] at later ⊢
          simpa [apart] using later
        · rw [if_neg apart] at later ⊢
          cases read : RecordField.ofJson? entry with
          | none => simpa [apart, read] using later
          | some field => simp [apart, read]
      · have other : (code == key) = false := beq_eq_false_iff_ne.mpr same
        rw [List.lookup_cons, other, ← later, List.filterMap_cons]
        split
        · rfl
        · next found given =>
            dsimp only at given
            split at given
            · cases given
            · obtain ⟨field, -, rfl⟩ := Option.map_eq_some_iff.mp given
              rw [List.lookup_cons, other]

/-- Which data a record has under a code. -/
theorem datum?_fieldsOf {frame : Json.Members} (keyed : frame.IsKeyed) (validity code : Text) :
    (Record.mk (fieldsOf frame validity)).datum? code =
      if code = validity ∨ code = reservedCode then none
      else if isStamp (entryMember? frame code "horodate") then
        Datum.ofJson? (entryMember? frame code "data")
      else none := by
  rw [datum?, field?, lookup_fieldsOf keyed]
  split
  · rfl
  · rw [entryMember?, entryMember?]
    cases frame.lookup code with
    | none => rfl
    | some entry => exact RecordField.data_ofJson? entry

/-- The entries that two frames have under a code differ, if at all, in the text of the time stamp
and in members that are not read. -/
def SameEntry (frame other : Json.Members) (code : Text) : Prop :=
  entryMember? frame code "data" = entryMember? other code "data" ∧
    isStamp (entryMember? frame code "horodate") = isStamp (entryMember? other code "horodate")

/-- Then the frames say the same under the code. -/
theorem SameEntry.datum? {frame other : Json.Members} {code : Text}
    (same : SameEntry frame other code) (keyed : frame.IsKeyed) (otherKeyed : other.IsKeyed)
    (validity : Text) :
    (Record.mk (fieldsOf frame validity)).datum? code =
      (Record.mk (fieldsOf other validity)).datum? code := by
  rw [datum?_fieldsOf keyed, datum?_fieldsOf otherKeyed, same.1, same.2]

end Record

end MeterSignals
