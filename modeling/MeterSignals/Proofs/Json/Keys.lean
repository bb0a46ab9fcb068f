/-
# Keys of what is read

A key that comes again in an object is given its later value in its old place. So no key of an
object that has been read comes twice, and looking a key up finds the only value there is for it.
-/

import Mathlib.Data.List.Nodup
import MeterSignals.Json.Reader

namespace MeterSignals.Json

namespace Members

/-- No key comes twice. -/
def IsKeyed (members : Members) : Prop := (members.map Prod.fst).Nodup

theorem mem_keys_insert {k key : Text} {value : Json} {members : Members} :
    k ∈ (insert key value members).map Prod.fst ↔ k = key ∨ k ∈ members.map Prod.fst := by
  induction members with
  | nil => simp [insert]
  | cons head rest ih =>
      obtain ⟨first, v⟩ := head
      by_cases same : first = key
      · simp [insert, same]
      · simp only [insert, if_neg same, List.map_cons, List.mem_cons, ih]
        exact or_left_comm

/-- Giving a key a value brings no key in twice. -/
theorem IsKeyed.insert {members : Members} (keyed : members.IsKeyed) (key : Text) (value : Json) :
    (Members.insert key value members).IsKeyed := by
  induction members with
  | nil => exact List.nodup_singleton key
  | cons head rest ih =>
      obtain ⟨first, v⟩ := head
      obtain ⟨fresh, others⟩ := List.nodup_cons.mp keyed
      by_cases same : first = key
      · rw [Members.insert, if_pos same, ← same]
        exact keyed
      · rw [Members.insert, if_neg same]
        refine List.nodup_cons.mpr ⟨fun member => ?_, ih others⟩
        rcases mem_keys_insert.mp member with equal | before
        · exact same equal
        · exact fresh before

end Members

namespace Reader

/-- The members that are read come behind the ones that have been seen, each key once. -/
theorem isKeyed_members {fuel : Nat} {seen : Members} {input rest : List UInt16} {json : Json}
    (read : members fuel seen input = some (json, rest)) (keyed : seen.IsKeyed) :
    ∃ all : Members, json = obj all ∧ all.IsKeyed := by
  induction fuel generalizing seen input with
  | zero => cases read
  | succ fuel ih =>
      rw [members] at read
      split at read
      · split at read
        · cases read
        · next key more _ =>
            split at read
            · split at read
              · cases read
              · next value after _ =>
                  split at read
                  · exact ih read (keyed.insert key value)
                  · cases read
                    exact ⟨_, rfl, keyed.insert key value⟩
                  · cases read
            · cases read
      · cases read

theorem elements_eq_arr {fuel : Nat} {seen : List Json} {input rest : List UInt16} {json : Json}
    (read : elements fuel seen input = some (json, rest)) : ∃ all, json = arr all := by
  induction fuel generalizing seen input with
  | zero => cases read
  | succ fuel ih =>
      rw [elements] at read
      split at read
      · cases read
      · split at read
        · exact ih read
        · cases read
          exact ⟨_, rfl⟩
        · cases read

theorem scalar_ne_obj {input rest : List UInt16} {json : Json}
    (read : scalar input = some (json, rest)) (all : Members) : json ≠ obj all := by
  rintro rfl
  unfold scalar number at read
  split at read
  · cases read
  · cases read
  · cases read
  · split at read <;>
    · obtain ⟨found, -, same⟩ := Option.map_eq_some_iff.mp read
      cases same

/-- No key of an object that is read comes twice. -/
theorem isKeyed_value {fuel : Nat} {input rest : List UInt16} {all : Members}
    (read : value fuel input = some (obj all, rest)) : all.IsKeyed := by
  cases fuel with
  | zero => cases read
  | succ fuel =>
      rw [value] at read
      split at read
      · split at read
        · cases read
          exact List.nodup_nil
        · obtain ⟨found, same, keyed⟩ := isKeyed_members read List.nodup_nil
          cases same
          exact keyed
      · split at read
        · cases read
        · obtain ⟨found, same⟩ := elements_eq_arr read
          cases same
      · obtain ⟨found, -, same⟩ := Option.map_eq_some_iff.mp read
        cases same
      · exact absurd rfl (scalar_ne_obj read all)

end Reader

/-- No key of a document comes twice. -/
theorem isKeyed_of_read? {t : Text} {all : Members} (read : read? t = some (obj all)) :
    all.IsKeyed := by
  rw [read?] at read
  split at read
  · next json rest found =>
      split at read
      · cases read
        exact Reader.isKeyed_value found
      · cases read
  · cases read

end MeterSignals.Json
