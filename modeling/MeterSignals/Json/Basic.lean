/-
# JSON values

A document is a tree of values. Numbers are doubles, the keys of an object are distinct,
and an object keeps its members in the order in which their keys first came.
-/

import MeterSignals.Number.Notation

namespace MeterSignals

/-- A JSON value. -/
inductive Json
  | null
  | bool (value : Bool)
  | num (value : Float)
  | str (value : Text)
  | arr (elements : List Json)
  | obj (members : List (Text × Json))
  deriving Inhabited

namespace Json

/-- The members of an object, by key. -/
abbrev Members := List (Text × Json)

namespace Members

/-- Give a key a value: in place if the key is there, else at the end. -/
def insert (key : Text) (value : Json) : Members → Members
  | [] => [(key, value)]
  | (k, v) :: rest => if k = key then (key, value) :: rest else (k, v) :: insert key value rest

/-- Members of which the later ones replace earlier ones of the same key. -/
def override (members later : Members) : Members :=
  later.foldl (fun all (key, value) => insert key value all) members

/-- A key has the value it was given last. -/
theorem lookup_insert_self (key : Text) (value : Json) (members : Members) :
    (insert key value members).lookup key = some value := by
  induction members with
  | nil => simp [insert]
  | cons head rest ih =>
    obtain ⟨k, v⟩ := head
    by_cases h : k = key
    · simp [insert, h]
    · have differ : (key == k) = false := by simpa using fun e : key = k => h e.symm
      simp [insert, h, List.lookup_cons, differ, ih]

/-- Giving one key a value leaves every other key alone. -/
theorem lookup_insert_of_ne {key k : Text} (h : k ≠ key) (value : Json) (members : Members) :
    (insert key value members).lookup k = members.lookup k := by
  have differ : (k == key) = false := by simpa using h
  induction members with
  | nil => simp [insert, List.lookup_cons, differ]
  | cons head rest ih =>
    obtain ⟨k', v⟩ := head
    by_cases hk : k' = key
    · subst hk
      simp [insert, List.lookup_cons, differ]
    · simp [insert, hk, List.lookup_cons, ih]

end Members

/-- The value of a key, if the value is an object that has it. -/
def get? (json : Json) (key : Text) : Option Json :=
  match json with
  | obj members => members.lookup key
  | _ => none

/-- The text, if the value is one. -/
def text? : Json → Option Text
  | str t => some t
  | _ => none

/-- The number, if the value is one. -/
def number? : Json → Option Float
  | num x => some x
  | _ => none

/-- The reading of a member that may be missing; `none` if it is there and does not read. -/
def optional? {α : Type} (json : Json) (key : Text) (read : Json → Option α) :
    Option (Option α) :=
  match json.get? key with
  | none => some none
  | some v => (read v).map some

/-- Whether a value counts as something. Null, false, zero, no number and the empty text
count as nothing. -/
def isSomething : Json → Bool
  | null => false
  | bool b => b
  | num x => !(x == 0 || x.isNaN)
  | str t => !t.isEmpty
  | _ => true

/-- An integer as a value. -/
def int (n : Int) : Json := num (Number.ofInteger n)

/-- A value that may be missing, written as null where it is. -/
def orNull : Option Json → Json
  | some v => v
  | none => null

mutual

/-- A value as running text: a text as it is, a list as its elements between commas,
where a null leaves nothing, and an object without its contents. -/
def shown : Json → Text
  | null => "null"
  | bool true => "true"
  | bool false => "false"
  | num x => Number.text x
  | str t => t
  | arr elements => Text.join "," (shownElements elements)
  | obj _ => "[object Object]"

/-- The elements of a list as running text. -/
def shownElements : List Json → List Text
  | [] => []
  | null :: rest => Text.empty :: shownElements rest
  | v :: rest => shown v :: shownElements rest

end

end Json

end MeterSignals
