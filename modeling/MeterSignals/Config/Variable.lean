/-
# Reading variables

A variable of the environment is read by a rule. What is wrong with it is said in one or
more sentences, in the order in which the rule looks at it. All variables are read, so
that everything that is wrong is reported at once.
-/

import MeterSignals.Json.Basic
import MeterSignals.Number.Numeral
import MeterSignals.Url.Basic

namespace MeterSignals

/-- The variables that are set. -/
abbrev Environment := List (Text × Text)

/-- What is wrong with one variable. -/
structure Complaint where
  name : Text
  messages : List Text
  deriving DecidableEq

/-- A value that was read, or everything that is wrong with what it was to be read from. -/
inductive Validated (α : Type)
  | ok (value : α)
  | invalid (complaints : List Complaint)

namespace Validated

/-- Both values, or all complaints. -/
def apply {α β : Type} : Validated (α → β) → Validated α → Validated β
  | ok f, ok a => ok (f a)
  | ok _, invalid complaints => invalid complaints
  | invalid complaints, ok _ => invalid complaints
  | invalid first, invalid second => invalid (first ++ second)

instance : Applicative Validated where
  pure := ok
  seq f a := apply f (a ())

end Validated

/-- How the value of a variable, which may not be set, is read. -/
abbrev Rule (α : Type) := Option Text → Except (List Text) α

namespace Rule

/-- A text as it is. -/
def text (default : Text) : Rule Text := fun value => .ok (value.getD default)

/-- A text that is not empty; `message` is the complaint about an empty one. -/
def filled (message : Text) (value : Text) : Except (List Text) Text :=
  if value.isEmpty then .error [message] else .ok value

/-- A text that has to be set and not to be empty. -/
def required (message : Text) : Rule Text
  | none => .error ["Required"]
  | some value => filled message value

/-- A text that may be left out but not be empty. -/
def filledText (default : Text) : Rule Text := fun value =>
  filled "String must contain at least 1 character(s)" (value.getD default)

/-- A text that counts as left out if it holds nothing but blanks. -/
def optionalText : Rule (Option Text) := fun value =>
  .ok (value.filter fun t => !t.trim.isEmpty)

/-- A switch. It is on if it says so in letters of any case, and off otherwise. -/
def switch (default : Bool) : Rule Bool
  | none => .ok default
  | some value => .ok (value.asciiLower = "true")

/-- One of several names. -/
def oneOf {α : Type} (all : List α) (label : α → Text) (default : α) : Rule α
  | none => .ok default
  | some value =>
    match all.find? fun a => label a = value with
    | some a => .ok a
    | none =>
      let quoted (t : Text) : Text := "'" ++ t ++ "'"
      .error ["Invalid enum value. Expected " ++ Text.join " | " (all.map fun a => quoted (label a))
        ++ ", received " ++ quoted value]

/-- A condition on a number, with the complaint about a number that does not meet it. -/
structure Condition where
  holds : Float → Bool
  message : Text

/-- The number is whole. -/
def whole : Condition :=
  ⟨fun x => (Number.integer? x).isSome, "Expected integer, received float"⟩

/-- The number is not below a bound. -/
def atLeast (bound : Nat) : Condition :=
  ⟨fun x => Float.ofNat bound ≤ x,
    "Number must be greater than or equal to " ++ Text.ofNat bound⟩

/-- The number is not above a bound. -/
def atMost (bound : Nat) : Condition :=
  ⟨fun x => x ≤ Float.ofNat bound, "Number must be less than or equal to " ++ Text.ofNat bound⟩

/-- The number is above zero. -/
def positive : Condition := ⟨fun x => 0 < x, "Number must be greater than 0"⟩

/-- A number that meets conditions. -/
def number (conditions : List Condition) (default : Float) : Rule Float
  | none => .ok default
  | some value =>
    let x := Number.Numeral.value value
    if x.isNaN then .error ["Expected number, received nan"]
    else
      match (conditions.filter fun c => !c.holds x).map (·.message) with
      | [] => .ok x
      | messages => .error messages

/-- An absolute address. -/
def url (default : Text) : Rule Text
  | none => .ok default
  | some value => if Url.isAbsolute value then .ok value else .error ["Invalid url"]

/-- The hour and the minute of a time of day. -/
def timeOfDay? (t : Text) : Option (Nat × Nat) :=
  match t.units with
  | [a, b, Ascii.colon, c, d] => do
    let hour := 10 * (← Text.digit? a) + (← Text.digit? b)
    let minute := 10 * (← Text.digit? c) + (← Text.digit? d)
    if hour < 24 && minute < 60 then some (hour, minute) else none
  | _ => none

/-- A time of day with two digits for the hour and two for the minute. -/
def timeOfDay (default : Nat × Nat) : Rule (Nat × Nat)
  | none => .ok default
  | some value =>
    match timeOfDay? value with
    | some time => .ok time
    | none => .error ["Expected HH:MM"]

/-- Read a variable by a rule. -/
def read {α : Type} (rule : Rule α) (environment : Environment) (name : Text) :
    Validated α :=
  match rule (environment.lookup name) with
  | .ok value => .ok value
  | .error messages => .invalid [⟨name, messages⟩]

end Rule

end MeterSignals
