/-
# What is read from the environment

A configuration is there only if every variable could be read by its rule, and its settings are
what the rules gave. What a rule gives meets the conditions of the rule: it was checked if it came
from the environment, and the defaults meet them as well.
-/

import MeterSignals.Config.Basic
import MeterSignals.Proofs.Number.Scientific

namespace MeterSignals

namespace Validated

variable {α β : Type}

/-- A value that was read has a property. -/
def Holds (P : α → Prop) (v : Validated α) : Prop := ∀ a, v = .ok a → P a

/-- Without a value there are complaints. -/
def IsExplained (v : Validated α) : Prop := v ≠ .invalid []

theorem Holds.seq {P : β → Prop} {f : Validated (α → β)} {x : Validated α}
    (holds : f.Holds fun g => ∀ a, x = .ok a → P (g a)) : (f <*> x).Holds P := by
  intro b read
  change apply f x = .ok b at read
  cases f with
  | invalid complaints => cases x <;> cases read
  | ok g =>
      cases x with
      | invalid complaints => cases read
      | ok a =>
          cases read
          exact holds g rfl a rfl

theorem Holds.pure {P : α → Prop} {a : α} (holds : P a) : (Pure.pure a : Validated α).Holds P := by
  rintro _ ⟨⟩
  exact holds

theorem IsExplained.seq {f : Validated (α → β)} {x : Validated α} (explained : f.IsExplained)
    (explained' : x.IsExplained) : (f <*> x).IsExplained := by
  change apply f x ≠ .invalid []
  cases f with
  | ok g =>
      cases x with
      | ok a => exact nofun
      | invalid complaints => exact fun none => explained' (congrArg invalid (invalid.inj none))
  | invalid complaints =>
      cases x with
      | ok a => exact fun none => explained (congrArg invalid (invalid.inj none))
      | invalid complaints' =>
          intro none
          have both := List.append_eq_nil_iff.mp (invalid.inj none)
          exact explained (congrArg invalid both.1)

theorem IsExplained.pure {a : α} : (Pure.pure a : Validated α).IsExplained := nofun

end Validated

/-- A variable holds something besides blanks. -/
def Environment.IsFilled (environment : Environment) (name : Text) : Prop :=
  ∃ text, environment.lookup name = some text ∧ ∃ u ∈ text.units, Text.isBlank u = false

/-- A variable says an infinity, in a word or with too many digits for a double. -/
def Environment.IsInfinite (environment : Environment) (name : Text) : Prop :=
  ∃ text, environment.lookup name = some text ∧ (Number.Numeral.value text).isInf = true

/-- An exponent can be too large for a double. -/
example : Environment.IsInfinite [("TEMPO_TIMEOUT_MS", " 1e400 ")] "TEMPO_TIMEOUT_MS" :=
  ⟨" 1e400 ", rfl, by decide +kernel⟩

/-- A text is trimmed to nothing exactly if it holds nothing but blanks. -/
theorem Text.isEmpty_trim {t : Text} : t.trim.isEmpty = true ↔ ∀ u ∈ t.units, isBlank u = true := by
  rw [isEmpty, trim, List.isEmpty_reverse, List.isEmpty_iff, List.dropWhile_eq_nil_iff]
  simp only [List.mem_reverse]
  constructor
  · intro rest u member
    rw [← t.units.takeWhile_append_dropWhile (p := isBlank), List.mem_append] at member
    exact member.elim List.mem_takeWhile_imp (rest u)
  · exact fun blank u member => blank u ((List.dropWhile_sublist _).subset member)

namespace Rule

open Number (integer? integer?_ofNat integer?_eq_some_iff)

variable {environment : Environment} {name : Text}

section Read

variable {α : Type} {rule : Rule α} {a : α}

theorem read_eq_ok :
    rule.read environment name = .ok a ↔ rule (environment.lookup name) = .ok a := by
  rw [read]
  cases rule (environment.lookup name) with
  | ok value => rw [Validated.ok.injEq, Except.ok.injEq]
  | error messages => exact iff_of_false nofun nofun

theorem isExplained_read : (rule.read environment name).IsExplained := by
  rw [read]
  cases rule (environment.lookup name) <;> exact nofun

end Read

section Number

variable {conditions : List Condition} {default x : Float}

/-- A number is the default, or what the text of the variable says; then it was checked. -/
theorem number_eq_ok (read : (number conditions default).read environment name = .ok x) :
    (environment.lookup name = none ∧ x = default) ∨
      ∃ text, environment.lookup name = some text ∧ x = Number.Numeral.value text ∧
        x.isNaN = false ∧ ∀ condition ∈ conditions, condition.holds x = true := by
  rw [read_eq_ok] at read
  cases given : environment.lookup name with
  | none =>
      rw [given] at read
      exact .inl ⟨rfl, (Except.ok.inj read).symm⟩
  | some text =>
      rw [given, number] at read
      split at read
      · cases read
      · next number =>
          split at read
          · next unmet =>
              obtain rfl := Except.ok.inj read
              refine .inr ⟨text, rfl, rfl, Bool.not_eq_true _ ▸ number, fun condition member => ?_⟩
              have none := List.filter_eq_nil_iff.mp (List.map_eq_nil_iff.mp unmet) condition member
              simpa using none
          · cases read

/-- A number meets the conditions if the default does. -/
theorem holds_of_number (usual : ∀ condition ∈ conditions, condition.holds default = true)
    (read : (number conditions default).read environment name = .ok x) :
    ∀ condition ∈ conditions, condition.holds x = true := by
  rcases number_eq_ok read with ⟨-, rfl⟩ | ⟨text, -, -, -, checked⟩
  · exact usual
  · exact checked

/-- A number that has to be above zero is above zero, in the order of the doubles. -/
theorem lt_of_number (usual : positive.holds default = true)
    (read : (number [positive] default).read environment name = .ok x) : 0 < x :=
  of_decide_eq_true
    (holds_of_number (List.forall_mem_singleton.mpr usual) read _ List.mem_cons_self)

/-- A number is finite unless its text says an infinity. -/
theorem isFinite_of_number (usual : default.isFinite = true)
    (read : (number conditions default).read environment name = .ok x) :
    x.isFinite = true ↔ ¬ environment.IsInfinite name := by
  rcases number_eq_ok read with ⟨unset, rfl⟩ | ⟨text, set, rfl, number, -⟩
  · exact iff_of_true usual fun ⟨_, given, _⟩ => nomatch unset.symm.trans given
  · rw [Number.isFinite_iff_of_number number, not_iff_not]
    exact ⟨fun infinite => ⟨text, set, infinite⟩,
      fun ⟨_, given, infinite⟩ => Option.some.inj (set.symm.trans given) ▸ infinite⟩

theorem holds_whole : whole.holds x = true ↔ ∃ n, integer? x = some n := Option.isSome_iff_exists

/-- A number that has to be whole is an integer. -/
theorem exists_integer_of_number
    (usual : ∀ condition ∈ whole :: conditions, condition.holds default = true)
    (read : (number (whole :: conditions) default).read environment name = .ok x) :
    ∃ n, integer? x = some n ∧ ∀ condition ∈ conditions, condition.holds x = true := by
  obtain ⟨isWhole, rest⟩ := List.forall_mem_cons.mp (holds_of_number usual read)
  exact (holds_whole.mp isWhole).imp fun n same => ⟨same, rest⟩

variable {n : Int} (isWhole : integer? x = some n)

include isWhole

theorem holds_atLeast {bound : Nat} (small : bound ≤ 2 ^ 53) :
    (atLeast bound).holds x = true ↔ bound ≤ n := by
  obtain ⟨finite, value⟩ := integer?_eq_some_iff.mp isWhole
  obtain ⟨finite', value'⟩ := integer?_eq_some_iff.mp (integer?_ofNat small)
  change decide (Float.ofNat bound ≤ x) = true ↔ _
  rw [decide_eq_true_eq, Number.le_iff finite' finite, value, value']
  exact_mod_cast Iff.rfl

theorem holds_atMost {bound : Nat} (small : bound ≤ 2 ^ 53) :
    (atMost bound).holds x = true ↔ n ≤ bound := by
  obtain ⟨finite, value⟩ := integer?_eq_some_iff.mp isWhole
  obtain ⟨finite', value'⟩ := integer?_eq_some_iff.mp (integer?_ofNat small)
  change decide (x ≤ Float.ofNat bound) = true ↔ _
  rw [decide_eq_true_eq, Number.le_iff finite finite', value, value']
  exact_mod_cast Iff.rfl

theorem holds_positive : positive.holds x = true ↔ 0 < n := by
  obtain ⟨finite, value⟩ := integer?_eq_some_iff.mp isWhole
  change decide ((0 : Float) < x) = true ↔ _
  rw [decide_eq_true_eq, Number.lt_iff rfl finite, value]
  change (0 : ℚ) < n ↔ _
  exact_mod_cast Iff.rfl

omit isWhole

/-- A number that has to be whole and not below zero is a natural number. -/
theorem exists_natural_of_number
    (usual : ∀ condition ∈ [whole, atLeast 0], condition.holds default = true)
    (read : (number [whole, atLeast 0] default).read environment name = .ok x) :
    ∃ n : Nat, integer? x = some n := by
  obtain ⟨n, isWhole, rest⟩ := exists_integer_of_number usual read
  have least : 0 ≤ n := (holds_atLeast isWhole (Nat.zero_le _)).mp (rest _ List.mem_cons_self)
  lift n to Nat using least
  exact ⟨n, isWhole⟩

end Number

/-- A time of day is on the clock. -/
theorem timeOfDay?_bounds {text : Text} {hour minute : Nat}
    (time : timeOfDay? text = some (hour, minute)) : hour < 24 ∧ minute < 60 := by
  rw [timeOfDay?] at time
  split at time
  · simp only [bind, Option.bind_eq_some_iff] at time
    obtain ⟨a, -, b, -, c, -, d, -, time⟩ := time
    split at time
    · next bounds =>
        cases time
        simpa only [Bool.and_eq_true, decide_eq_true_eq] using bounds
    · cases time
  · cases time

theorem timeOfDay_bounds {default time : Nat × Nat} (usual : default.1 < 24 ∧ default.2 < 60)
    (read : (timeOfDay default).read environment name = .ok time) :
    time.1 < 24 ∧ time.2 < 60 := by
  rw [read_eq_ok] at read
  cases given : environment.lookup name with
  | none =>
      rw [given] at read
      exact Except.ok.inj read ▸ usual
  | some text =>
      rw [given, timeOfDay] at read
      split at read
      · next found =>
          obtain rfl := Except.ok.inj read
          exact timeOfDay?_bounds found
      · cases read

/-- A text that may be left out is there if it holds something besides blanks. -/
theorem isSome_of_optionalText {t : Option Text}
    (read : optionalText.read environment name = .ok t) :
    t.isSome = true ↔ environment.IsFilled name := by
  rw [read_eq_ok] at read
  obtain rfl := Except.ok.inj read
  cases given : environment.lookup name with
  | none => exact iff_of_false nofun fun ⟨_, set, _⟩ => nomatch given.symm.trans set
  | some text =>
      have kept : (Option.filter (fun t => !t.trim.isEmpty) (some text)).isSome =
          !text.trim.isEmpty := by
        rw [Option.filter_some]
        cases text.trim.isEmpty <;> rfl
      have filled : environment.IsFilled name ↔ ∃ u ∈ text.units, Text.isBlank u = false :=
        ⟨fun ⟨_, set, found⟩ => Option.some.inj (given.symm.trans set) ▸ found,
          fun found => ⟨text, given, found⟩⟩
      rw [kept, filled, Bool.not_eq_true', ← Bool.not_eq_true, Text.isEmpty_trim]
      simp only [not_forall, Bool.not_eq_true, exists_prop]

end Rule

end MeterSignals
