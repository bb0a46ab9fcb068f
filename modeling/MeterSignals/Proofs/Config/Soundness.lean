/-
# What the settings may be

A configuration is refused as a whole, or its settings are in the ranges that the parts of the
program count on, with one exception. An infinity is not below any bound and no condition but that
of being whole keeps it out. So the threshold, the time constant and the timeout, which need not
be whole, can be infinite, and they are exactly if their variables say so.
-/

import MeterSignals.Config.Document
import MeterSignals.Config.Settings
import MeterSignals.Proofs.Config.Reading

namespace MeterSignals.Config

open Number (integer?)
open Rule

/-- The settings with a range of their own, and the credentials, are what their rules gave. -/
structure IsReadFrom (c : Config) (env : Environment) : Prop where
  relayPort : (number [whole, atLeast 1, atMost 65535] 8094).read env "UDP_RELAY_PORT" =
    .ok c.relayPort
  skip : (number [whole, atLeast 0] 8).read env "MQTT_SKIP" = .ok c.skip
  threshold : (number [positive] 9000).read env "VA_THRESHOLD" = .ok c.threshold
  timeConstant : (number [atLeast 1] 60).read env "FILTER_TIME_CONSTANT" = .ok c.timeConstant
  redPeak : (number [whole, atLeast 0] 6).read env "RED_PEAK_TARIFF_INDEX" = .ok c.redPeak
  clientId : optionalText.read env "TEMPO_CLIENT_ID" = .ok c.calendarClientId
  clientSecret : optionalText.read env "TEMPO_CLIENT_SECRET" = .ok c.calendarClientSecret
  fetchStart : (timeOfDay (10, 40)).read env "TEMPO_FETCH_START" = .ok c.fetchStart
  fetchMinutes : (number [whole, positive] 10).read env "TEMPO_FETCH_WINDOW_MINUTES" =
    .ok c.fetchMinutes
  calendarTimeout : (number [positive] 5000).read env "TEMPO_TIMEOUT_MS" = .ok c.calendarTimeout

/-- The settings are in range, but those that need not be whole may be infinite. -/
structure IsInRange (c : Config) (env : Environment) : Prop where
  threshold : 0 < c.streamOptions.filter.threshold
  timeConstant : 1 ≤ c.streamOptions.filter.timeConstant
  skip : ∃ n : Nat, integer? c.skip = some n
  redPeak : ∀ index ∈ c.redPeakIndex, ∃ n : Nat, 0 < n ∧ integer? index = some n
  relayPort : ∀ target ∈ c.relayTarget, ∃ n : Nat, 1 ≤ n ∧ n ≤ 65535 ∧
    integer? target.port = some n
  hour : 0 ≤ c.fetchWindow.hour ∧ c.fetchWindow.hour < 24
  minute : 0 ≤ c.fetchWindow.minute ∧ c.fetchWindow.minute < 60
  duration : 0 < c.fetchWindow.duration ∧ integer? c.fetchMinutes = some c.fetchWindow.duration
  timeout : ∀ service ∈ c.calendar, 0 < service.1.timeout
  calendar : c.calendar.isSome = true ↔
    env.IsFilled "TEMPO_CLIENT_ID" ∧ env.IsFilled "TEMPO_CLIENT_SECRET"

/-- The settings are in range, and all of them are finite. -/
structure IsSound (c : Config) (env : Environment) : Prop extends IsInRange c env where
  threshold_isFinite : c.streamOptions.filter.threshold.isFinite = true
  timeConstant_isFinite : c.streamOptions.filter.timeConstant.isFinite = true
  timeout_isFinite : ∀ service ∈ c.calendar, service.1.timeout.isFinite = true

variable {env : Environment} {c : Config}

theorem ofEnvironment_isReadFrom (env : Environment) :
    (ofEnvironment env).Holds (IsReadFrom · env) := by
  rw [ofEnvironment]
  repeat refine Validated.Holds.seq ?_
  refine Validated.Holds.pure ?_
  intros
  constructor <;> with_reducible assumption

theorem isExplained_ofEnvironment (env : Environment) : (ofEnvironment env).IsExplained := by
  rw [ofEnvironment]
  repeat refine Validated.IsExplained.seq ?_ isExplained_read
  exact Validated.IsExplained.pure

/-- All requests have the same timeout. -/
theorem timeout_of_calendar {service : CalendarService × FetchWindow}
    (credentials : service ∈ c.calendar) : service.1.timeout = c.calendarTimeout := by
  rw [calendar] at credentials
  cases client : c.calendarClientId with
  | none =>
      rw [client] at credentials
      cases credentials
  | some id =>
      cases secret : c.calendarClientSecret with
      | none =>
          rw [client, secret] at credentials
          cases credentials
      | some secret' =>
          rw [client, secret] at credentials
          obtain rfl := Option.some.inj credentials
          rfl

namespace IsReadFrom

variable (read : c.IsReadFrom env)

include read

theorem exists_redPeakIndex {index : Float} (asked : index ∈ c.redPeakIndex) :
    ∃ n : Nat, 0 < n ∧ integer? index = some n := by
  obtain ⟨n, isWhole⟩ := exists_natural_of_number (by decide +kernel) read.redPeak
  rw [redPeakIndex] at asked
  split at asked
  · cases asked
  · next other =>
      obtain rfl := Option.some.inj asked
      obtain ⟨finite, value⟩ := Number.integer?_eq_some_iff.mp isWhole
      refine ⟨n, Nat.pos_of_ne_zero ?_, isWhole⟩
      rintro rfl
      exact other ((Number.beq_iff finite rfl).mpr value)

theorem exists_relayPort {target : RelayTarget} (relays : target ∈ c.relayTarget) :
    ∃ n : Nat, 1 ≤ n ∧ n ≤ 65535 ∧ integer? target.port = some n := by
  obtain ⟨n, isWhole, rest⟩ := exists_integer_of_number (by decide +kernel) read.relayPort
  obtain ⟨least, most⟩ := List.forall_mem_cons.mp rest
  have low : 1 ≤ n := (holds_atLeast isWhole (by decide)).mp least
  have high : n ≤ 65535 := (holds_atMost isWhole (by decide)).mp (most _ List.mem_cons_self)
  lift n to Nat using by omega
  rw [relayTarget] at relays
  split at relays
  · obtain rfl := Option.some.inj relays
    exact ⟨n, by omega, by omega, isWhole⟩
  · cases relays

theorem fetchWindow_duration :
    0 < c.fetchWindow.duration ∧ integer? c.fetchMinutes = some c.fetchWindow.duration := by
  obtain ⟨n, isWhole, rest⟩ := exists_integer_of_number (by decide +kernel) read.fetchMinutes
  rw [fetchWindow, isWhole]
  exact ⟨(holds_positive isWhole).mp (rest _ List.mem_cons_self), rfl⟩

theorem isSome_calendar :
    c.calendar.isSome = true ↔
      env.IsFilled "TEMPO_CLIENT_ID" ∧ env.IsFilled "TEMPO_CLIENT_SECRET" := by
  rw [← isSome_of_optionalText read.clientId, ← isSome_of_optionalText read.clientSecret, calendar]
  cases c.calendarClientId <;> cases c.calendarClientSecret <;> simp

theorem isInRange : c.IsInRange env where
  threshold := lt_of_number (by decide +kernel) read.threshold
  timeConstant := of_decide_eq_true
    (holds_of_number (by decide +kernel) read.timeConstant _ List.mem_cons_self)
  skip := exists_natural_of_number (by decide +kernel) read.skip
  redPeak := fun _ => read.exists_redPeakIndex
  relayPort := fun _ => read.exists_relayPort
  hour := ⟨Int.natCast_nonneg _,
    Int.ofNat_lt.mpr (timeOfDay_bounds (by decide) read.fetchStart).1⟩
  minute := ⟨Int.natCast_nonneg _,
    Int.ofNat_lt.mpr (timeOfDay_bounds (by decide) read.fetchStart).2⟩
  duration := read.fetchWindow_duration
  timeout := by
    intro service credentials
    rw [timeout_of_calendar credentials]
    exact lt_of_number (by decide +kernel) read.calendarTimeout
  calendar := read.isSome_calendar

/-- What is missing to settings that are in range is that none of the three is infinite. The
timeout counts only if there are credentials. -/
theorem isSound_iff :
    c.IsSound env ↔ ¬ env.IsInfinite "VA_THRESHOLD" ∧ ¬ env.IsInfinite "FILTER_TIME_CONSTANT" ∧
      (c.calendar.isSome = true → ¬ env.IsInfinite "TEMPO_TIMEOUT_MS") := by
  rw [← isFinite_of_number rfl read.threshold, ← isFinite_of_number rfl read.timeConstant,
    ← isFinite_of_number rfl read.calendarTimeout]
  constructor
  · intro sound
    refine ⟨sound.threshold_isFinite, sound.timeConstant_isFinite, fun credentials => ?_⟩
    obtain ⟨service, there⟩ := Option.isSome_iff_exists.mp credentials
    exact timeout_of_calendar there ▸ sound.timeout_isFinite service there
  · rintro ⟨threshold, timeConstant, timeout⟩
    refine ⟨read.isInRange, threshold, timeConstant, fun service there => ?_⟩
    rw [timeout_of_calendar there]
    exact timeout (Option.isSome_iff_exists.mpr ⟨service, there⟩)

end IsReadFrom

/-- The process ends with status 1, over at least one complaint, or the settings are in range.
Then they are what the parts of the program count on unless one of three variables says an
infinity. -/
theorem load_isSound_iff (env : Environment) :
    match load env with
    | .error refusal => refusal.status = 1 ∧ ∃ complaints, complaints ≠ [] ∧
        refusal = Complaint.refusal complaints
    | .ok config => config.IsInRange env ∧
        (config.IsSound env ↔
          ¬ env.IsInfinite "VA_THRESHOLD" ∧ ¬ env.IsInfinite "FILTER_TIME_CONSTANT" ∧
            (config.calendar.isSome = true → ¬ env.IsInfinite "TEMPO_TIMEOUT_MS")) := by
  unfold load
  cases reading : ofEnvironment env with
  | invalid complaints =>
      have explained := isExplained_ofEnvironment env
      rw [reading] at explained
      exact ⟨rfl, complaints, fun none => explained (congrArg Validated.invalid none), rfl⟩
  | ok config =>
      have read := ofEnvironment_isReadFrom env config reading
      exact ⟨read.isInRange, read.isSound_iff⟩

/-- An environment whose threshold is a word for an infinity. -/
def infiniteThreshold : Environment :=
  [("MQTT_BROKER_URL", "mqtt://x"), ("VA_THRESHOLD", "Infinity")]

/-- An infinite threshold is let through, and the load is never shed. -/
theorem not_isSound_of_infinite_threshold :
    ¬ match load infiniteThreshold with
      | .error refusal => refusal.status = 1
      | .ok config => config.IsSound infiniteThreshold := by
  have infinite : (match load infiniteThreshold with
      | .error _ => true
      | .ok config => config.threshold.isFinite) = false := by decide +kernel
  cases loaded : load infiniteThreshold with
  | error refusal =>
      rw [loaded] at infinite
      cases infinite
  | ok config =>
      rw [loaded] at infinite
      intro sound
      exact Bool.false_ne_true (infinite.symm.trans sound.threshold_isFinite)

end MeterSignals.Config
