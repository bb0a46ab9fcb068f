/-
# When a new token is asked for

From the ledger alone it can be told what the next lookup sends, as long as the alarms of its
requests can be set: only the calendar is asked if the token that was handed out last stands and is
in time, and otherwise a token comes first. The sums by which a token is in time are exact for
whole milliseconds and whole seconds. A fraction of a second may be rounded in them, and then a
token is asked for a moment too early or too late.
-/

import MeterSignals.Proofs.Calendar.TokenLedger
import MeterSignals.Proofs.Number.Scientific

namespace MeterSignals

namespace LookupCall

/-- A minute of the lifetime of a token is left when the kept token is checked, by the numbers
themselves. -/
def isInExactTime (call : LookupCall) (issue : TokenIssue) : Prop :=
  Number.value call.checkedAt <
    Number.value issue.askedAt + Number.value (issue.grant.lifetime.getD 3600) * 1000 - 60000

variable {call : LookupCall} {issue : TokenIssue}

/-- For whole numbers whose sums have 53 bits nothing is lost in the sums. -/
theorem isInTime_iff_isInExactTime {asked lifetime : Int} (clock : call.checkedAt.isFinite = true)
    (asks : Number.integer? issue.askedAt = some asked)
    (lives : Number.integer? (issue.grant.lifetime.getD 3600) = some lifetime)
    (small : asked.natAbs + 1000 * lifetime.natAbs + 60000 ≤ 2 ^ 53) :
    call.isInTime issue ↔ call.isInExactTime issue := by
  obtain ⟨askedFinite, askedValue⟩ := Number.integer?_eq_some_iff.mp asks
  obtain ⟨livesFinite, livesValue⟩ := Number.integer?_eq_some_iff.mp lives
  obtain ⟨-, second⟩ :=
    Number.integer?_eq_some_iff.mp (show Number.integer? 1000 = some 1000 by decide +kernel)
  obtain ⟨marginFinite, margin⟩ :=
    Number.integer?_eq_some_iff.mp (show Number.integer? 60000 = some 60000 by decide +kernel)
  have product := Number.approximates_mul livesFinite (y := 1000) (by rw [second]; norm_num)
  rw [livesValue, second, ← Int.cast_mul] at product
  obtain ⟨spanFinite, span⟩ := product.value_eq_of_le (by omega)
  have sum := Number.approximates_add askedFinite spanFinite
  rw [askedValue, span, ← Int.cast_add] at sum
  obtain ⟨expiryFinite, expiry⟩ := sum.value_eq_of_le (by omega)
  have difference := Number.approximates_sub expiryFinite marginFinite
  rw [expiry, margin, ← Int.cast_sub] at difference
  obtain ⟨lastFinite, last⟩ := difference.value_eq_of_le (by omega)
  rw [isInTime, isInExactTime, Number.lt_iff clock lastFinite, last, askedValue, livesValue]
  push_cast
  exact Iff.rfl

end LookupCall

namespace TokenAccount

variable {alarm : Http.Alarm} {home : Zone} {account : TokenAccount} {call : LookupCall}
  {issue : TokenIssue}

theorem method_tokenRequest_ne (service : CalendarService) :
    service.tokenRequest.method ≠ "GET" := by
  change ("POST" : Text) ≠ "GET"
  decide

/-- A lookup for which no alarm can be set sends nothing. -/
theorem requests_of_refused {failure : Failure}
    (refused : alarm call.service.timeout = some failure) :
    (call.course alarm home account.kept).requests = [] :=
  (CalendarLookup.perform_of_refused home account.kept call.answers refused call.startedAt
    call.checkedAt call.askedAt).1

/-- A token that stands and is in time is used again. -/
theorem IsBalanced.requests_of_usable (balanced : account.IsBalanced)
    (ready : alarm call.service.timeout = none) (usable : account.usableFor call = some issue) :
    (call.course alarm home account.kept).requests =
      [call.service.calendarRequest issue.grant.accessToken] := by
  rcases balanced.course_cases ready with ⟨found, again, sent, -⟩ | ⟨unusable, -⟩
  · obtain rfl : issue = found := Option.some.inj (usable.symm.trans again)
    exact sent
  · cases usable.symm.trans unusable

/-- Where no token stands that is in time, one is asked for. -/
theorem IsBalanced.head?_of_unusable (balanced : account.IsBalanced)
    (ready : alarm call.service.timeout = none) (unusable : account.usableFor call = none) :
    (call.course alarm home account.kept).requests.head? = some call.service.tokenRequest := by
  rcases balanced.course_cases ready with
    ⟨issue, usable, -⟩ | ⟨-, ⟨-, sent, -⟩ | ⟨grant, -, sent, -⟩⟩
  · cases unusable.symm.trans usable
  all_goals exact congrArg List.head? sent

/-- The calendar is asked with the token that was handed out last: one that is used again, or one
that this lookup got. -/
theorem IsBalanced.token_of_mem (balanced : account.IsBalanced) {request : Http.Request}
    (sent : request ∈ (call.course alarm home account.kept).requests)
    (method : request.method = "GET") :
    ∃ issue, (account.next alarm home (.lookedUp call)).ledger.last? = some issue ∧
      request = call.service.calendarRequest issue.grant.accessToken ∧
      (account.usableFor call = some issue ∨
        (call.course alarm home account.kept).requests.head? = some call.service.tokenRequest ∧
          call.granted? = some issue.grant ∧ issue.askedAt = call.askedAt) := by
  cases ready : alarm call.service.timeout with
  | some failure =>
      rw [requests_of_refused ready] at sent
      cases sent
  | none =>
      have entered : (account.next alarm home (.lookedUp call)).ledger =
          account.ledger ++ call.entries (call.course alarm home account.kept).requests := rfl
      rcases balanced.course_cases ready with
        ⟨issue, usable, all, -⟩ | ⟨-, ⟨-, all, -⟩ | ⟨grant, granted, all, -⟩⟩
      · have last := TokenLedger.last?_of_standing?
          (TokenLedger.standing?_eq_some_iff.mpr (usableFor_eq_some_iff.mp usable).1)
        rw [all] at sent
        refine ⟨issue, ?_, List.mem_singleton.mp sent, .inl usable⟩
        rw [entered, all, call.entries_calendar, TokenLedger.last?_append_refusal, last]
      · rw [all] at sent
        rw [List.mem_singleton.mp sent] at method
        exact absurd method (method_tokenRequest_ne call.service)
      · refine ⟨⟨grant, call.askedAt⟩, ?_, ?_, .inr ⟨congrArg List.head? all, granted, rfl⟩⟩
        · rw [entered, all, call.entries_both call.service granted, List.append_cons,
            TokenLedger.last?_append_refusal]
          exact TokenLedger.last?_of_standing? (TokenLedger.standing?_concat _)
        · rw [all] at sent
          rcases List.mem_cons.mp sent with rfl | again
          · exact absurd method (method_tokenRequest_ne call.service)
          · exact List.mem_singleton.mp again

/-- A token is asked for exactly if none stands that is in time by the numbers themselves. -/
def AsksInExactTime (alarm : Http.Alarm) (home : Zone) (account : TokenAccount)
    (call : LookupCall) : Prop :=
  let isReused (issue : TokenIssue) : Prop :=
    (∃ earlier, account.ledger = earlier ++ [.issued issue]) ∧ call.isInExactTime issue
  let requests := (call.course alarm home account.kept).requests
  ((∃ issue, isReused issue) → call.service.tokenRequest ∉ requests) ∧
    ((¬ ∃ issue, isReused issue) → requests.head? = some call.service.tokenRequest)

end TokenAccount

end MeterSignals
