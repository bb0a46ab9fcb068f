/-
# The ledger of tokens

Beside the token that a client of the calendar keeps, a ledger is written from what goes over the
wire: each token that is handed out, with the time at which it had been asked for, each refusal by
the calendar, and each time that somebody has the token forgotten. The ledger knows nothing of what
is kept. It decides all the same which requests the next lookup sends, if the alarms of these can
be set: the token that was handed out last is used again exactly if nothing stands after it in the
ledger and a minute of its lifetime is left. This is told from sums of doubles, and where these are
rounded a lifetime comes out a moment shorter or longer than it is.
-/

import Mathlib.Data.List.Induction
import MeterSignals.Proofs.Calendar.Course

namespace MeterSignals

/-- A token that was handed out, and the time at which it had been asked for. -/
structure TokenIssue where
  grant : TokenGrant
  askedAt : Float
  deriving DecidableEq

/-- The token to keep. -/
def TokenIssue.token (issue : TokenIssue) : Token := issue.grant.token issue.askedAt

/-- What is written down about tokens. -/
inductive TokenEntry
  | issued (issue : TokenIssue)
  /-- The calendar does not accept the token with which it was asked. -/
  | refused
  /-- The token is forgotten on request. -/
  | forgotten
  deriving DecidableEq

namespace TokenEntry

/-- The token that was handed out. -/
def issue? : TokenEntry → Option TokenIssue
  | issued issue => some issue
  | _ => none

/-- What a request and its answer leave in the ledger. Only tokens are asked for by `POST`. -/
def of? (askedAt : Float) (request : Http.Request) (reply : Http.Reply) : Option TokenEntry :=
  if request.method = "POST" then
    (TokenGrant.ofReply? reply).map fun grant => .issued ⟨grant, askedAt⟩
  else if CalendarLookup.isRefusal reply then some .refused
  else none

end TokenEntry

/-- A ledger, the newest entry at its end. -/
abbrev TokenLedger := List TokenEntry

namespace TokenLedger

/-- The token that was handed out last. -/
def last? (ledger : TokenLedger) : Option TokenIssue :=
  (ledger.filterMap TokenEntry.issue?).getLast?

/-- The token that was handed out last, if nothing has happened since. -/
def standing? (ledger : TokenLedger) : Option TokenIssue := ledger.getLast?.bind TokenEntry.issue?

variable {ledger : TokenLedger} {issue : TokenIssue}

theorem standing?_eq_some_iff :
    ledger.standing? = some issue ↔ ∃ earlier, ledger = earlier ++ [.issued issue] := by
  constructor
  · intro stands
    obtain ⟨entry, last, same⟩ := Option.bind_eq_some_iff.mp stands
    obtain ⟨earlier, rfl⟩ := List.getLast?_eq_some_iff.mp last
    cases entry with
    | issued found => exact ⟨earlier, by rw [Option.some.inj same]⟩
    | refused => cases same
    | forgotten => cases same
  · rintro ⟨earlier, rfl⟩
    rw [standing?, List.getLast?_concat]
    rfl

@[simp]
theorem standing?_concat (entry : TokenEntry) : (ledger ++ [entry]).standing? = entry.issue? := by
  rw [standing?, List.getLast?_concat, Option.bind_some]

/-- A refusal does not change which token was handed out last. -/
theorem last?_append_refusal (refused : Bool) :
    last? (ledger ++ if refused then [.refused] else []) = ledger.last? := by
  cases refused with
  | false => exact congrArg last? (List.append_nil ledger)
  | true =>
      rw [last?, List.filterMap_append]
      exact congrArg List.getLast? (List.append_nil _)

/-- What stands was handed out last. -/
theorem last?_of_standing? (stands : ledger.standing? = some issue) :
    ledger.last? = some issue := by
  obtain ⟨earlier, rfl⟩ := standing?_eq_some_iff.mp stands
  rw [last?, List.filterMap_append]
  exact List.getLast?_concat

end TokenLedger

/-- A lookup, with the times at which the clock is read and the answers to its requests. -/
structure LookupCall where
  /-- Where the calendar service is and how it is asked. -/
  service : CalendarService
  startedAt : Float
  /-- When the kept token is checked. -/
  checkedAt : Float
  /-- When a new token is asked for. -/
  askedAt : Float
  /-- The answers in the order of the requests, each with the time at which it comes. -/
  answers : List (Http.Reply × Float)

namespace LookupCall

/-- What the lookup comes to. -/
def course (call : LookupCall) (alarm : Http.Alarm) (home : Zone) (kept : Option Token) :
    LookupCourse :=
  CalendarLookup.perform call.service alarm home kept call.startedAt call.checkedAt call.askedAt
    call.answers

/-- The entries that a row of requests leaves. -/
def entries (call : LookupCall) (requests : List Http.Request) : TokenLedger :=
  (requests.zip call.answers).filterMap fun (request, answer) =>
    TokenEntry.of? call.askedAt request answer.1

/-- The token that the answer to the first request hands out. -/
def granted? (call : LookupCall) : Option TokenGrant :=
  call.answers.head?.bind fun answer => TokenGrant.ofReply? answer.1

/-- Whether the answer to the request with an index refuses a token. -/
def isRefusedAt (call : LookupCall) (index : Nat) : Bool :=
  call.answers[index]?.any fun answer => CalendarLookup.isRefusal answer.1

/-- A minute of the lifetime of a token is left when the kept token is checked, by the sums of
doubles. A token whose lifetime is not told is good for an hour. -/
def isInTime (call : LookupCall) (issue : TokenIssue) : Prop :=
  call.checkedAt < issue.askedAt + issue.grant.lifetime.getD 3600 * 1000 - 60000

instance (call : LookupCall) (issue : TokenIssue) : Decidable (call.isInTime issue) :=
  inferInstanceAs (Decidable (_ < _))

variable (call : LookupCall) (service : CalendarService)

theorem of?_calendarRequest (token : Text) (reply : Http.Reply) :
    TokenEntry.of? call.askedAt (service.calendarRequest token) reply =
      if CalendarLookup.isRefusal reply then some .refused else none := by
  refine if_neg ?_
  change ¬ ("GET" : Text) = "POST"
  decide

theorem of?_tokenRequest (reply : Http.Reply) :
    TokenEntry.of? call.askedAt service.tokenRequest reply =
      (TokenGrant.ofReply? reply).map fun grant => .issued ⟨grant, call.askedAt⟩ :=
  if_pos rfl

/-- Where the calendar is asked at once, a refusal is all that may be left. -/
theorem entries_calendar (token : Text) :
    call.entries [service.calendarRequest token] =
      if call.isRefusedAt 0 then [.refused] else [] := by
  rw [entries, isRefusedAt]
  cases call.answers with
  | nil => rfl
  | cons answer rest =>
      simp only [List.zip_cons_cons, List.zip_nil_left, List.filterMap_cons, List.filterMap_nil,
        of?_calendarRequest, List.getElem?_cons_zero, Option.any_some]
      by_cases refused : CalendarLookup.isRefusal answer.1 = true <;> simp [refused]

/-- Where a token is asked for and none is handed out, nothing is left. -/
theorem entries_token (none : call.granted? = none) : call.entries [service.tokenRequest] = [] := by
  rw [granted?] at none
  rw [entries]
  cases answers : call.answers with
  | nil => rfl
  | cons answer rest =>
      rw [answers, List.head?_cons, Option.bind_some] at none
      simp only [List.zip_cons_cons, List.zip_nil_left, List.filterMap_cons, List.filterMap_nil,
        of?_tokenRequest, none, Option.map_none]

/-- Where a token is handed out and the calendar is asked with it, the token is left and a refusal
may come after it. -/
theorem entries_both {grant : TokenGrant} (granted : call.granted? = some grant) (token : Text) :
    call.entries [service.tokenRequest, service.calendarRequest token] =
      .issued ⟨grant, call.askedAt⟩ :: if call.isRefusedAt 1 then [.refused] else [] := by
  rw [granted?] at granted
  rw [entries, isRefusedAt]
  rcases answers : call.answers with - | ⟨first, - | ⟨second, rest⟩⟩
  · rw [answers] at granted
    cases granted
  · rw [answers, List.head?_cons, Option.bind_some] at granted
    simp [of?_tokenRequest, granted]
  · rw [answers, List.head?_cons, Option.bind_some] at granted
    simp only [List.zip_cons_cons, List.zip_nil_left, List.filterMap_cons, List.filterMap_nil,
      of?_tokenRequest, of?_calendarRequest, granted, Option.map_some, List.getElem?_cons_succ,
      List.getElem?_cons_zero, Option.any_some]
    by_cases refused : CalendarLookup.isRefusal second.1 = true <;> simp [refused]

end LookupCall

/-- What is done with the calendar. -/
inductive CalendarUse
  | lookedUp (call : LookupCall)
  /-- The kept token is forgotten on request. -/
  | forgot

/-- The token that is kept, and the ledger beside it. -/
structure TokenAccount where
  kept : Option Token
  ledger : TokenLedger

namespace TokenAccount

/-- Nothing is kept and nothing is written. -/
def initial : TokenAccount := ⟨none, []⟩

/-- One use of the calendar. -/
def next (alarm : Http.Alarm) (home : Zone) (account : TokenAccount) :
    CalendarUse → TokenAccount
  | .lookedUp call =>
    let course := call.course alarm home account.kept
    ⟨course.kept, account.ledger ++ call.entries course.requests⟩
  | .forgot => ⟨none, account.ledger ++ [.forgotten]⟩

/-- A row of uses, one after the other. -/
def of (alarm : Http.Alarm) (home : Zone) (uses : List CalendarUse) : TokenAccount :=
  uses.foldl (next alarm home) initial

theorem of_snoc (alarm : Http.Alarm) (home : Zone) (uses : List CalendarUse)
    (use : CalendarUse) :
    of alarm home (uses ++ [use]) = (of alarm home uses).next alarm home use := by
  rw [of, List.foldl_append]
  rfl

/-- What is kept is what stands in the ledger. -/
def IsBalanced (account : TokenAccount) : Prop :=
  account.kept = account.ledger.standing?.map TokenIssue.token

/-- A token that stands is usable for a lookup as long as it is in time. -/
def usableFor (account : TokenAccount) (call : LookupCall) : Option TokenIssue :=
  account.ledger.standing?.filter fun issue => Token.isUsable issue.token.expiresAt call.checkedAt

variable {alarm : Http.Alarm} {home : Zone} {account : TokenAccount}

/-- A token is used again if it is the last entry of the ledger and in time. -/
theorem usableFor_eq_some_iff {call : LookupCall} {issue : TokenIssue} :
    account.usableFor call = some issue ↔
      (∃ earlier, account.ledger = earlier ++ [.issued issue]) ∧ call.isInTime issue := by
  rw [usableFor, Option.filter_eq_some_iff, TokenLedger.standing?_eq_some_iff, Token.isUsable,
    decide_eq_true_iff]
  exact Iff.rfl

/-- All that a lookup can do if its alarms can be set: ask the calendar with the token that stands,
fail to get a new one, or get one and ask with that. -/
theorem IsBalanced.course_cases (balanced : account.IsBalanced) {call : LookupCall}
    (ready : alarm call.service.timeout = none) :
    let course := call.course alarm home account.kept
    (∃ issue, account.usableFor call = some issue ∧
        course.requests = [call.service.calendarRequest issue.grant.accessToken] ∧
        course.kept = if call.isRefusedAt 0 then none else account.kept) ∨
      account.usableFor call = none ∧
        (call.granted? = none ∧ course.requests = [call.service.tokenRequest] ∧
            course.kept = account.kept ∨
          ∃ grant, call.granted? = some grant ∧
            course.requests =
              [call.service.tokenRequest, call.service.calendarRequest grant.accessToken] ∧
            course.kept =
              if call.isRefusedAt 1 then none else some (grant.token call.askedAt)) := by
  intro course
  have kept : account.kept.filter (fun token => Token.isUsable token.expiresAt call.checkedAt) =
      (account.usableFor call).map TokenIssue.token := by
    rw [balanced, usableFor, Option.filter_map]
    rfl
  cases usable : account.usableFor call with
  | some issue =>
      rw [usable] at kept
      have asked := @CalendarLookup.perform_of_usable call.service alarm home account.kept
        call.answers ready call.startedAt call.checkedAt call.askedAt _ kept
      rw [List.head?_eq_getElem?] at asked
      exact .inl ⟨issue, rfl, asked⟩
  | none =>
      rw [usable] at kept
      have asked := @CalendarLookup.perform_of_unusable call.service alarm home account.kept
        call.answers ready call.startedAt call.checkedAt call.askedAt kept
      refine .inr ⟨rfl, ?_⟩
      cases granted : call.granted? with
      | none =>
          rw [show call.answers.head?.bind _ = none from granted] at asked
          exact .inl ⟨rfl, asked⟩
      | some grant =>
          rw [show call.answers.head?.bind _ = some grant from granted] at asked
          exact .inr ⟨grant, rfl, asked⟩

/-- A lookup for which no alarm can be set changes nothing. -/
theorem next_of_refused {call : LookupCall} {failure : Failure}
    (refused : alarm call.service.timeout = some failure) :
    account.next alarm home (.lookedUp call) = account := by
  obtain ⟨requests, kept, -⟩ := CalendarLookup.perform_of_refused home account.kept call.answers
    refused call.startedAt call.checkedAt call.askedAt
  rw [next, LookupCall.course, requests, kept]
  exact congrArg (TokenAccount.mk account.kept) (List.append_nil _)

/-- Every use of the calendar keeps the balance. -/
theorem IsBalanced.next (balanced : account.IsBalanced) (use : CalendarUse) :
    (account.next alarm home use).IsBalanced := by
  cases use with
  | forgot =>
      rw [IsBalanced, TokenAccount.next, TokenLedger.standing?_concat]
      rfl
  | lookedUp call =>
      cases ready : alarm call.service.timeout with
      | some failure =>
          rw [next_of_refused ready]
          exact balanced
      | none =>
          rw [IsBalanced, TokenAccount.next]
          rcases balanced.course_cases ready with ⟨issue, -, requests, kept⟩ |
            ⟨-, ⟨none, requests, kept⟩ | ⟨grant, granted, requests, kept⟩⟩
          · rw [requests, kept, call.entries_calendar]
            split
            · rw [TokenLedger.standing?_concat]
              rfl
            · rw [List.append_nil]
              exact balanced
          · rw [requests, kept, call.entries_token call.service none, List.append_nil]
            exact balanced
          · rw [requests, kept, call.entries_both call.service granted]
            split
            · rw [List.append_cons, TokenLedger.standing?_concat]
              rfl
            · rw [TokenLedger.standing?_concat]
              rfl

theorem isBalanced_of (alarm : Http.Alarm) (home : Zone) (uses : List CalendarUse) :
    (of alarm home uses).IsBalanced := by
  induction uses using List.reverseRecOn with
  | nil => rfl
  | append_singleton uses use ih =>
      rw [of_snoc]
      exact ih.next use

end TokenAccount

end MeterSignals
