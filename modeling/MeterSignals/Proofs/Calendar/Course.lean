/-
# The course of a lookup

With a usable token at hand a lookup sends one request, that for the calendar. Without one it asks
for a token first, and goes on to the calendar only with what that request was answered. The token
that is kept in the end is the one the calendar was asked with, unless the service refused it.
If the alarm of a request cannot be set, a lookup sends nothing at all and ends as if its first
request were lost.
-/

import MeterSignals.Calendar.Lookup

namespace MeterSignals

namespace TokenGrant

/-- What an answer hands out: a token, if the request was carried out and the body is readable and
of the agreed shape. -/
def ofReply? : Http.Reply → Option TokenGrant
  | .error _ => none
  | .ok response => if response.isOk then response.json.toOption.bind ofJson? else none

/-- The token to keep, if it was asked for at `askedAt`. -/
def token (grant : TokenGrant) (askedAt : Float) : Token :=
  ⟨grant.accessToken, Token.expiry (grant.lifetime.getD Token.defaultLifetime) askedAt⟩

end TokenGrant

namespace CalendarLookup

/-- An answer gives a token to keep exactly if it hands one out. -/
theorem toOption_tokenOf (askedAt : Float) (reply : Http.Reply) :
    (tokenOf askedAt reply).toOption =
      (TokenGrant.ofReply? reply).map (·.token askedAt) := by
  cases reply with
  | error failure => rfl
  | ok response =>
      simp only [tokenOf, TokenGrant.ofReply?]
      cases response.isOk with
      | false => rfl
      | true =>
          simp only [Bool.not_true, Bool.false_eq_true, if_false, if_true]
          cases response.json with
          | error failure => rfl
          | ok answer =>
              cases given : TokenGrant.ofJson? answer <;>
                simp only [Except.toOption, Option.bind_some, given] <;> rfl

variable (service : CalendarService) (alarm : Http.Alarm) (home : Zone) (kept : Option Token)
  (answers : List (Http.Reply × Float))

/-- A lookup that has ended takes no answers. -/
theorem follow_ends (result : Except CalendarError CalendarEntry) :
    follow service alarm home kept (.ends result) answers = ⟨kept, [], some result, []⟩ := by
  cases answers <;> rfl

/-- A lookup that waits for the calendar sends nothing more. -/
theorem follow_calendar (startedAt : Float) (token : Text) :
    let course := follow service alarm home kept
      (.asks (service.calendarRequest token) ⟨startedAt, .calendar token⟩) answers
    course.requests = [service.calendarRequest token] ∧
      course.kept = if answers.head?.any (isRefusal ·.1) then none else kept := by
  cases answers with
  | nil => exact ⟨rfl, rfl⟩
  | cons answer rest =>
      obtain ⟨reply, now⟩ := answer
      simp only [follow, resume, List.head?_cons, Option.any_some]
      by_cases refused : isRefusal reply = true <;> simp [refused, follow]

section Ready

variable {service alarm} (ready : alarm service.timeout = none)

include ready

/-- A request is sent if its alarm can be set. -/
theorem askCalendar_of_ready (startedAt : Float) (token : Text) :
    askCalendar service alarm startedAt token =
      (.asks (service.calendarRequest token) ⟨startedAt, .calendar token⟩, []) := by
  rw [askCalendar, send, CalendarService.calendarRequest, ready]

@[inherit_doc askCalendar_of_ready]
theorem askToken_of_ready (startedAt askedAt : Float) :
    askToken service alarm startedAt askedAt =
      (.asks service.tokenRequest ⟨startedAt, .token askedAt⟩, []) := by
  rw [askToken, send, CalendarService.tokenRequest, ready]

/-- A lookup that waits for a token sends one more request if it is handed one out. -/
theorem follow_token (startedAt askedAt : Float) :
    let course := follow service alarm home kept
      (.asks service.tokenRequest ⟨startedAt, .token askedAt⟩) answers
    match answers.head?.bind fun answer => TokenGrant.ofReply? answer.1 with
    | none => course.requests = [service.tokenRequest] ∧ course.kept = kept
    | some grant =>
      course.requests = [service.tokenRequest, service.calendarRequest grant.accessToken] ∧
        course.kept = if answers[1]?.any (isRefusal ·.1) then none
          else some (grant.token askedAt) := by
  cases answers with
  | nil => exact ⟨rfl, rfl⟩
  | cons answer rest =>
      obtain ⟨reply, now⟩ := answer
      have handed := toOption_tokenOf askedAt reply
      simp only [follow, resume, List.head?_cons, Option.bind_some, List.getElem?_cons_succ]
      cases given : TokenGrant.ofReply? reply with
      | none =>
          rw [given] at handed
          cases taken : tokenOf askedAt reply with
          | ok token => rw [taken] at handed; cases handed
          | error e => simp [follow]
      | some grant =>
          rw [given] at handed
          cases taken : tokenOf askedAt reply with
          | error e => rw [taken] at handed; cases handed
          | ok token =>
              rw [taken] at handed
              obtain rfl : token = grant.token askedAt := Option.some.inj handed
              obtain ⟨requests, final⟩ := follow_calendar service alarm home
                (some (grant.token askedAt)) rest startedAt grant.accessToken
              rw [List.head?_eq_getElem?] at final
              simp only [askCalendar_of_ready ready]
              exact ⟨congrArg (_ :: ·) requests, final⟩

variable {home kept answers}

/-- With a usable token the calendar is asked at once. -/
theorem perform_of_usable {startedAt checkedAt askedAt : Float} {token : Token}
    (usable : (kept.filter fun token => Token.isUsable token.expiresAt checkedAt) = some token) :
    let course := perform service alarm home kept startedAt checkedAt askedAt answers
    course.requests = [service.calendarRequest token.value] ∧
      course.kept = if answers.head?.any (isRefusal ·.1) then none else kept := by
  simp only [perform, start, usable, askCalendar_of_ready ready]
  exact follow_calendar service alarm home kept answers startedAt token.value

/-- Without a usable token one is asked for first. -/
theorem perform_of_unusable {startedAt checkedAt askedAt : Float}
    (unusable : (kept.filter fun token => Token.isUsable token.expiresAt checkedAt) = none) :
    let course := perform service alarm home kept startedAt checkedAt askedAt answers
    match answers.head?.bind fun answer => TokenGrant.ofReply? answer.1 with
    | none => course.requests = [service.tokenRequest] ∧ course.kept = kept
    | some grant =>
      course.requests = [service.tokenRequest, service.calendarRequest grant.accessToken] ∧
        course.kept = if answers[1]?.any (isRefusal ·.1) then none
          else some (grant.token askedAt) := by
  simp only [perform, start, unusable, askToken_of_ready ready]
  exact follow_token home kept answers ready startedAt askedAt

end Ready

/-- Without an alarm nothing is sent, the kept token stays, and the lookup ends as if the request
that it would have begun with were lost. -/
theorem perform_of_refused {service : CalendarService} {alarm : Http.Alarm} {failure : Failure}
    (refused : alarm service.timeout = some failure) (startedAt checkedAt askedAt : Float) :
    let course := perform service alarm home kept startedAt checkedAt askedAt answers
    let usable := kept.filter fun token => Token.isUsable token.expiresAt checkedAt
    course.requests = [] ∧ course.kept = kept ∧
      course.result = some (.error
        (networkError failure (if usable.isSome then calendarLost else tokenLost))) := by
  intro course usable
  simp only [course, perform, start]
  cases found : usable with
  | none =>
      rw [show kept.filter _ = none from found]
      simp [askToken, send, CalendarService.tokenRequest, refused, follow_ends]
  | some token =>
      rw [show kept.filter _ = some token from found]
      simp [askCalendar, send, CalendarService.calendarRequest, refused, follow_ends]

end CalendarLookup

end MeterSignals
