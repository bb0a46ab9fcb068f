/-
# Looking up the calendar

A lookup asks for a token unless a usable one is at hand, and then for the calendar. It
never waits: `start` gives the first request, `resume` takes the answer to a request and
gives either the next request or the result. A request whose alarm cannot be set is not sent, and
the lookup ends as if it were lost. A token is kept for later lookups as soon as it has been handed
out; it is dropped when the service refuses it and kept through every other failure.
-/

import MeterSignals.Calendar.Freshness
import MeterSignals.Calendar.Notice
import MeterSignals.Calendar.Token
import MeterSignals.Http

namespace MeterSignals

/-- Where the calendar service is and how it is asked. -/
structure CalendarService where
  clientId : Text
  clientSecret : Text
  tokenUrl : Text
  calendarUrl : Text
  /-- Milliseconds after which a request is given up. -/
  timeout : Float

/-- What a lookup waits for. -/
inductive Awaited
  /-- A token that was asked for at some time. -/
  | token (askedAt : Float)
  /-- The calendar, asked for with a token. -/
  | calendar (token : Text)

/-- A lookup on its way. -/
structure CalendarLookup where
  startedAt : Float
  awaited : Awaited

/-- How a lookup goes on after an answer. -/
inductive LookupProgress
  | asks (request : Http.Request) (lookup : CalendarLookup)
  | ends (result : Except CalendarError CalendarEntry)

/-- What a lookup came to. -/
structure LookupCourse where
  /-- The token that is kept at the end. -/
  kept : Option Token
  /-- The requests that were sent. -/
  requests : List Http.Request
  /-- The result; `none` if the last request was not answered. -/
  result : Option (Except CalendarError CalendarEntry)
  notices : List CalendarNotice

namespace CalendarService

/-- The request for a token. -/
def tokenRequest (service : CalendarService) : Http.Request :=
  { method := "POST"
    url := service.tokenUrl
    headers :=
      [ ("Accept", "application/json"),
        ("Authorization", Token.credentialsHeader service.clientId service.clientSecret),
        ("Content-Type", "application/x-www-form-urlencoded") ]
    body := some "grant_type=client_credentials"
    timeout := service.timeout }

/-- The request for the calendar. -/
def calendarRequest (service : CalendarService) (token : Text) : Http.Request :=
  { method := "GET"
    url := service.calendarUrl
    headers := [("Accept", "application/json"), ("Authorization", Token.header token)]
    body := none
    timeout := service.timeout }

end CalendarService

namespace CalendarLookup

/-- A failure of a request or of reading its answer. Giving up after the timeout has a
message of its own. -/
def networkError (failure : Failure) (message : Text) : CalendarError :=
  let cause := failure.toFault
  if cause.name = "TimeoutError" || cause.name = "AbortError" then
    .networkError "Request timed out" (some (.fault cause))
  else .networkError message (some (.fault cause))

/-- What is said if no token can be asked for, or the answer is lost. -/
def tokenLost : Text := "Failed to fetch access token"

/-- What is said if the calendar cannot be asked for, or the answer is lost. -/
def calendarLost : Text := "Failed to fetch tempo calendar"

/-- The token in the answer to the request for one. -/
def tokenOf (askedAt : Float) : Http.Reply → Except CalendarError Token
  | .error failure => .error (networkError failure tokenLost)
  | .ok response =>
    if !response.isOk then .error (.authFailed response.statusLine (some response.status))
    else
      match response.json with
      | .error failure => .error (networkError failure tokenLost)
      | .ok answer =>
        match TokenGrant.ofJson? answer with
        | none => .error (.invalidResponse "Invalid token response format" (some answer))
        | some grant =>
          let lifetime := grant.lifetime.getD Token.defaultLifetime
          .ok ⟨grant.accessToken, Token.expiry lifetime askedAt⟩

/-- Whether the service refuses the token. -/
def isRefusal : Http.Reply → Bool
  | .ok response => response.status == 401 || response.status == 403
  | .error _ => false

/-- The entry in the answer to the request for the calendar. -/
def entryOf (home : Zone) : Http.Reply → Except CalendarError CalendarEntry
  | .error failure => .error (networkError failure calendarLost)
  | .ok response =>
    if response.status == 401 || response.status == 403 then
      .error (.authFailed response.statusLine (some response.status))
    else if !response.isOk then .error (.networkError response.statusLine none)
    else
      match response.json with
      | .error failure => .error (networkError failure calendarLost)
      | .ok answer =>
        match CalendarEntry.listOfJson? answer with
        | none => .error (.invalidResponse "Invalid calendar response format" (some answer))
        | some entries => CalendarEntry.selectLatest home entries

/-- The report of the end of a lookup at `now`. -/
def endNotice (startedAt now : Float) : Except CalendarError CalendarEntry → CalendarNotice
  | .ok entry => .completed (now - startedAt) entry.color entry.start
  | .error e => .failed e.formatted

/-- Send a request, and wait for its answer. The alarm is set first; if that throws, the lookup
ends and nothing is sent. -/
def send (alarm : Http.Alarm) (request : Http.Request) (lookup : CalendarLookup) (lost : Text) :
    LookupProgress × List CalendarNotice :=
  match alarm request.timeout with
  | none => (.asks request lookup, [])
  | some failure =>
    let e := networkError failure lost
    (.ends (.error e), [.failed e.formatted])

/-- Ask for a token. -/
def askToken (service : CalendarService) (alarm : Http.Alarm) (startedAt askedAt : Float) :
    LookupProgress × List CalendarNotice :=
  send alarm service.tokenRequest ⟨startedAt, .token askedAt⟩ tokenLost

/-- Ask for the calendar with a token. -/
def askCalendar (service : CalendarService) (alarm : Http.Alarm) (startedAt : Float)
    (token : Text) : LookupProgress × List CalendarNotice :=
  send alarm (service.calendarRequest token) ⟨startedAt, .calendar token⟩ calendarLost

/-- Begin a lookup: the request to send with the lookup that waits for its answer, or the result,
and what is reported. The clock is read when the lookup starts, when the kept token is checked and
when a new one is asked for. -/
def start (service : CalendarService) (alarm : Http.Alarm) (kept : Option Token)
    (startedAt checkedAt askedAt : Float) : LookupProgress × List CalendarNotice :=
  match kept.filter fun token => Token.isUsable token.expiresAt checkedAt with
  | some token =>
    let (progress, notices) := askCalendar service alarm startedAt token.value
    (progress, [.started, .usingCachedToken] ++ notices)
  | none =>
    let (progress, notices) := askToken service alarm startedAt askedAt
    (progress, [.started, .requestingToken service.tokenUrl] ++ notices)

/-- Go on with the answer to the last request, which came at `now`: the token that is kept
from here on, what happens next, and what is reported. -/
def resume (service : CalendarService) (alarm : Http.Alarm) (home : Zone) (kept : Option Token)
    (lookup : CalendarLookup) (reply : Http.Reply) (now : Float) :
    Option Token × LookupProgress × List CalendarNotice :=
  match lookup.awaited with
  | .token askedAt =>
    match tokenOf askedAt reply with
    | .ok token => (some token, askCalendar service alarm lookup.startedAt token.value)
    | .error e => (kept, .ends (.error e), [endNotice lookup.startedAt now (.error e)])
  | .calendar _ =>
    let result := entryOf home reply
    let final := endNotice lookup.startedAt now result
    if isRefusal reply then (none, .ends result, [.tokenCleared, final])
    else (kept, .ends result, [final])

/-- Go on with answers, each with the time at which it comes, as long as a request waits
for one. -/
def follow (service : CalendarService) (alarm : Http.Alarm) (home : Zone) (kept : Option Token) :
    LookupProgress → List (Http.Reply × Float) → LookupCourse
  | .ends result, _ => ⟨kept, [], some result, []⟩
  | .asks request _, [] => ⟨kept, [request], none, []⟩
  | .asks request lookup, (reply, now) :: rest =>
    let (kept, next, notices) := lookup.resume service alarm home kept reply now
    let course := follow service alarm home kept next rest
    { course with
      requests := request :: course.requests
      notices := notices ++ course.notices }

/-- A lookup from its start to the last of the answers that it takes. -/
def perform (service : CalendarService) (alarm : Http.Alarm) (home : Zone) (kept : Option Token)
    (startedAt checkedAt askedAt : Float) (answers : List (Http.Reply × Float)) :
    LookupCourse :=
  let (progress, notices) := start service alarm kept startedAt checkedAt askedAt
  let course := follow service alarm home kept progress answers
  { course with notices := notices ++ course.notices }

end CalendarLookup

end MeterSignals
