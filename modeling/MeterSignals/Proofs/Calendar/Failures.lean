/-
# How a lookup fails

A lookup has two stages, the token and the calendar, and each can fail in several ways: the request
is lost, the status is not the right one, the body cannot be read or is not of the agreed shape, and
the calendar can be empty. What a failure is called depends on the stage and on the answer alone,
and so does what it does to the token that is kept. A failure of the first stage ends the lookup
and leaves the token alone. A failure of the second one keeps the token that the calendar was asked
with, unless the calendar refused it. Every lookup ends once its requests are answered. A request
whose alarm cannot be set is one that is lost: nothing is sent, and the token is left alone.
-/

import MeterSignals.Proofs.Calendar.TokenLedger

namespace MeterSignals

/-- What is said of a request that was lost, or of an answer that could not be read. -/
def Failure.wording (failure : Failure) (message : Text) : Text :=
  if failure.toFault.name ∈ (["TimeoutError", "AbortError"] : List Text) then "Request timed out"
  else message

namespace Http.Response

/-- The status says that the request was carried out. -/
def Succeeds (response : Response) : Prop := 200 ≤ response.status ∧ response.status ≤ 299

/-- The service refuses the token that it is asked with. -/
def Refuses (response : Response) : Prop := response.status == 401 ∨ response.status == 403

theorem isOk_iff (response : Response) : response.isOk = true ↔ response.Succeeds := by
  rw [isOk, Bool.and_eq_true, decide_eq_true_iff, decide_eq_true_iff]
  exact Iff.rfl

end Http.Response

/-- The answer to the request for a token hands none out, and why. -/
inductive FailsToGrant : Http.Reply → CalendarError → Prop
  | lost {failure : Failure} :
      FailsToGrant (.error failure) (.networkError
        (failure.wording "Failed to fetch access token") (some (.fault failure.toFault)))
  | status {response : Http.Response} (bad : ¬ response.Succeeds) :
      FailsToGrant (.ok response) (.authFailed response.statusLine (some response.status))
  | unreadable {response : Http.Response} {failure : Failure} (good : response.Succeeds)
      (body : response.json = .error failure) :
      FailsToGrant (.ok response) (.networkError
        (failure.wording "Failed to fetch access token") (some (.fault failure.toFault)))
  | shape {response : Http.Response} {answer : Json} (good : response.Succeeds)
      (body : response.json = .ok answer) (wrong : TokenGrant.ofJson? answer = none) :
      FailsToGrant (.ok response)
        (.invalidResponse "Invalid token response format" (some answer))

/-- The answer to the request for the calendar has no entry, and why. -/
inductive FailsToTell : Http.Reply → CalendarError → Prop
  | lost {failure : Failure} :
      FailsToTell (.error failure) (.networkError
        (failure.wording "Failed to fetch tempo calendar") (some (.fault failure.toFault)))
  | refused {response : Http.Response} (refused : response.Refuses) :
      FailsToTell (.ok response) (.authFailed response.statusLine (some response.status))
  | status {response : Http.Response} (accepted : ¬ response.Refuses)
      (bad : ¬ response.Succeeds) :
      FailsToTell (.ok response) (.networkError response.statusLine none)
  | unreadable {response : Http.Response} {failure : Failure} (accepted : ¬ response.Refuses)
      (good : response.Succeeds)
      (body : response.json = .error failure) :
      FailsToTell (.ok response) (.networkError
        (failure.wording "Failed to fetch tempo calendar") (some (.fault failure.toFault)))
  | shape {response : Http.Response} {answer : Json} (accepted : ¬ response.Refuses)
      (good : response.Succeeds)
      (body : response.json = .ok answer) (wrong : CalendarEntry.listOfJson? answer = none) :
      FailsToTell (.ok response)
        (.invalidResponse "Invalid calendar response format" (some answer))
  | empty {response : Http.Response} {answer : Json} (accepted : ¬ response.Refuses)
      (good : response.Succeeds)
      (body : response.json = .ok answer) (none : CalendarEntry.listOfJson? answer = some []) :
      FailsToTell (.ok response) (.noData "Calendar response holds no entry")

namespace CalendarLookup

theorem networkError_eq (failure : Failure) (message : Text) :
    networkError failure message =
      .networkError (failure.wording message) (some (.fault failure.toFault)) := by
  have names : (failure.toFault.name = "TimeoutError" || failure.toFault.name = "AbortError") =
      decide (failure.toFault.name ∈ (["TimeoutError", "AbortError"] : List Text)) := by
    simp
  rw [networkError, Failure.wording, names]
  simp only [decide_eq_true_eq]
  split <;> rfl

theorem isRefusal_ok (response : Http.Response) :
    isRefusal (.ok response) = true ↔ response.Refuses := by
  rw [isRefusal, Bool.or_eq_true]
  exact Iff.rfl

variable {e : CalendarError} {reply : Http.Reply}

theorem isRefusal_iff :
    isRefusal reply = true ↔ ∃ response, reply = .ok response ∧ response.Refuses := by
  cases reply with
  | error failure => exact iff_of_false nofun (fun refused => nomatch refused)
  | ok response => simp [isRefusal_ok]

/-- A failure to hand out a token is reported as what it is. -/
theorem tokenOf_of_fails {askedAt : Float} (fails : FailsToGrant reply e) :
    tokenOf askedAt reply = .error e := by
  cases fails with
  | lost =>
      rw [tokenOf, networkError_eq]
      rfl
  | status bad =>
      rw [← Http.Response.isOk_iff, Bool.not_eq_true] at bad
      simp [tokenOf, bad]
  | unreadable good body =>
      rw [← Http.Response.isOk_iff] at good
      simp [tokenOf, good, body, networkError_eq, tokenLost]
  | shape good body wrong =>
      rw [← Http.Response.isOk_iff] at good
      simp [tokenOf, good, body, wrong]

/-- What hands out no token fails in one of the ways. -/
theorem exists_fails_of_ofReply? (none : TokenGrant.ofReply? reply = none) :
    ∃ e, FailsToGrant reply e := by
  cases reply with
  | error failure => exact ⟨_, .lost⟩
  | ok response =>
      by_cases good : response.Succeeds
      · cases body : response.json with
        | error failure => exact ⟨_, .unreadable good body⟩
        | ok answer =>
            refine ⟨_, .shape good body ?_⟩
            rw [← Http.Response.isOk_iff] at good
            simpa [TokenGrant.ofReply?, good, body, Except.toOption] using none
      · exact ⟨_, .status good⟩

section Entry

variable {home : Zone} {response : Http.Response}

theorem entryOf_of_refused (refused : response.Refuses) :
    entryOf home (.ok response) =
      .error (.authFailed response.statusLine (some response.status)) :=
  if_pos ((isRefusal_ok response).mpr refused)

theorem entryOf_of_bad (accepted : ¬ response.Refuses) (bad : ¬ response.Succeeds) :
    entryOf home (.ok response) = .error (.networkError response.statusLine none) := by
  rw [← Http.Response.isOk_iff, Bool.not_eq_true] at bad
  refine (if_neg (mt (isRefusal_ok response).mp accepted)).trans ?_
  rw [bad]
  rfl

/-- What a body that was asked for rightly says. -/
theorem entryOf_of_good (accepted : ¬ response.Refuses) (good : response.Succeeds) :
    entryOf home (.ok response) =
      match response.json with
      | .error failure => .error (networkError failure calendarLost)
      | .ok answer =>
        match CalendarEntry.listOfJson? answer with
        | none => .error (.invalidResponse "Invalid calendar response format" (some answer))
        | some entries => CalendarEntry.selectLatest home entries := by
  rw [← Http.Response.isOk_iff] at good
  refine (if_neg (mt (isRefusal_ok response).mp accepted)).trans ?_
  rw [good]
  rfl

/-- An answer has no entry exactly in one of the ways to fail. -/
theorem entryOf_eq_error_iff : entryOf home reply = .error e ↔ FailsToTell reply e := by
  constructor
  · intro failed
    cases reply with
    | error failure =>
        rw [entryOf, networkError_eq] at failed
        cases failed
        exact .lost
    | ok response =>
        by_cases refused : response.Refuses
        · rw [entryOf_of_refused refused] at failed
          cases failed
          exact .refused refused
        by_cases good : response.Succeeds
        · rw [entryOf_of_good refused good] at failed
          cases body : response.json with
          | error failure =>
              simp only [body, networkError_eq] at failed
              cases failed
              exact .unreadable refused good body
          | ok answer =>
              rw [body] at failed
              rcases listed : CalendarEntry.listOfJson? answer with - | - | ⟨entry, rest⟩
              · simp only [listed] at failed
                cases failed
                exact .shape refused good body listed
              · simp only [listed] at failed
                cases failed
                exact .empty refused good body listed
              · simp only [listed] at failed
                cases failed
        · rw [entryOf_of_bad refused good] at failed
          cases failed
          exact .status refused good
  · intro fails
    cases fails with
    | lost =>
        rw [entryOf, networkError_eq]
        rfl
    | refused refused => exact entryOf_of_refused refused
    | status accepted bad => exact entryOf_of_bad accepted bad
    | unreadable accepted good body =>
        simp only [entryOf_of_good accepted good, body, networkError_eq, calendarLost]
    | shape accepted good body wrong => simp only [entryOf_of_good accepted good, body, wrong]
    | empty accepted good body none =>
        simp only [entryOf_of_good accepted good, body, none]
        rfl

end Entry

section Result

variable {service : CalendarService} {alarm : Http.Alarm} {home : Zone} {kept : Option Token}
  {startedAt checkedAt askedAt : Float} {answers : List (Http.Reply × Float)}

/-- A lookup that waits for the calendar ends with what it is told. -/
theorem result_of_calendar (token : Text) :
    (follow service alarm home kept
      (.asks (service.calendarRequest token) ⟨startedAt, .calendar token⟩) answers).result =
      answers.head?.map fun answer => entryOf home answer.1 := by
  cases answers with
  | nil => rfl
  | cons answer rest =>
      simp only [follow, resume, List.head?_cons, Option.map_some]
      by_cases refused : isRefusal answer.1 = true <;> simp [refused, follow]

variable (ready : alarm service.timeout = none)

include ready

theorem result_of_usable {token : Token}
    (usable : (kept.filter fun token => Token.isUsable token.expiresAt checkedAt) = some token) :
    (perform service alarm home kept startedAt checkedAt askedAt answers).result =
      answers.head?.map fun answer => entryOf home answer.1 := by
  simp only [perform, start, usable, askCalendar_of_ready ready]
  exact result_of_calendar token.value

variable (unusable :
  (kept.filter fun token => Token.isUsable token.expiresAt checkedAt) = none)

include unusable

/-- A lookup that is handed out a token ends with what the calendar tells. -/
theorem result_of_granted {grant : TokenGrant}
    (granted : (answers.head?.bind fun answer => TokenGrant.ofReply? answer.1) = some grant) :
    (perform service alarm home kept startedAt checkedAt askedAt answers).result =
      answers[1]?.map fun answer => entryOf home answer.1 := by
  simp only [perform, start, unusable, askToken_of_ready ready]
  cases answers with
  | nil => cases granted
  | cons answer rest =>
      have handed := toOption_tokenOf askedAt answer.1
      rw [List.head?_cons, Option.bind_some] at granted
      rw [granted] at handed
      cases taken : tokenOf askedAt answer.1 with
      | error e => rw [taken] at handed; cases handed
      | ok token =>
          have result :=
            @result_of_calendar service alarm home (some token) startedAt rest token.value
          rw [List.head?_eq_getElem?] at result
          simpa only [follow, resume, taken, askCalendar_of_ready ready, List.getElem?_cons_succ]
            using result

/-- A lookup that is handed out no token ends with the reason. -/
theorem result_of_fails {answer : Http.Reply × Float} (first : answers.head? = some answer)
    (fails : FailsToGrant answer.1 e) :
    (perform service alarm home kept startedAt checkedAt askedAt answers).result =
      some (.error e) := by
  obtain ⟨rest, rfl⟩ := List.head?_eq_some_iff.mp first
  simp only [perform, start, unusable, askToken_of_ready ready, follow, resume,
    tokenOf_of_fails fails]

/-- A lookup whose first request is not answered does not end. -/
theorem result_of_nil :
    (perform service alarm home kept startedAt checkedAt askedAt []).result = none := by
  simp only [perform, start, unusable, askToken_of_ready ready, follow]

end Result

end CalendarLookup

namespace LookupCall

variable (call : LookupCall) (alarm : Http.Alarm) (home : Zone) (kept : Option Token)

/-- The kept token, if it can still be used. -/
def reusable? : Option Token :=
  kept.filter fun token => Token.isUsable token.expiresAt call.checkedAt

/-- The token in hand for the calendar: one that is used again, or one that is handed out. -/
def inHand? : Option Token :=
  (call.reusable? kept).or (call.granted?.map fun grant => grant.token call.askedAt)

/-- The answer to the request for the calendar. -/
def told? : Option Http.Reply :=
  (call.answers[if (call.reusable? kept).isSome then 0 else 1]?).map Prod.fst

/-- What the calendar leaves of the token that it was asked with. -/
def keptAfter (token : Token) : Option Token :=
  if (call.told? kept).any CalendarLookup.isRefusal then none else some token

variable {call kept}

/-- A lookup that asks for the calendar with a token comes to what the calendar tells. -/
structure AsksWith (course : LookupCourse) (call : LookupCall) (home : Zone)
    (kept : Option Token) (token : Token) : Prop where
  sent : course.requests =
    (if (call.reusable? kept).isSome then [] else [call.service.tokenRequest]) ++
      [call.service.calendarRequest token.value]
  keeps : course.kept = call.keptAfter kept token
  ends : course.result = (call.told? kept).map (CalendarLookup.entryOf home)

section Ready

variable {alarm} (ready : alarm call.service.timeout = none)

include ready

/-- A token that can be used again is the one that the calendar is asked with. -/
theorem asksWith_of_reusable {token : Token} (usable : call.reusable? kept = some token) :
    AsksWith (call.course alarm home kept) call home kept token := by
  have same : kept = some token := (Option.filter_eq_some_iff.mp usable).1
  obtain ⟨sent, keeps⟩ := @CalendarLookup.perform_of_usable call.service alarm home kept
    call.answers ready call.startedAt call.checkedAt call.askedAt token usable
  have told : call.told? kept = call.answers.head?.map Prod.fst := by
    rw [told?, usable, Option.isSome_some, if_pos rfl, List.head?_eq_getElem?]
  refine ⟨?_, ?_, ?_⟩
  · rw [usable]
    exact sent
  · rw [keptAfter, told, Option.any_map, ← same]
    exact keeps
  · rw [told, Option.map_map]
    exact CalendarLookup.result_of_usable ready usable

/-- A token that is handed out is the one that the calendar is asked with. -/
theorem asksWith_of_granted {grant : TokenGrant} (unusable : call.reusable? kept = none)
    (granted : call.granted? = some grant) :
    AsksWith (call.course alarm home kept) call home kept (grant.token call.askedAt) := by
  have asked := @CalendarLookup.perform_of_unusable call.service alarm home kept call.answers
    ready call.startedAt call.checkedAt call.askedAt unusable
  rw [show call.answers.head?.bind _ = some grant from granted] at asked
  obtain ⟨sent, keeps⟩ := asked
  have told : call.told? kept = call.answers[1]?.map Prod.fst := by
    rw [told?, unusable]
    rfl
  refine ⟨?_, ?_, ?_⟩
  · rw [unusable]
    exact sent
  · rw [keptAfter, told, Option.any_map]
    exact keeps
  · rw [told, Option.map_map]
    exact CalendarLookup.result_of_granted ready unusable granted

/-- The calendar is asked with the token in hand. -/
theorem asksWith_of_inHand {token : Token} (inHand : call.inHand? kept = some token) :
    AsksWith (call.course alarm home kept) call home kept token := by
  rw [inHand?] at inHand
  cases usable : call.reusable? kept with
  | some reused =>
      rw [usable, Option.some_or] at inHand
      rw [← Option.some.inj inHand]
      exact asksWith_of_reusable home ready usable
  | none =>
      rw [usable, Option.none_or] at inHand
      obtain ⟨grant, granted, rfl⟩ := Option.map_eq_some_iff.mp inHand
      exact asksWith_of_granted home ready usable granted

/-- A lookup that has no token in hand stops before the calendar. -/
structure StopsBefore (course : LookupCourse) (call : LookupCall) (kept : Option Token) :
    Prop where
  sent : course.requests = [call.service.tokenRequest]
  keeps : course.kept = kept
  waits : call.answers.head? = none → course.result = none
  ends : ∀ answer, call.answers.head? = some answer →
    ∃ e, course.result = some (.error e) ∧ FailsToGrant answer.1 e

theorem stopsBefore_of_inHand (none : call.inHand? kept = none) :
    call.reusable? kept = .none ∧ StopsBefore (call.course alarm home kept) call kept := by
  obtain ⟨unusable, ungranted⟩ := Option.or_eq_none_iff.mp none
  rw [Option.map_eq_none_iff] at ungranted
  have asked := @CalendarLookup.perform_of_unusable call.service alarm home kept call.answers
    ready call.startedAt call.checkedAt call.askedAt unusable
  rw [show call.answers.head?.bind _ = .none from ungranted] at asked
  refine ⟨unusable, asked.1, asked.2, fun silent => ?_, fun answer first => ?_⟩
  · rw [course, List.head?_eq_none_iff.mp silent]
    exact CalendarLookup.result_of_nil ready unusable
  · rw [granted?, first, Option.bind_some] at ungranted
    obtain ⟨e, fails⟩ := CalendarLookup.exists_fails_of_ofReply? ungranted
    exact ⟨e, CalendarLookup.result_of_fails ready unusable first fails, fails⟩

/-- If the alarms can be set, a lookup ends once its requests have been answered. -/
theorem isSome_result_iff :
    (call.course alarm home kept).result.isSome ↔
      (call.course alarm home kept).requests.length ≤ call.answers.length := by
  cases inHand : call.inHand? kept with
  | some token =>
      have asks := asksWith_of_inHand home ready inHand
      rw [asks.ends, asks.sent, told?]
      cases call.reusable? kept <;> simp [Nat.succ_le_iff]
  | none =>
      obtain ⟨-, stops⟩ := stopsBefore_of_inHand home ready inHand
      rw [stops.sent]
      cases answers : call.answers with
      | nil => simp [stops.waits (congrArg List.head? answers)]
      | cons answer rest =>
          obtain ⟨e, result, -⟩ := stops.ends answer (congrArg List.head? answers)
          simp [result]

end Ready

variable (call kept)

/-- Whatever the kept token, the clock and the answers are, a lookup sends at most one request for
a token and after it at most one for the calendar, this one only with a token in hand. It ends once
they are answered. Without a token in hand it ends with the reason that the answer gives for that,
and the kept token is left as it was. With one it fails exactly if the calendar tells nothing, and
for the reason that the answer gives; the token that the calendar was asked with is kept, unless
the calendar refuses it. If the alarm of a request cannot be set, the lookup sends nothing, leaves
the kept token as it was and ends as it does when its first request is lost. -/
theorem failures_by_stage :
    let course := call.course alarm home kept
    let service := call.service
    (∀ failure, alarm service.timeout = some failure →
      let message : Text :=
        if (call.reusable? kept).isSome then "Failed to fetch tempo calendar"
        else "Failed to fetch access token"
      course.requests = [] ∧ course.kept = kept ∧
        course.result = some (.error
          (.networkError (failure.wording message) (some (.fault failure.toFault))))) ∧
    (alarm service.timeout = none →
      course.requests =
          (if (call.reusable? kept).isSome then [] else [service.tokenRequest]) ++
            ((call.inHand? kept).map fun token => service.calendarRequest token.value).toList ∧
        (course.result.isSome ↔ course.requests.length ≤ call.answers.length) ∧
        (call.inHand? kept = none →
          course.kept = kept ∧
            ∀ answer, call.answers.head? = some answer →
              ∃ e, course.result = some (.error e) ∧ FailsToGrant answer.1 e) ∧
        ∀ token, call.inHand? kept = some token → ∀ reply, call.told? kept = some reply →
          let isRefused := ∃ response, reply = .ok response ∧ response.Refuses
          (isRefused → course.kept = none) ∧ (¬ isRefused → course.kept = some token) ∧
            ∀ e, course.result = some (.error e) ↔ FailsToTell reply e) := by
  intro course service
  refine ⟨fun failure refused => ?_, fun ready => ?_⟩
  · obtain ⟨silent, keeps, lost⟩ := CalendarLookup.perform_of_refused home kept call.answers
      refused call.startedAt call.checkedAt call.askedAt
    refine ⟨silent, keeps, ?_⟩
    rw [CalendarLookup.networkError_eq] at lost
    exact lost
  have settled : course.result.isSome ↔ _ := isSome_result_iff home ready
  refine ⟨?_, settled, fun none => ?_, fun token inHand reply told => ?_⟩
  · cases inHand : call.inHand? kept with
    | some token => exact (asksWith_of_inHand home ready inHand).sent
    | none =>
        obtain ⟨unusable, stops⟩ := stopsBefore_of_inHand home ready inHand
        rw [unusable]
        exact stops.sent
  · obtain ⟨-, stops⟩ := stopsBefore_of_inHand home ready none
    exact ⟨stops.keeps, stops.ends⟩
  · have asks := asksWith_of_inHand home ready inHand
    rw [asks.keeps, asks.ends, keptAfter, told, Option.any_some, Option.map_some]
    intro isRefused
    refine ⟨fun refused => ?_, fun accepted => ?_, fun e => ?_⟩
    · rw [if_pos (CalendarLookup.isRefusal_iff.mpr refused)]
    · rw [if_neg (mt CalendarLookup.isRefusal_iff.mp accepted)]
    · rw [Option.some.injEq]
      exact CalendarLookup.entryOf_eq_error_iff

/-- The kept token has expired, a new one is handed out, and then the answer of the calendar is
given up while its body is read. The new token is kept for the next lookup. Where the milliseconds
after which a request is given up are not a whole number, nothing is sent. -/
theorem failures_of_late_body :
    let alarm := Http.Alarm.wholeMilliseconds
    let service (timeout : Float) : CalendarService :=
      ⟨"id", "secret", "token", "calendar", timeout⟩
    let handedOut : Http.Reply := .ok ⟨200, "OK", .text r#"{"access_token":"second"}"#⟩
    let aborted : Fault := ⟨"AbortError", "This operation was aborted"⟩
    let late : Http.Reply := .ok ⟨200, "OK", .broken (.fault aborted)⟩
    let courseOf (timeout : Float) := LookupCall.course
      ⟨service timeout, 0, 0, 0, [(handedOut, 100), (late, 5100)]⟩ alarm ⟨0⟩ (some ⟨"first", 59999⟩)
    ((courseOf 5000).requests =
        [(service 5000).tokenRequest, (service 5000).calendarRequest "second"] ∧
      (courseOf 5000).kept = some ⟨"second", 3600000⟩ ∧
      (courseOf 5000).result =
        some (.error (.networkError "Request timed out" (some (.fault aborted))))) ∧
    (courseOf 2500.5).requests = [] ∧ (courseOf 2500.5).kept = some ⟨"first", 59999⟩ ∧
      (courseOf 2500.5).result =
        some (.error (.networkError "Failed to fetch access token"
          (some (.fault Fault.outOfRange)))) := by
  intro alarm service handedOut aborted late courseOf
  let callWith (timeout : Float) : LookupCall :=
    ⟨service timeout, 0, 0, 0, [(handedOut, 100), (late, 5100)]⟩
  have expired : ¬ Token.isUsable 59999 0 = true := by decide +kernel
  have unusable (timeout : Float) : (callWith timeout).reusable? (some ⟨"first", 59999⟩) = none :=
    if_neg expired
  constructor
  · have granted : (callWith 5000).granted? = some ⟨"second", none⟩ := by decide +kernel
    have expiry : Token.expiry 3600 0 = 3600000 := by decide +kernel
    have inHand : (callWith 5000).inHand? (some ⟨"first", 59999⟩) = some ⟨"second", 3600000⟩ := by
      rw [inHand?, unusable, granted, ← expiry]
      rfl
    have told : (callWith 5000).told? (some ⟨"first", 59999⟩) = some late := by
      rw [told?, unusable]
      rfl
    obtain ⟨sent, -, -, outcome⟩ :=
      ((callWith 5000).failures_by_stage alarm ⟨0⟩ (some ⟨"first", 59999⟩)).2 (by decide +kernel)
    obtain ⟨-, keeps, fails⟩ := outcome _ inHand late told
    have accepted : ¬ Http.Response.Refuses ⟨200, "OK", .broken (.fault aborted)⟩ := by
      unfold Http.Response.Refuses
      decide +kernel
    have good : Http.Response.Succeeds ⟨200, "OK", .broken (.fault aborted)⟩ := by
      unfold Http.Response.Succeeds
      decide +kernel
    refine ⟨?_, keeps ?_, ?_⟩
    · rw [unusable, inHand] at sent
      exact sent
    · rintro ⟨response, same, refused⟩
      rw [← Except.ok.inj same] at refused
      exact accepted refused
    · exact (fails _).mpr (.unreadable accepted good rfl)
  · have refused : alarm 2500.5 = some (.fault Fault.outOfRange) := if_neg (by decide +kernel)
    obtain ⟨silent, keeps, lost⟩ :=
      ((callWith 2500.5).failures_by_stage alarm ⟨0⟩ (some ⟨"first", 59999⟩)).1 _ refused
    rw [unusable] at lost
    exact ⟨silent, keeps, lost⟩

end LookupCall

end MeterSignals
