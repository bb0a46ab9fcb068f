/-
# Calendar entries

The calendar service answers with a list of entries. An entry gives the color of one day,
when the day starts and when the entry was last changed. A document of any other shape is
no answer of the service.
-/

import MeterSignals.Json.Basic
import MeterSignals.Signal.DayColor

namespace MeterSignals

/-- The color of one day. -/
structure CalendarEntry where
  start : Text
  color : DayColor
  updated : Text
  /-- Members that mean nothing here. -/
  others : Json.Members

/-- A token of the calendar service as it was handed out. -/
structure TokenGrant where
  accessToken : Text
  /-- Seconds for which the token is good, where that is said. -/
  lifetime : Option Float
  deriving DecidableEq

namespace CalendarEntry

/-- The names of the members that mean something. -/
def usedNames : List Text := ["start_date", "value", "updated_date"]

/-- The entry of a document that nobody has checked, with everything else it holds. -/
def ofMembers? (members : Json.Members) : Option CalendarEntry := do
  let text (name : Text) : Option Text := (members.lookup name).bind (·.text?)
  let start ← text "start_date"
  let color ← (text "value").bind DayColor.ofLabel?
  let updated ← text "updated_date"
  return ⟨start, color, updated, members.filter fun (name, _) => !usedNames.contains name⟩

/-- The entry of an answer of the service. It may say when its day ends; what else it holds
is left out. -/
def ofJson? (v : Json) : Option CalendarEntry := do
  let finish ← v.optional? "end_date" (·.text?)
  match v with
  | .obj members => do
    let entry ← ofMembers? members
    let others : Json.Members := match finish with
      | some t => [("end_date", .str t)]
      | none => []
    return { entry with others := others }
  | _ => none

/-- An entry as a document. -/
def toJson (entry : CalendarEntry) : Json :=
  let used : Json.Members :=
    [ ("start_date", .str entry.start), ("value", .str entry.color.label),
      ("updated_date", .str entry.updated) ]
  .obj (used ++ entry.others)

/-- The entries of an answer of the service. -/
def listOfJson? (answer : Json) : Option (List CalendarEntry) := do
  let calendar ← answer.get? "tempo_like_calendars"
  let _ ← calendar.optional? "start_date" (·.text?)
  let _ ← calendar.optional? "end_date" (·.text?)
  match calendar.get? "values" with
  | some (.arr entries) => entries.mapM ofJson?
  | _ => none

end CalendarEntry

namespace TokenGrant

/-- The token of an answer of the service. -/
def ofJson? (answer : Json) : Option TokenGrant := do
  let token ← (answer.get? "access_token").bind (·.text?)
  let _ ← answer.optional? "token_type" (·.text?)
  let lifetime ← answer.optional? "expires_in" (·.number?)
  if token.isEmpty then none else some ⟨token, lifetime⟩

end TokenGrant

end MeterSignals
