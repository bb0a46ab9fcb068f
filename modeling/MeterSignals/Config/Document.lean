/-
# The configuration as a document

The settings under the names of their variables, and the complaints about an environment
that does not hold a configuration.
-/

import MeterSignals.Config.Basic

namespace MeterSignals

namespace Complaint

/-- The first line about an environment that holds no configuration. -/
def heading : Text := "❌ Invalid configuration:"

/-- The status with which the process ends if there is no configuration. -/
def exitStatus : Nat := 1

/-- All complaints, by variable. -/
def report (complaints : List Complaint) : Json :=
  let messages (texts : List Text) : Json := .arr (texts.map .str)
  let all : Json.Members := [("_errors", messages [])]
  .obj (all ++ complaints.map fun c => (c.name, .obj [("_errors", messages c.messages)]))

end Complaint

/-- What is said about an environment that holds no configuration, and the status with which the
process ends. -/
structure Refusal where
  heading : Text
  report : Json
  status : Nat

/-- Everything that is wrong is said at once. -/
def Complaint.refusal (complaints : List Complaint) : Refusal :=
  ⟨heading, report complaints, exitStatus⟩

namespace Config

/-- The configuration that an environment holds, or the end of the process. -/
def load (env : Environment) : Except Refusal Config :=
  match ofEnvironment env with
  | .ok config => .ok config
  | .invalid complaints => .error (Complaint.refusal complaints)

/-- The settings by the names of their variables; what is left out is not there. -/
def toJson (c : Config) : Json :=
  let members : List (Text × Option Json) :=
    [ ("NODE_ENV", Json.str c.environment.label),
      ("APP_NAME", Json.str c.appName),
      ("LOG_LEVEL", Json.str c.logLevel.label),
      ("UDP_RELAY_ENABLED", Json.bool c.relayEnabled),
      ("UDP_RELAY_HOST", Json.str c.relayHost),
      ("UDP_RELAY_PORT", Json.num c.relayPort),
      ("MQTT_BROKER_URL", Json.str c.brokerUrl),
      ("MQTT_CLIENT_ID", c.clientId.map .str),
      ("MQTT_RETAIN", Json.bool c.retain),
      ("MQTT_SKIP", Json.num c.skip),
      ("MQTT_TOPIC_LOAD_SHED", Json.str c.topicLoadShed),
      ("MQTT_TOPIC_HOT_WATER", Json.str c.topicHotWater),
      ("MQTT_TOPIC_PEAK", Json.str c.topicPeak),
      ("MQTT_TOPIC_DAY_COLOR", Json.str c.topicDayColor),
      ("MQTT_TOPIC_NEXT_DAY_COLOR", Json.str c.topicNextDayColor),
      ("MQTT_TOPIC_POWER", Json.str c.topicPower),
      ("VA_THRESHOLD", Json.num c.threshold),
      ("FILTER_TIME_CONSTANT", Json.num c.timeConstant),
      ("RED_PEAK_TARIFF_INDEX", Json.num c.redPeak),
      ("FIELD_VALIDITY", Json.str c.fieldValidity),
      ("FIELD_POWER", Json.str c.fieldPower),
      ("FIELD_TARIFF", Json.str c.fieldTariff),
      ("FIELD_RELAYS", Json.str c.fieldRelays),
      ("FIELD_STATUS", Json.str c.fieldStatus),
      ("FIELD_MESSAGE", Json.str c.fieldMessage),
      ("TEMPO_CLIENT_ID", c.calendarClientId.map .str),
      ("TEMPO_CLIENT_SECRET", c.calendarClientSecret.map .str),
      ("TEMPO_TOKEN_URL", Json.str c.tokenUrl),
      ("TEMPO_CALENDAR_URL", Json.str c.calendarUrl),
      ("TEMPO_FETCH_START",
        Json.obj [("hour", .int c.fetchStart.1), ("minute", .int c.fetchStart.2)]),
      ("TEMPO_FETCH_WINDOW_MINUTES", Json.num c.fetchMinutes),
      ("TEMPO_TIMEOUT_MS", Json.num c.calendarTimeout) ]
  .obj (members.filterMap fun (name, value) => value.map (name, ·))

end Config

end MeterSignals
