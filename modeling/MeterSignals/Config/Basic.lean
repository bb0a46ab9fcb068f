/-
# The configuration

All settings come from the environment. Each has a default, apart from the address of the
broker, which has to be given.
-/

import MeterSignals.Config.Variable
import MeterSignals.Log.Setup

namespace MeterSignals

/-- The settings, as they are read from the environment. -/
structure Config where
  environment : Log.Environment
  appName : Text
  logLevel : Log.Threshold
  relayEnabled : Bool
  relayHost : Text
  relayPort : Float
  brokerUrl : Text
  clientId : Option Text
  retain : Bool
  skip : Float
  topicLoadShed : Text
  topicHotWater : Text
  topicPeak : Text
  topicDayColor : Text
  topicNextDayColor : Text
  topicPower : Text
  threshold : Float
  timeConstant : Float
  redPeak : Float
  fieldValidity : Text
  fieldPower : Text
  fieldTariff : Text
  fieldRelays : Text
  fieldStatus : Text
  fieldMessage : Text
  calendarClientId : Option Text
  calendarClientSecret : Option Text
  tokenUrl : Text
  calendarUrl : Text
  /-- The local time at which the fetch window opens, in hours and minutes. -/
  fetchStart : Nat × Nat
  fetchMinutes : Float
  calendarTimeout : Float

namespace Config

open Rule

/-- The token endpoint of the calendar service. -/
def defaultTokenUrl : Text := "https://digital.iservices.rte-france.com/token/oauth/"

/-- The calendar endpoint of the calendar service. -/
def defaultCalendarUrl : Text :=
  "https://digital.iservices.rte-france.com/open_api/tempo_like_supply_contract/v1/tempo_like_calendars"

/-- The names of all variables. -/
def variableNames : List String :=
  [ "NODE_ENV", "APP_NAME", "LOG_LEVEL", "UDP_RELAY_ENABLED", "UDP_RELAY_HOST", "UDP_RELAY_PORT",
    "MQTT_BROKER_URL", "MQTT_CLIENT_ID", "MQTT_RETAIN", "MQTT_SKIP", "MQTT_TOPIC_LOAD_SHED",
    "MQTT_TOPIC_HOT_WATER", "MQTT_TOPIC_PEAK", "MQTT_TOPIC_DAY_COLOR",
    "MQTT_TOPIC_NEXT_DAY_COLOR", "MQTT_TOPIC_POWER", "VA_THRESHOLD", "FILTER_TIME_CONSTANT",
    "RED_PEAK_TARIFF_INDEX", "FIELD_VALIDITY", "FIELD_POWER", "FIELD_TARIFF", "FIELD_RELAYS",
    "FIELD_STATUS", "FIELD_MESSAGE", "TEMPO_CLIENT_ID", "TEMPO_CLIENT_SECRET", "TEMPO_TOKEN_URL",
    "TEMPO_CALENDAR_URL", "TEMPO_FETCH_START", "TEMPO_FETCH_WINDOW_MINUTES", "TEMPO_TIMEOUT_MS" ]

/-- Read the settings from the environment. -/
def ofEnvironment (env : Environment) : Validated Config :=
  mk
    <$> (oneOf Log.Environment.all (·.label) .development).read env "NODE_ENV"
    <*> (text "TeleinfoSignals").read env "APP_NAME"
    <*> (oneOf Log.Threshold.all (·.label) (.atLeast .info)).read env "LOG_LEVEL"
    <*> (switch true).read env "UDP_RELAY_ENABLED"
    <*> (filledText "127.0.0.1").read env "UDP_RELAY_HOST"
    <*> (number [whole, atLeast 1, atMost 65535] 8094).read env "UDP_RELAY_PORT"
    <*> (required "MQTT_BROKER_URL is required").read env "MQTT_BROKER_URL"
    <*> optionalText.read env "MQTT_CLIENT_ID"
    <*> (switch false).read env "MQTT_RETAIN"
    <*> (number [whole, atLeast 0] 8).read env "MQTT_SKIP"
    <*> (text "sensors/switch/delest").read env "MQTT_TOPIC_LOAD_SHED"
    <*> (text "sensors/switch/ecs").read env "MQTT_TOPIC_HOT_WATER"
    <*> (text "sensors/tic/hphc").read env "MQTT_TOPIC_PEAK"
    <*> (text "sensors/tic/tempo/today").read env "MQTT_TOPIC_DAY_COLOR"
    <*> (text "sensors/tic/tempo/tomorrow").read env "MQTT_TOPIC_NEXT_DAY_COLOR"
    <*> (text "sensors/tic/power").read env "MQTT_TOPIC_POWER"
    <*> (number [positive] 9000).read env "VA_THRESHOLD"
    <*> (number [atLeast 1] 60).read env "FILTER_TIME_CONSTANT"
    <*> (number [whole, atLeast 0] 6).read env "RED_PEAK_TARIFF_INDEX"
    <*> (text "_tvalide").read env "FIELD_VALIDITY"
    <*> (text "SINSTS").read env "FIELD_POWER"
    <*> (text "NTARF").read env "FIELD_TARIFF"
    <*> (text "RELAIS").read env "FIELD_RELAYS"
    <*> (text "STGE").read env "FIELD_STATUS"
    <*> (text "MSG1").read env "FIELD_MESSAGE"
    <*> optionalText.read env "TEMPO_CLIENT_ID"
    <*> optionalText.read env "TEMPO_CLIENT_SECRET"
    <*> (url defaultTokenUrl).read env "TEMPO_TOKEN_URL"
    <*> (url defaultCalendarUrl).read env "TEMPO_CALENDAR_URL"
    <*> (timeOfDay (10, 40)).read env "TEMPO_FETCH_START"
    <*> (number [whole, positive] 10).read env "TEMPO_FETCH_WINDOW_MINUTES"
    <*> (number [positive] 5000).read env "TEMPO_TIMEOUT_MS"

end Config

end MeterSignals
