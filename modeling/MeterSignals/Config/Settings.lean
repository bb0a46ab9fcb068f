/-
# What the parts of the program are set to

The settings of each part, put together from the configuration.
-/

import MeterSignals.Calendar.Lookup
import MeterSignals.Config.Basic
import MeterSignals.Fallback.Schedule
import MeterSignals.Gateway.Notice
import MeterSignals.Stream.Intake

namespace MeterSignals.Config

/-- The tariff index that asks for load shedding; zero switches this off. -/
def redPeakIndex (c : Config) : Option Float := if c.redPeak == 0 then none else some c.redPeak

/-- Where lines are relayed to, if they are. -/
def relayTarget (c : Config) : Option RelayTarget :=
  if c.relayEnabled then some ⟨c.relayHost, c.relayPort⟩ else none

/-- The window in which the calendar is asked. -/
def fetchWindow (c : Config) : FetchWindow :=
  ⟨c.fetchStart.1, c.fetchStart.2, (Number.integer? c.fetchMinutes).getD 0⟩

/-- The calendar service and the window in which it is asked, if there are credentials
for it. -/
def calendar (c : Config) : Option (CalendarService × FetchWindow) := do
  let client ← c.calendarClientId
  let secret ← c.calendarClientSecret
  return (⟨client, secret, c.tokenUrl, c.calendarUrl, c.calendarTimeout⟩, c.fetchWindow)

/-- The topics of the signals. -/
def topics (c : Config) : Topics :=
  { loadShed := c.topicLoadShed
    hotWater := c.topicHotWater
    peak := c.topicPeak
    dayColor := c.topicDayColor
    nextDayColor := c.topicNextDayColor
    power := c.topicPower }

/-- The codes of the fields that carry signals. -/
def signalCodes (c : Config) : SignalCodes :=
  { power := c.fieldPower
    tariff := c.fieldTariff
    relays := c.fieldRelays
    status := c.fieldStatus }

/-- The settings of the stream of lines. -/
def streamOptions (c : Config) : StreamOptions :=
  { validity := c.fieldValidity
    codes := c.signalCodes
    message := c.fieldMessage
    filter := ⟨c.threshold, c.timeConstant⟩
    redPeak := c.redPeakIndex
    skip := .ofNumber c.skip
    topics := c.topics }

/-- The settings that are reported at the start. -/
def summary (c : Config) : ConfigurationSummary :=
  { environment := c.environment
    brokerUrl := c.brokerUrl
    retain := c.retain
    skip := c.skip
    threshold := c.threshold
    timeConstant := c.timeConstant
    redPeak := c.redPeakIndex }

end MeterSignals.Config
