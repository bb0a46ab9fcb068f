/-
# The gateway as a whole

The gateway reads lines until the input ends or it is asked to stop. Then it waits for the
calendar lookup that may still be on its way, closes the relay, ends the connection to the
broker and is done. It keeps reacting to what the broker's client and the user say even
after that.

Nothing is sent here. A step gives the effects that are to be carried out, and what the
outside answers comes back as an event, or is known beforehand as the surroundings.
-/

import MeterSignals.Broker.Client
import MeterSignals.Config.Settings
import MeterSignals.Stream.Run

namespace MeterSignals

/-- How the outside behaves where it answers at once. -/
structure Surroundings where
  /-- The local time zone. -/
  home : Zone
  /-- What creating a client of the broker throws. -/
  connectThrown : Option Failure
  /-- What closing the relay throws. -/
  closeThrown : Option Failure
  /-- What the socket reports for every datagram. -/
  sendFailure : Option Failure
  /-- What becomes of each message that is handed to a client, counted over the run. -/
  acceptance : Nat → Acceptance
  /-- What setting the alarm of a request throws. -/
  alarm : Http.Alarm

/-- What the gateway does to the outside. -/
inductive GatewayEffect
  | datagram (datagram : Datagram)
  | broker (effect : BrokerEffect)
  | request (request : Http.Request)
  | exit (status : Nat)

/-- How far the gateway has come. -/
inductive Phase
  | reading
  /-- The input has ended; a calendar lookup is still on its way. -/
  | draining
  | stopped
  deriving DecidableEq

/-- The state of the gateway. -/
structure Gateway where
  config : Config
  broker : Broker GatewayNotice
  run : StreamRun
  /-- The token that is kept for later lookups. -/
  token : Option Token
  /-- The calendar lookup on its way. -/
  lookup : Option CalendarLookup
  reader : LineReader
  phase : Phase
  /-- How many messages have been handed to clients. -/
  handedOver : Nat

/-- Something that happens to the gateway. -/
inductive GatewayEvent
  /-- Bytes arrive. Nothing happens if there are none. -/
  | input (bytes : List UInt8)
  /-- The input ends. -/
  | endOfInput
  /-- The client of the broker reports something, which may be of no interest here, and is
  then connected or not. -/
  | client (event : Option BrokerEvent) (connected : Bool)
  /-- Somebody asks the gateway to stop. -/
  | stop (signal : StopSignal)
  /-- The last request of the calendar lookup is answered. -/
  | answer (reply : Http.Reply)

/-- A gateway after a step, with what it does and what it reports. -/
structure GatewayStep where
  gateway : Gateway
  effects : List GatewayEffect
  notices : List Notice

namespace GatewayStep

/-- A step that does nothing. -/
def still (gateway : Gateway) : GatewayStep := ⟨gateway, [], []⟩

/-- A step after another one. -/
def andThen (step : GatewayStep) (next : Gateway → GatewayStep) : GatewayStep :=
  let more := next step.gateway
  ⟨more.gateway, step.effects ++ more.effects, step.notices ++ more.notices⟩

/-- A step with a report in front of it. -/
def after (notice : Notice) (step : GatewayStep) : GatewayStep :=
  { step with notices := notice :: step.notices }

end GatewayStep

namespace Gateway

/-- What is written when the gateway starts. -/
def banner : List Text :=
  let rule : Text := Text.ofChars (List.replicate 40 '=')
  [Text.empty, rule, "  TELEINFO SIGNALS", rule, Text.empty, Text.empty]

/-- What the gateway does when the broker connects and disconnects: it says so. -/
def handlers : BrokerHandlers GatewayNotice :=
  ⟨some .publishingEnabled, some .publishingPaused, none⟩

/-- The reports about the settings. -/
def settingsNotices (config : Config) : List GatewayNotice :=
  [ .configured config.summary,
    match config.relayTarget with
    | some target => .relayEnabled target
    | none => .relayDisabled,
    match config.calendar with
    | some (service, window) => .fallbackEnabled service.calendarUrl window
    | none => .fallbackDisabled ]

/-- The gateway starts: it reports its settings, connects to the broker and opens the
relay. -/
def start (config : Config) (outside : Surroundings) : GatewayStep :=
  let (broker, _, effects, brokerNotices) :=
    Broker.initial.connect config.brokerUrl config.clientId config.retain handlers
      outside.connectThrown
  let fallback := config.calendar.map fun (_, window) => Fallback.initial outside.home window
  let stream := Stream.initial config.streamOptions config.relayTarget.isSome fallback
  { gateway :=
      { config := config
        broker := broker
        run := StreamRun.initial stream
        token := none
        lookup := none
        reader := LineReader.initial
        phase := .reading
        handedOver := 0 }
    effects := effects.map .broker
    notices :=
      (settingsNotices config).map .gateway ++ brokerNotices.map .broker ++
        (config.relayTarget.map fun target => Notice.relay (.ready target)).toList }

/-- One event of the stream. -/
def advance (gateway : Gateway) (event : RunEvent) : GatewayStep :=
  let step := gateway.run.step event
  ⟨{ gateway with run := step.run }, [], step.notices⟩

/-- The relay is closed and the connection to the broker ended. -/
def shutDown (outside : Surroundings) (gateway : Gateway) : GatewayStep :=
  let stopped : Gateway := { gateway with phase := .stopped }
  match gateway.config.relayTarget, outside.closeThrown with
  | some _, some failure => ⟨stopped, [.exit 1], [.gateway (.crashed failure)]⟩
  | _, _ =>
    let (broker, effects, notices) := gateway.broker.disconnect
    ⟨{ stopped with broker := broker }, effects.map .broker,
      notices.map .broker ++ [.gateway .shutdownComplete]⟩

/-- What happens next in a calendar lookup at `now`, with what is reported. -/
def pursue (outside : Surroundings) (now : Float) (gateway : Gateway) (progress : LookupProgress)
    (notices : List CalendarNotice) : GatewayStep :=
  let notices := notices.map Notice.calendar
  match progress with
  | .asks request lookup => ⟨{ gateway with lookup := some lookup }, [.request request], notices⟩
  | .ends result =>
    let outcome := match result with
      | .ok entry => LookupOutcome.entry entry
      | .error e => LookupOutcome.error e
    GatewayStep.mk { gateway with lookup := none } [] notices
      |>.andThen (·.advance (.lookupFinished (Instant.ofNumber? now) outcome))
      |>.andThen (fun p => if p.phase = .draining then p.shutDown outside else .still p)

/-- Begin a calendar lookup at `now`. If nothing can be sent it ends at once. -/
def beginLookup (outside : Surroundings) (now : Float) (gateway : Gateway) : GatewayStep :=
  match gateway.config.calendar with
  | none => .still gateway
  | some (service, _) =>
    let (progress, notices) :=
      CalendarLookup.start service outside.alarm gateway.token now now now
    pursue outside now gateway progress notices

/-- Send a line to the observer. -/
def relay (outside : Surroundings) (number : Nat) (text : Text) (gateway : Gateway) :
    GatewayStep :=
  match gateway.config.relayTarget with
  | none => .still gateway
  | some target =>
    let step :=
      gateway.advance (.relaySettled number (.ok (RelayTarget.sendResult outside.sendFailure)))
    { step with effects := [.datagram (target.datagram text)] }

/-- Publish a batch. -/
def publish (outside : Surroundings) (number : Nat) (batch : Batch) (gateway : Gateway) :
    GatewayStep :=
  let acceptances := (List.range batch.length).map fun k =>
    outside.acceptance (gateway.handedOver + k)
  let (result, effects, notices) := gateway.broker.publish batch acceptances
  let handed : Gateway := { gateway with handedOver := gateway.handedOver + effects.length }
  GatewayStep.andThen ⟨handed, effects.map .broker, notices.map .broker⟩
    (·.advance (.publicationSettled number (.ok result)))

/-- A line is read at `now`. It is done before the next one enters. -/
def readLine (outside : Surroundings) (now : Float) (gateway : Gateway) (line : Text) :
    GatewayStep :=
  let entered := gateway.run.step (.line line (Instant.ofNumber? now) none)
  let number := entered.run.count
  let optionally {α : Type} (value : Option α) (step : α → Gateway → GatewayStep)
      (gateway : Gateway) : GatewayStep :=
    match value with
    | some a => step a gateway
    | none => .still gateway
  GatewayStep.mk { gateway with run := entered.run } [] entered.notices
    |>.andThen (fun p => if entered.asked then p.beginLookup outside now else .still p)
    |>.andThen (optionally entered.relay (relay outside number))
    |>.andThen (optionally entered.batch (publish outside number))
    |>.andThen (·.advance .resumed)

/-- The lines that have been completed are read. -/
def readLines (outside : Surroundings) (now : Float) (gateway : Gateway) : GatewayStep :=
  let (lines, reader) := gateway.reader.take
  lines.foldl (fun step line => step.andThen (readLine outside now · line))
    (.still { gateway with reader := reader })

/-- No more lines are read. The gateway shuts down as soon as no lookup is on its way. -/
def endReading (outside : Surroundings) (gateway : Gateway) : GatewayStep :=
  GatewayStep.after (.gateway (.inputEnded gateway.run.count)) <|
    match gateway.lookup with
    | some _ => .still { gateway with phase := .draining }
    | none => gateway.shutDown outside

/-- The lookup on its way gets an answer at `now`. -/
def answerLookup (outside : Surroundings) (now : Float) (gateway : Gateway)
    (reply : Http.Reply) : GatewayStep :=
  match gateway.lookup, gateway.config.calendar with
  | some lookup, some (service, _) =>
    let (token, progress, notices) :=
      lookup.resume service outside.alarm outside.home gateway.token reply now
    pursue outside now { gateway with token := token } progress notices
  | _, _ => .still gateway

/-- One event at `now`. The input is closed before a last line that has no end is read;
whoever asks the gateway to stop loses that line. -/
def step (outside : Surroundings) (now : Float) (gateway : Gateway) : GatewayEvent → GatewayStep
  | .input bytes =>
    if gateway.phase = .reading && !bytes.isEmpty then
      readLines outside now { gateway with reader := gateway.reader.feed bytes }
    else .still gateway
  | .endOfInput =>
    if gateway.phase = .reading then
      GatewayStep.after (.input .closed) <|
        (readLines outside now { gateway with reader := gateway.reader.finish }).andThen
          (endReading outside)
    else .still gateway
  | .client event connected =>
    match gateway.broker.created with
    | 0 => .still gateway
    | last + 1 =>
      let broker := gateway.broker.setConnected last connected
      let (calls, notices) := (event.map broker.emit).getD ([], [])
      ⟨{ gateway with broker := broker }, [],
        notices.map .broker ++ calls.map fun call => .gateway call.callback⟩
  | .stop signal =>
    GatewayStep.after (.gateway (.stopping signal)) <|
      if gateway.phase = .reading then
        GatewayStep.after (.input .closed) (gateway.endReading outside)
      else .still gateway
  | .answer reply => answerLookup outside now gateway reply

end Gateway

end MeterSignals
