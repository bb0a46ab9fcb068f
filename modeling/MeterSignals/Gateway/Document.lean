/-
# Effects and log entries as documents

Whoever carries out the effects of the gateway, or keeps its log, reads them as JSON.
-/

import MeterSignals.Gateway.Basic

namespace MeterSignals

namespace Log

/-- A detail as a value. -/
def Detail.toJson : Detail → Json
  | .value v => v
  | .failure (.value v) => v
  | .failure (.fault f) => .obj [("name", .str f.name), ("message", .str f.message)]

/-- An entry with its details between its level and channel and its text. -/
def Entry.toJson (entry : Entry) : Json :=
  let head : Json.Members :=
    [("level", .str entry.level.label), ("name", .str entry.channel.label)]
  let details : Json.Members :=
    (entry.context.getD []).map fun (name, detail) => (name, detail.toJson)
  .obj (Json.Members.insert "msg" (.str entry.text) (Json.Members.override head details))

end Log

/-- Bytes as a list of numbers. -/
def bytesJson (bytes : List UInt8) : Json := .arr (bytes.map fun b => .int b.toNat)

/-- A datagram and where it goes. -/
def Datagram.toJson (datagram : Datagram) : Json :=
  .obj
    [ ("host", .str datagram.target.host), ("port", .num datagram.target.port),
      ("bytes", bytesJson datagram.bytes) ]

/-- A request. -/
def Http.Request.toJson (request : Http.Request) : Json :=
  .obj
    [ ("method", .str request.method), ("url", .str request.url),
      ("headers", .obj (request.headers.map fun (name, value) => (name, .str value))),
      ("body", .orNull (request.body.map .str)), ("timeoutMs", .num request.timeout) ]

/-- What is asked of the broker's client. -/
def BrokerEffect.toJson : BrokerEffect → Json
  | connect url options =>
    .obj
      [ ("do", .str "connect"), ("url", .str url),
        ("clientId", .orNull (options.clientId.map .str)) ]
  | publish client message options =>
    .obj
      [ ("do", .str "publish"), ("client", .int client), ("topic", .str message.topic),
        ("payload", .str message.payload), ("qos", .int options.qualityOfService),
        ("retain", .bool options.retain) ]
  | finish client => .obj [("do", .str "end"), ("client", .int client)]

/-- An effect under the name of its kind. -/
def GatewayEffect.toJson : GatewayEffect → Json
  | datagram d => .obj [("datagram", d.toJson)]
  | broker e => .obj [("broker", e.toJson)]
  | request r => .obj [("request", r.toJson)]
  | exit status => .obj [("exit", .int status)]

end MeterSignals
