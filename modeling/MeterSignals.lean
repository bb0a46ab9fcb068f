import MeterSignals.Broker.Client
import MeterSignals.Broker.Error
import MeterSignals.Broker.Notice
import MeterSignals.Calendar.Entry
import MeterSignals.Calendar.Error
import MeterSignals.Calendar.Freshness
import MeterSignals.Calendar.Lookup
import MeterSignals.Calendar.Notice
import MeterSignals.Calendar.Token
import MeterSignals.Config.Basic
import MeterSignals.Config.Document
import MeterSignals.Config.Settings
import MeterSignals.Config.Variable
import MeterSignals.Fallback.Schedule
import MeterSignals.Fallback.Scheduler
import MeterSignals.Fault
import MeterSignals.Gateway.Basic
import MeterSignals.Gateway.Document
import MeterSignals.Gateway.Notice
import MeterSignals.Http
import MeterSignals.Json.Basic
import MeterSignals.Json.Reader
import MeterSignals.Json.Writer
import MeterSignals.Lines
import MeterSignals.Log.Entry
import MeterSignals.Log.Operation
import MeterSignals.Log.Setup
import MeterSignals.Main
import MeterSignals.Notice
import MeterSignals.Number.Decimal
import MeterSignals.Number.Exact
import MeterSignals.Number.Notation
import MeterSignals.Number.Numeral
import MeterSignals.Number.Shortest
import MeterSignals.Proofs.Broker.Callbacks
import MeterSignals.Proofs.Broker.Delivery
import MeterSignals.Proofs.Broker.Session
import MeterSignals.Proofs.Broker.Settlement
import MeterSignals.Proofs.Calendar.Course
import MeterSignals.Proofs.Calendar.Failures
import MeterSignals.Proofs.Calendar.Freshness
import MeterSignals.Proofs.Calendar.Renewal
import MeterSignals.Proofs.Calendar.Selection
import MeterSignals.Proofs.Calendar.TokenLedger
import MeterSignals.Proofs.Config.Reading
import MeterSignals.Proofs.Config.Soundness
import MeterSignals.Proofs.Fallback.Acceptance
import MeterSignals.Proofs.Fallback.Chronicle
import MeterSignals.Proofs.Fallback.Daybreak
import MeterSignals.Proofs.Fallback.Outdated
import MeterSignals.Proofs.Fallback.Scheduler
import MeterSignals.Proofs.Fallback.Traffic
import MeterSignals.Proofs.Fallback.Window
import MeterSignals.Proofs.Json.Completeness
import MeterSignals.Proofs.Json.Grammar
import MeterSignals.Proofs.Json.Keys
import MeterSignals.Proofs.Json.Soundness
import MeterSignals.Proofs.Number.Arithmetic
import MeterSignals.Proofs.Number.Bounds
import MeterSignals.Proofs.Number.Notation
import MeterSignals.Proofs.Number.Order
import MeterSignals.Proofs.Number.Rounding
import MeterSignals.Proofs.Number.Scientific
import MeterSignals.Proofs.Number.Shortest
import MeterSignals.Proofs.Number.Value
import MeterSignals.Proofs.Number.Whole
import MeterSignals.Proofs.Record.Decoding
import MeterSignals.Proofs.Record.Encoding
import MeterSignals.Proofs.Record.Fields
import MeterSignals.Proofs.Record.Integer
import MeterSignals.Proofs.Record.Register
import MeterSignals.Proofs.ShedFilter.Decay
import MeterSignals.Proofs.ShedFilter.Estimate
import MeterSignals.Proofs.ShedFilter.Flag
import MeterSignals.Proofs.ShedFilter.Monotone
import MeterSignals.Proofs.ShedFilter.Range
import MeterSignals.Proofs.Signal.Batch
import MeterSignals.Proofs.Signal.DayColor
import MeterSignals.Proofs.Signal.Parity
import MeterSignals.Proofs.Stream.Batches
import MeterSignals.Proofs.Stream.Completion
import MeterSignals.Proofs.Stream.Errands
import MeterSignals.Proofs.Stream.Failures
import MeterSignals.Proofs.Stream.History
import MeterSignals.Proofs.Stream.Lines
import MeterSignals.Proofs.Stream.Messages
import MeterSignals.Proofs.Stream.NextDay
import MeterSignals.Proofs.Stream.Observation
import MeterSignals.Proofs.Stream.Overflow
import MeterSignals.Proofs.Stream.Payload
import MeterSignals.Proofs.Stream.Reading
import MeterSignals.Proofs.Stream.Relaying
import MeterSignals.Proofs.Stream.Relevance
import MeterSignals.Proofs.Stream.Revision
import MeterSignals.Proofs.Stream.Transcript
import MeterSignals.Proofs.Stream.Underway
import MeterSignals.Proofs.Text.Breaks
import MeterSignals.Proofs.Text.Decimal
import MeterSignals.Proofs.Text.Lines
import MeterSignals.Proofs.Text.Numeral
import MeterSignals.Proofs.Text.Pieces
import MeterSignals.Proofs.Text.Utf8
import MeterSignals.Proofs.Time.Gregorian
import MeterSignals.Proofs.Time.MonthDay
import MeterSignals.Proofs.Time.SameDay
import MeterSignals.Record.Basic
import MeterSignals.Record.Decode
import MeterSignals.Record.Rejection
import MeterSignals.Relay
import MeterSignals.ShedFilter
import MeterSignals.Signal.Batch
import MeterSignals.Signal.DayColor
import MeterSignals.Signal.Derived
import MeterSignals.Signal.MeterMessage
import MeterSignals.Signal.Period
import MeterSignals.Stream.Basic
import MeterSignals.Stream.Flight
import MeterSignals.Stream.Intake
import MeterSignals.Stream.Notice
import MeterSignals.Stream.Run
import MeterSignals.Text.Ascii
import MeterSignals.Text.Base64
import MeterSignals.Text.Basic
import MeterSignals.Text.Blank
import MeterSignals.Text.Utf8
import MeterSignals.Throttle
import MeterSignals.Time.Civil
import MeterSignals.Time.Instant
import MeterSignals.Time.Stamp
import MeterSignals.Url.Basic
import MeterSignals.Url.Host
import MeterSignals.Url.Name.Basic
import MeterSignals.Url.Name.Composition
import MeterSignals.Url.Name.Direction
import MeterSignals.Url.Name.Joining
import MeterSignals.Url.Name.Mapping
import MeterSignals.Url.Name.Punycode
import MeterSignals.Url.Row
