import Wayfinding.Address.Internet
import Wayfinding.Address.Socket
import Wayfinding.Answer.Handler
import Wayfinding.Answer.Metrics
import Wayfinding.Answer.Place
import Wayfinding.Answer.Procedure
import Wayfinding.Answer.Refusal
import Wayfinding.Broker.Backoff
import Wayfinding.Broker.Basic
import Wayfinding.Broker.Channel
import Wayfinding.Broker.Exchange
import Wayfinding.Broker.ReadyQueue
import Wayfinding.Broker.Supervisor
import Wayfinding.CommandLine.Client
import Wayfinding.CommandLine.Option
import Wayfinding.CommandLine.Server
import Wayfinding.Costing
import Wayfinding.Geo.Coordinate
import Wayfinding.Geo.Sphere
import Wayfinding.Journey.Answer
import Wayfinding.Journey.Assembly
import Wayfinding.Journey.Endpoint
import Wayfinding.Journey.HeightService
import Wayfinding.Journey.Heights
import Wayfinding.Journey.Leg
import Wayfinding.Journey.PathItem
import Wayfinding.Journey.Profile
import Wayfinding.Journey.Timeline
import Wayfinding.Journey.Totals
import Wayfinding.Json.Number
import Wayfinding.Json.Reader
import Wayfinding.Json.Token
import Wayfinding.Json.Value
import Wayfinding.Main
import Wayfinding.Matrix.Answer
import Wayfinding.Matrix.Layout
import Wayfinding.Matrix.Radius
import Wayfinding.Message.Enumeration
import Wayfinding.Message.Request
import Wayfinding.Message.Response
import Wayfinding.Mode
import Wayfinding.Number.Binary64
import Wayfinding.Number.Decimal
import Wayfinding.Number.Integer
import Wayfinding.Number.Rounding
import Wayfinding.Projection.Batch
import Wayfinding.Projection.Cache
import Wayfinding.Road.Engine
import Wayfinding.Road.Fixed
import Wayfinding.Road.Path
import Wayfinding.Road.StraightLine
import Wayfinding.Service.Admission
import Wayfinding.Service.Basic
import Wayfinding.Service.Launch
import Wayfinding.Service.Shutdown
import Wayfinding.Service.Worker
import Wayfinding.Settings.Basic
import Wayfinding.Settings.Document
import Wayfinding.Settings.Fault
import Wayfinding.Settings.Load
import Wayfinding.Text.Blank
import Wayfinding.Text.Digit
import Wayfinding.Text.Printable
import Wayfinding.Text.Quoted
import Wayfinding.Text.Utf8
import Wayfinding.Toml.Reader
import Wayfinding.Toml.Text
import Wayfinding.Toml.Value
import Wayfinding.Toml.Word
import Wayfinding.Transport.Client
import Wayfinding.Transport.Codec
import Wayfinding.Transport.Connection
import Wayfinding.Transport.Multipart
import Wayfinding.Url.Basic
import Wayfinding.Url.Fault
import Wayfinding.Url.Host
import Wayfinding.Url.Percent
import Wayfinding.Url.Punycode
import Wayfinding.Wire.Record
import Wayfinding.Wire.Schema
import Wayfinding.Wire.Word
import Wayfinding.Proofs.Broker.ReadyQueue
import Wayfinding.Proofs.Broker.Round
import Wayfinding.Proofs.Broker.Inbox
import Wayfinding.Proofs.Broker.Loop
import Wayfinding.Proofs.Broker.Order
import Wayfinding.Proofs.Broker.Poll
import Wayfinding.Proofs.Answer.Procedure
import Wayfinding.Proofs.Service.Pool
import Wayfinding.Proofs.Service.Manned
import Wayfinding.Proofs.Service.Places
import Wayfinding.Proofs.Service.Accounts
import Wayfinding.Proofs.Service.Hub
import Wayfinding.Proofs.Service.Mail
import Wayfinding.Proofs.Service.Replies
import Wayfinding.Proofs.Transport.Interruption
import Wayfinding.Proofs.Service.Work
import Wayfinding.Proofs.Service.Moves
import Wayfinding.Proofs.Service.Conduct
import Wayfinding.Proofs.Service.Inputs
import Wayfinding.Proofs.Answer.Settled
import Wayfinding.Proofs.Projection.Located
import Wayfinding.Proofs.Matrix.Cells
import Wayfinding.Proofs.Answer.History
import Wayfinding.Proofs.Journey.Sections
import Wayfinding.Proofs.Journey.Timeline
import Wayfinding.Proofs.Journey.Parts
import Wayfinding.Proofs.Journey.Links
import Wayfinding.Proofs.Journey.Announcement
import Wayfinding.Proofs.Journey.Reversal
import Wayfinding.Proofs.Projection.Recency
import Wayfinding.Proofs.Broker.Conservation
import Wayfinding.Proofs.Transport.Framing
import Wayfinding.Proofs.Wire.Fields
import Wayfinding.Proofs.Message.Arrival
import Wayfinding.Proofs.Answer.Forms
import Wayfinding.Proofs.Matrix.Reach
import Wayfinding.Proofs.Broker.Turns
import Wayfinding.Proofs.Broker.Noise
import Wayfinding.Proofs.Broker.Alternation
import Wayfinding.Proofs.Service.Delivery
import Wayfinding.Proofs.Service.Overtaking
import Wayfinding.Proofs.Answer.Counting
import Wayfinding.Proofs.Service.Workshop
import Wayfinding.Proofs.Service.Shutdown
import Wayfinding.Proofs.Service.Lobby
import Wayfinding.Proofs.Matrix.Interleaving
import Wayfinding.Proofs.Journey.Marks
import Wayfinding.Proofs.Journey.Acceptance
import Wayfinding.Proofs.Journey.Geometry
import Wayfinding.Proofs.Transport.Truncation
import Wayfinding.Proofs.Journey.Totals
import Wayfinding.Proofs.Journey.Overflow
import Wayfinding.Proofs.Journey.Conclusion
import Wayfinding.Proofs.Projection.Accounting
import Wayfinding.Proofs.Projection.Batch
import Wayfinding.Proofs.Matrix.Refusals
import Wayfinding.Proofs.Number.Extended
import Wayfinding.Proofs.Matrix.Radius
import Wayfinding.Proofs.Broker.Seniority
import Wayfinding.Proofs.Journey.Profile
import Wayfinding.Proofs.Number.ReadBack
import Wayfinding.Proofs.Geo.Place
import Wayfinding.Proofs.Journey.Elevations
import Wayfinding.Proofs.Broker.Backoff
