import Courier.Backend
import Courier.Channel.Error
import Courier.Channel.Name
import Courier.Clock
import Courier.Consumer
import Courier.Data.Assoc
import Courier.Data.Dict
import Courier.Decimal.Binary64
import Courier.Decimal.Shortest
import Courier.Demo.Catalog
import Courier.Demo.Consumers
import Courier.Document.Basic
import Courier.Document.Block
import Courier.Document.Flow
import Courier.Document.Scalar
import Courier.Http.Error
import Courier.Http.Framing
import Courier.Http.Header
import Courier.Http.Interface
import Courier.Http.Request
import Courier.Http.RequestPayload
import Courier.Http.Response
import Courier.Http.ResponseMessage
import Courier.Http.Sending
import Courier.Http.Status
import Courier.Http.Uri
import Courier.Http.View
import Courier.Json.Basic
import Courier.Json.Parser
import Courier.Json.Printer
import Courier.Layers.Basic
import Courier.Layers.Plan
import Courier.Layers.Reading
import Courier.Log
import Courier.Logging.Filter
import Courier.Logging.Settings
import Courier.Main
import Courier.Message
import Courier.Net.Address
import Courier.Payload.Reader
import Courier.Process.CommandLine
import Courier.Process.Run
import Courier.Process.Serving
import Courier.Program
import Courier.Registry
import Courier.Scenario.Answer
import Courier.Scenario.Bus
import Courier.Scenario.Exchanges
import Courier.Scenario.Layers
import Courier.Scenario.Messages
import Courier.Scenario.Processes
import Courier.Scenario.Reading
import Courier.Scenario.Sessions
import Courier.Scenario.Setup
import Courier.Scenario.Sockets
import Courier.Session.Basic
import Courier.Session.Store
import Courier.Settings.Http
import Courier.Settings.Reading
import Courier.Settings.Socket
import Courier.Settings.Store
import Courier.Settings.Worker
import Courier.Simulation.Bench
import Courier.Simulation.Schedule
import Courier.Simulation.Script
import Courier.Simulation.SocketBench
import Courier.Site
import Courier.Socket.Connection
import Courier.Socket.Desk
import Courier.Socket.Directory
import Courier.Socket.Endpoint
import Courier.Socket.Error
import Courier.Socket.Frame
import Courier.Socket.Hub
import Courier.Socket.Payload
import Courier.Socket.Pipe
import Courier.Socket.Reader
import Courier.Socket.Wire
import Courier.Store.Basic
import Courier.Store.Receiving
import Courier.Text.Base64
import Courier.Text.Combining
import Courier.Text.Form
import Courier.Text.Invisible
import Courier.Text.Latin1
import Courier.Text.Quoted
import Courier.Text.Utf8
import Courier.Time
import Courier.Worker
import Courier.Proofs.Store.Operations
import Courier.Proofs.Store.History
import Courier.Proofs.Store.Ideal
import Courier.Proofs.Json.RoundTrip
import Courier.Proofs.Payload.Reader
import Courier.Proofs.Http.ResponseMessage
import Courier.Proofs.Http.Framing
import Courier.Proofs.Http.Sending
import Courier.Proofs.Http.Collecting
import Courier.Proofs.Http.Transfer
import Courier.Proofs.Http.Delivery
import Courier.Proofs.Http.Scheduling
import Courier.Proofs.Program.Within
import Courier.Proofs.Http.Answering
import Courier.Proofs.Http.Stage
import Courier.Proofs.Store.Waiting
import Courier.Proofs.Http.ClientHeaders
import Courier.Proofs.Http.NextReply
import Courier.Proofs.Http.ExchangeStep
import Courier.Proofs.Http.Reception
import Courier.Proofs.Http.Finishing
import Courier.Proofs.Http.Agreement
import Courier.Proofs.Socket.Round
import Courier.Proofs.Site
import Courier.Proofs.Socket.Multiplex
import Courier.Proofs.Socket.Isolation
import Courier.Proofs.Http.PureViews
import Courier.Proofs.Strand
import Courier.Proofs.Http.Following
import Courier.Proofs.Http.Traffic
import Courier.Proofs.Http.Account
import Courier.Proofs.Http.Cycles
import Courier.Proofs.Http.Unmixed
import Courier.Proofs.Http.Turns
import Courier.Proofs.Socket.Payload
import Courier.Proofs.Socket.Lifecycle
import Courier.Proofs.Registry
import Courier.Proofs.Lists
import Courier.Proofs.Worker.Workshop
import Courier.Proofs.Worker.Effects
import Courier.Proofs.Worker.Accounts
import Courier.Proofs.Worker.Dispatch
import Courier.Proofs.Worker.Turns
import Courier.Proofs.Store.Lobby
import Courier.Proofs.Store.Wakeups
import Courier.Proofs.Store.Rounds
import Courier.Proofs.Store.Quiet
import Courier.Proofs.Store.Blocking
import Courier.Proofs.Http.NativeHeaders
import Courier.Proofs.Http.TwoPaths
import Courier.Proofs.Data.Dict
import Courier.Proofs.Json.Plain
import Courier.Proofs.Json.Nesting
import Courier.Proofs.Http.RequestPayload
import Courier.Proofs.Payload.Schemas
import Courier.Proofs.Http.Targets
import Courier.Proofs.Http.Variables
import Courier.Proofs.Http.Rebuilding
import Courier.Proofs.Http.Reencoding
import Courier.Proofs.Socket.Dispatching
import Courier.Proofs.Socket.Registrations
import Courier.Proofs.Http.HopByHop
import Courier.Proofs.Store.Members
import Courier.Proofs.Program.Playing
import Courier.Proofs.Program.SendGroup
import Courier.Proofs.Store.Groups
import Courier.Proofs.Results
import Courier.Proofs.Text.Canonical
import Courier.Proofs.Http.Shape
import Courier.Proofs.Http.Grammar
import Courier.Proofs.Payload.Values
import Courier.Proofs.Payload.Fields
import Courier.Proofs.Payload.Decoding
import Courier.Proofs.Socket.Writing
import Courier.Proofs.Socket.Handling
import Courier.Proofs.Http.ServerVariables
import Courier.Proofs.Http.MountPoint
import Courier.Proofs.Registrations
import Courier.Proofs.Layers.Building
import Courier.Proofs.Demo.Echo
import Courier.Proofs.Session.Expiring
import Courier.Proofs.Session.WritingBack
import Courier.Proofs.Socket.Watching
import Courier.Proofs.Http.Placing
import Courier.Proofs.Simulation.Schedule
import Courier.Proofs.Http.Foresight
import Courier.Proofs.Http.Patience
import Courier.Proofs.Program.Performing
import Courier.Proofs.Worker.Shift
import Courier.Proofs.Worker.Steps
import Courier.Proofs.Worker.Laps
import Courier.Proofs.Worker.Shutdown
import Courier.Proofs.Worker.Pace
import Courier.Proofs.Http.Backoff
import Courier.Proofs.Text.Utf8
import Courier.Proofs.Text.Parts
import Courier.Proofs.Text.Form
import Courier.Proofs.Http.Parameters
import Courier.Proofs.Http.Cookies
import Courier.Proofs.Session.Hosting
import Courier.Proofs.Demo.Visits
import Courier.Proofs.Layers.RoundTrip
import Courier.Proofs.Store.Tidiness
import Courier.Proofs.Payload.Blobs
import Courier.Proofs.Channel.Cutting
import Courier.Proofs.Clock
