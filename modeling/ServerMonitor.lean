import ServerMonitor.Text.Blank
import ServerMonitor.Text.Decimal
import ServerMonitor.Text.Percent
import ServerMonitor.Text.Printable
import ServerMonitor.Text.Quoted
import ServerMonitor.Real.Binary64
import ServerMonitor.Real.Shortest
import ServerMonitor.Calendar.Date
import ServerMonitor.Calendar.Instant
import ServerMonitor.Calendar.Notation
import ServerMonitor.Address.Basic
import ServerMonitor.Address.Notation
import ServerMonitor.Json.Numeral
import ServerMonitor.Json.Text
import ServerMonitor.Json.Value
import ServerMonitor.Json.Token
import ServerMonitor.Json.Document
import ServerMonitor.Json.Real
import ServerMonitor.Json.Dictionary
import ServerMonitor.Json.Shape
import ServerMonitor.Json.Reading
import ServerMonitor.Json.Writing
import ServerMonitor.Json.Schema
import ServerMonitor.Model.RunState
import ServerMonitor.Model.Host
import ServerMonitor.Model.Storage
import ServerMonitor.Model.Zfs
import ServerMonitor.Model.Workload
import ServerMonitor.Model.Power
import ServerMonitor.Model.Notifications
import ServerMonitor.Model.NetworkServices
import ServerMonitor.Model.CollectorStatus
import ServerMonitor.Payload.Kind
import ServerMonitor.Payload.Basic
import ServerMonitor.Settings.Environment
import ServerMonitor.Settings.Basic
import ServerMonitor.Settings.Directory
import ServerMonitor.Settings.File
import ServerMonitor.Bus.Basic
import ServerMonitor.Bus.Topic
import ServerMonitor.Hub.Filter
import ServerMonitor.Hub.Registry
import ServerMonitor.Hub.Basic
import ServerMonitor.Cache.Cell
import ServerMonitor.Cache.Basic
import ServerMonitor.Cache.Binding
import ServerMonitor.Collector.Interval
import ServerMonitor.Collector.Refusal
import ServerMonitor.Collector.Pass
import ServerMonitor.Collector.Task
import ServerMonitor.Collector.Roster
import ServerMonitor.Connection.Frame
import ServerMonitor.Connection.Reader
import ServerMonitor.Connection.Writer
import ServerMonitor.Connection.Peer
import ServerMonitor.Connection.Basic
import ServerMonitor.Agent.Consumer
import ServerMonitor.Agent.Basic
import ServerMonitor.Agent.Control
import ServerMonitor.Agent.Start
import ServerMonitor.Api.Body
import ServerMonitor.Api.Fault
import ServerMonitor.Api.MediaType
import ServerMonitor.Api.Request
import ServerMonitor.Api.Resource
import ServerMonitor.Api.Service
import ServerMonitor.Launch.LogLevel
import ServerMonitor.Launch.Arguments
import ServerMonitor.Launch.Basic
import ServerMonitor.Main
import ServerMonitor.Proofs.Machine
import ServerMonitor.Proofs.Bus.Registry
import ServerMonitor.Proofs.Bus.Basic
import ServerMonitor.Proofs.Bus.Request
import ServerMonitor.Proofs.Bus.Enrolment
import ServerMonitor.Proofs.Bus.Switchboard
import ServerMonitor.Proofs.Bus.Delivery
import ServerMonitor.Proofs.Bus.History
import ServerMonitor.Proofs.Bus.Closing
import ServerMonitor.Proofs.Bus.Handle
import ServerMonitor.Proofs.Bus.Publishers
import ServerMonitor.Proofs.Bus.Interleaving
import ServerMonitor.Proofs.Bus.Pruning
import ServerMonitor.Proofs.Hub.Request
import ServerMonitor.Proofs.Hub.Client
import ServerMonitor.Proofs.Hub.Stream
import ServerMonitor.Proofs.Hub.Overlap
import ServerMonitor.Proofs.Hub.Departure
import ServerMonitor.Proofs.Hub.Balance
import ServerMonitor.Proofs.Hub.Loop
import ServerMonitor.Proofs.Hub.Ending
import ServerMonitor.Proofs.Hub.Isolation
import ServerMonitor.Proofs.Hub.FanOut
import ServerMonitor.Proofs.Collector.Entries
import ServerMonitor.Proofs.Collector.Ownership
import ServerMonitor.Proofs.Collector.Request
import ServerMonitor.Proofs.Collector.Tasks
import ServerMonitor.Proofs.Collector.Condition
import ServerMonitor.Proofs.Collector.Disabling
import ServerMonitor.Proofs.Collector.Ending
import ServerMonitor.Proofs.Collector.Polling
import ServerMonitor.Proofs.Collector.Required
import ServerMonitor.Proofs.Collector.Call
import ServerMonitor.Proofs.Collector.Announcing
import ServerMonitor.Proofs.Cache.Entries
import ServerMonitor.Proofs.Cache.Dispatching
import ServerMonitor.Proofs.Cache.Loop
import ServerMonitor.Proofs.Cache.Refreshing
import ServerMonitor.Proofs.Settings.Serving
import ServerMonitor.Proofs.Collector.Pacing
import ServerMonitor.Proofs.Collector.Statistics
import ServerMonitor.Proofs.Agent.Consumer
import ServerMonitor.Proofs.Agent.Relay
import ServerMonitor.Proofs.Agent.Audience
import ServerMonitor.Proofs.Agent.Fates
import ServerMonitor.Proofs.Agent.Agreement
import ServerMonitor.Proofs.Agent.Operation
import ServerMonitor.Proofs.Api.Control
import ServerMonitor.Proofs.Text.Decimal
import ServerMonitor.Proofs.Text.Order
import ServerMonitor.Proofs.Json.Numeral
import ServerMonitor.Proofs.Json.Text
import ServerMonitor.Proofs.Json.Token
import ServerMonitor.Proofs.Json.Document
import ServerMonitor.Proofs.Json.Real
import ServerMonitor.Proofs.Calendar.Notation
import ServerMonitor.Proofs.Json.Leaf
import ServerMonitor.Proofs.Json.Shape
import ServerMonitor.Proofs.Json.Reading
import ServerMonitor.Proofs.Json.Member
import ServerMonitor.Proofs.Json.Schema
import ServerMonitor.Proofs.Json.Writing
import ServerMonitor.Proofs.Hub.Filter
import ServerMonitor.Proofs.Model.Form
import ServerMonitor.Proofs.Api.NetworkServices
import ServerMonitor.Proofs.Payload.Event
import ServerMonitor.Proofs.Settings.Sources
import ServerMonitor.Proofs.Connection.Session
import ServerMonitor.Proofs.Connection.Lobby
import ServerMonitor.Proofs.Connection.Ending
import ServerMonitor.Proofs.Connection.Reading
import ServerMonitor.Proofs.Connection.Writing
import ServerMonitor.Proofs.Agent.Course
import ServerMonitor.Proofs.Agent.Shutdown
import ServerMonitor.Proofs.Agent.Announcements
import ServerMonitor.Proofs.Collector.Listing
import ServerMonitor.Proofs.Agent.Intake
import ServerMonitor.Proofs.Collector.Schedule
import ServerMonitor.Proofs.Agent.Timing
