import RuleTrace.Agent.Action
import RuleTrace.Agent.Basic
import RuleTrace.Agent.Clock
import RuleTrace.Agent.Stopping
import RuleTrace.Agent.Timetable
import RuleTrace.Aggregation.Basic
import RuleTrace.Aggregation.Nested
import RuleTrace.Aggregation.Pending
import RuleTrace.Aggregation.Slot
import RuleTrace.Aggregation.Store
import RuleTrace.Codes
import RuleTrace.CommandLine.Basic
import RuleTrace.CommandLine.Manual
import RuleTrace.Config.Basic
import RuleTrace.Config.Load
import RuleTrace.Correlation
import RuleTrace.Counters
import RuleTrace.CpuList
import RuleTrace.Decimal.Shortest
import RuleTrace.Fifo
import RuleTrace.Json.Codec
import RuleTrace.Json.Reader
import RuleTrace.Json.Scan
import RuleTrace.Json.Value
import RuleTrace.Lock
import RuleTrace.LogFilter
import RuleTrace.LogFilter.Pattern
import RuleTrace.Main
import RuleTrace.Metrics.Basic
import RuleTrace.Metrics.Endpoint
import RuleTrace.Metrics.Exposition
import RuleTrace.Metrics.Host
import RuleTrace.Notification.Basic
import RuleTrace.Notification.Headers
import RuleTrace.Notification.Json
import RuleTrace.Notification.ToRecord
import RuleTrace.Octets
import RuleTrace.Outlet
import RuleTrace.Output.Channel
import RuleTrace.Output.Lane
import RuleTrace.Output.Printer
import RuleTrace.PerCore
import RuleTrace.Pipeline.Basic
import RuleTrace.Pipeline.Draining
import RuleTrace.Pipeline.Ticker
import RuleTrace.Program
import RuleTrace.Proofs.Agent.Accounting
import RuleTrace.Proofs.Agent.Export
import RuleTrace.Proofs.Agent.Parts
import RuleTrace.Proofs.Agent.Reload
import RuleTrace.Proofs.Agent.Stopping
import RuleTrace.Proofs.Aggregation.Calls
import RuleTrace.Proofs.Aggregation.Cores
import RuleTrace.Proofs.Aggregation.Locks
import RuleTrace.Proofs.Aggregation.Nested
import RuleTrace.Proofs.Aggregation.Roster
import RuleTrace.Proofs.Aggregation.Windows
import RuleTrace.Proofs.Config
import RuleTrace.Proofs.CpuList
import RuleTrace.Proofs.Json.Codec
import RuleTrace.Proofs.Json.Faithful
import RuleTrace.Proofs.Json.Loops
import RuleTrace.Proofs.Json.Printable
import RuleTrace.Proofs.Json.Reader
import RuleTrace.Proofs.Json.Scan
import RuleTrace.Proofs.Json.Skip
import RuleTrace.Proofs.Metrics.Export
import RuleTrace.Proofs.Notification.Encoding
import RuleTrace.Proofs.Notification.Headers
import RuleTrace.Proofs.Notification.Json
import RuleTrace.Proofs.Notification.Ports
import RuleTrace.Proofs.Notification.Truncation
import RuleTrace.Proofs.Outlet
import RuleTrace.Proofs.Output.Channel
import RuleTrace.Proofs.Output.Flow
import RuleTrace.Proofs.Output.Framing
import RuleTrace.Proofs.Output.Journal
import RuleTrace.Proofs.Output.Lanes
import RuleTrace.Proofs.Output.Line
import RuleTrace.Proofs.Output.Neighbours
import RuleTrace.Proofs.Output.Polling
import RuleTrace.Proofs.Output.Printer
import RuleTrace.Proofs.Output.Refusals
import RuleTrace.Proofs.Output.Runs
import RuleTrace.Proofs.Output.Turns
import RuleTrace.Proofs.Pipeline.Conservation
import RuleTrace.Proofs.Pipeline.Drain
import RuleTrace.Proofs.Pipeline.Draining
import RuleTrace.Proofs.Pipeline.FinalDrain
import RuleTrace.Proofs.Pipeline.Frame
import RuleTrace.Proofs.Pipeline.Isolation
import RuleTrace.Proofs.Pipeline.Ledger
import RuleTrace.Proofs.Pipeline.Locks
import RuleTrace.Proofs.Pipeline.Mode
import RuleTrace.Proofs.Pipeline.Operation
import RuleTrace.Proofs.Pipeline.Pending
import RuleTrace.Proofs.Pipeline.Sampling
import RuleTrace.Proofs.Pipeline.Scheduled
import RuleTrace.Proofs.Pipeline.Ticker
import RuleTrace.Proofs.Pipeline.Tickers
import RuleTrace.Proofs.Record.Address
import RuleTrace.Proofs.Record.FixedName
import RuleTrace.Proofs.Replay
import RuleTrace.Proofs.Tally
import RuleTrace.Proofs.Text.Fields
import RuleTrace.Proofs.Text.Numeral
import RuleTrace.Proofs.Text.Split
import RuleTrace.Proofs.Text.Utf8
import RuleTrace.Proofs.View.Object
import RuleTrace.Proofs.View.Text
import RuleTrace.Record.Address
import RuleTrace.Record.Basic
import RuleTrace.Record.FixedName
import RuleTrace.Replay
import RuleTrace.Sampler
import RuleTrace.Settings
import RuleTrace.Span
import RuleTrace.Span.Phrase
import RuleTrace.Text.Alphanumeric
import RuleTrace.Text.Blank
import RuleTrace.Text.Civil
import RuleTrace.Text.Flaw
import RuleTrace.Text.Numeral
import RuleTrace.Text.Printable
import RuleTrace.Text.Quoted
import RuleTrace.Text.Split
import RuleTrace.Text.Utf8
import RuleTrace.View.Basic
import RuleTrace.Yaml.Node
import RuleTrace.Yaml.Reader
import RuleTrace.Yaml.Scalar
import RuleTrace.Yaml.Token
