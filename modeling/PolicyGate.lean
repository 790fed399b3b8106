import PolicyGate.Admission.Client
import PolicyGate.Admission.Size
import PolicyGate.Admission.Slots
import PolicyGate.Admission.Window
import PolicyGate.Config.Basic
import PolicyGate.Config.Layers
import PolicyGate.Config.Record
import PolicyGate.Config.Schema
import PolicyGate.Decimal.Rounded
import PolicyGate.Decimal.Shortest
import PolicyGate.Engine.Capture
import PolicyGate.Engine.Outcome
import PolicyGate.Engine.Process
import PolicyGate.Engine.Selection
import PolicyGate.Fault
import PolicyGate.Gateway.Accounts
import PolicyGate.Gateway.Basic
import PolicyGate.Gateway.Endpoint
import PolicyGate.Gateway.Finding
import PolicyGate.Gateway.Reply
import PolicyGate.Gateway.Response
import PolicyGate.Gateway.Step
import PolicyGate.Host.Account
import PolicyGate.Host.Behaviour
import PolicyGate.Host.Calendar
import PolicyGate.Host.Digest
import PolicyGate.Host.Edit.Basic
import PolicyGate.Host.Edit.Listing
import PolicyGate.Host.Edit.Run
import PolicyGate.Host.Edit.Written
import PolicyGate.Host.Edits
import PolicyGate.Host.Extract.Bench
import PolicyGate.Host.Extract.Function
import PolicyGate.Host.Extract.Reading
import PolicyGate.Host.Extract.Run
import PolicyGate.Host.Extract.Syntax
import PolicyGate.Host.Extract.Value
import PolicyGate.Host.Files
import PolicyGate.Host.Format
import PolicyGate.Host.Raw
import PolicyGate.Host.Regex.Basic
import PolicyGate.Host.Regex.Rich
import PolicyGate.Host.Regex.Written
import PolicyGate.Host.Scan.Desk
import PolicyGate.Host.Scan.Reading
import PolicyGate.Host.Scan.Run
import PolicyGate.Host.Scan.Syntax
import PolicyGate.Host.Scan.Value
import PolicyGate.Host.Shell.Braces
import PolicyGate.Host.Shell.Builtin
import PolicyGate.Host.Shell.Check
import PolicyGate.Host.Shell.Field
import PolicyGate.Host.Shell.Launch
import PolicyGate.Host.Shell.Pattern
import PolicyGate.Host.Shell.Program
import PolicyGate.Host.Shell.RichAssignment
import PolicyGate.Host.Shell.RichBuiltin
import PolicyGate.Host.Shell.RichCommand
import PolicyGate.Host.Shell.RichControl
import PolicyGate.Host.Shell.RichDeclare
import PolicyGate.Host.Shell.RichInput
import PolicyGate.Host.Shell.RichName
import PolicyGate.Host.Shell.RichOutput
import PolicyGate.Host.Shell.RichParameter
import PolicyGate.Host.Shell.RichSetting
import PolicyGate.Host.Shell.RichStart
import PolicyGate.Host.Shell.RichSum
import PolicyGate.Host.Shell.RichTest
import PolicyGate.Host.Shell.RichValue
import PolicyGate.Host.Shell.Rounds
import PolicyGate.Host.Shell.Run
import PolicyGate.Host.Shell.Script
import PolicyGate.Host.Shell.Setting
import PolicyGate.Host.Shell.Starting
import PolicyGate.Host.Shell.State
import PolicyGate.Host.Shell.Sum
import PolicyGate.Host.Shell.Token
import PolicyGate.Host.Shell.Variable
import PolicyGate.Host.Shell.Words
import PolicyGate.Host.SocketAddress
import PolicyGate.Host.Spawn
import PolicyGate.Host.Stream
import PolicyGate.Host.Tool.Arguments
import PolicyGate.Host.Tool.Basic
import PolicyGate.Host.Tool.Catalog
import PolicyGate.Host.Tool.Change
import PolicyGate.Host.Tool.Clock
import PolicyGate.Host.Tool.Columns
import PolicyGate.Host.Tool.Difference
import PolicyGate.Host.Tool.Digest
import PolicyGate.Host.Tool.Dump
import PolicyGate.Host.Tool.Editor
import PolicyGate.Host.Tool.Encoded
import PolicyGate.Host.Tool.Extractor
import PolicyGate.Host.Tool.Identity
import PolicyGate.Host.Tool.Letters
import PolicyGate.Host.Tool.Lines
import PolicyGate.Host.Tool.List
import PolicyGate.Host.Tool.Mode
import PolicyGate.Host.Tool.Numbers
import PolicyGate.Host.Tool.Order
import PolicyGate.Host.Tool.Pages
import PolicyGate.Host.Tool.Paragraph
import PolicyGate.Host.Tool.Parts
import PolicyGate.Host.Tool.Paths
import PolicyGate.Host.Tool.Say
import PolicyGate.Host.Tool.Scanner
import PolicyGate.Host.Tool.Search
import PolicyGate.Host.Tool.Sum
import PolicyGate.Host.Tool.Transfer
import PolicyGate.Host.Tool.Usage
import PolicyGate.Host.Tool.Version
import PolicyGate.Host.Walk.Query
import PolicyGate.Host.Walk.Run
import PolicyGate.Json.Fault
import PolicyGate.Json.Number
import PolicyGate.Json.Scalar
import PolicyGate.Json.Value
import PolicyGate.Log.Directive
import PolicyGate.Log.Filter
import PolicyGate.Log.Pattern
import PolicyGate.Log.Record
import PolicyGate.Main
import PolicyGate.Observe.Counter
import PolicyGate.Observe.Histogram
import PolicyGate.Observe.Label
import PolicyGate.Observe.Metrics
import PolicyGate.Observe.Telemetry
import PolicyGate.Policy.Action
import PolicyGate.Policy.Keyword
import PolicyGate.Policy.Line
import PolicyGate.Policy.Lint
import PolicyGate.Policy.Rule
import PolicyGate.Proofs.Admission.Bucket
import PolicyGate.Proofs.Admission.Disorder
import PolicyGate.Proofs.Admission.History
import PolicyGate.Proofs.Admission.Hops
import PolicyGate.Proofs.Admission.Memory
import PolicyGate.Proofs.Config.Layering
import PolicyGate.Proofs.Config.Record
import PolicyGate.Proofs.Config.Schema
import PolicyGate.Proofs.Engine.Chunks
import PolicyGate.Proofs.Engine.Schedule
import PolicyGate.Proofs.Engine.Stopped
import PolicyGate.Proofs.Engine.Verdict
import PolicyGate.Proofs.Gateway.Body
import PolicyGate.Proofs.Gateway.Costs
import PolicyGate.Proofs.Gateway.Delivery
import PolicyGate.Proofs.Gateway.Dossier
import PolicyGate.Proofs.Gateway.Encoding
import PolicyGate.Proofs.Gateway.Engines
import PolicyGate.Proofs.Gateway.Inflight
import PolicyGate.Proofs.Gateway.Ledger
import PolicyGate.Proofs.Gateway.Quota
import PolicyGate.Proofs.Gateway.Shapes
import PolicyGate.Proofs.Gateway.Stages
import PolicyGate.Proofs.Gateway.Trace
import PolicyGate.Proofs.Gateway.Way
import PolicyGate.Proofs.Json.Grammar
import PolicyGate.Proofs.Json.Reading
import PolicyGate.Proofs.Json.Scalar
import PolicyGate.Proofs.Json.Spelling
import PolicyGate.Proofs.Json.Walk
import PolicyGate.Proofs.Keyed
import PolicyGate.Proofs.Observe.Classes
import PolicyGate.Proofs.Observe.Cumulative
import PolicyGate.Proofs.Observe.Reading
import PolicyGate.Proofs.Observe.Sums
import PolicyGate.Proofs.Observe.Tally
import PolicyGate.Proofs.Policy.Alike
import PolicyGate.Proofs.Policy.Announcement
import PolicyGate.Proofs.Policy.Clause
import PolicyGate.Proofs.Policy.Diagnosis
import PolicyGate.Proofs.Policy.Grammar
import PolicyGate.Proofs.Policy.Insertion
import PolicyGate.Proofs.Policy.Layout
import PolicyGate.Proofs.Policy.Lookahead
import PolicyGate.Proofs.Policy.Report
import PolicyGate.Proofs.Policy.Separator
import PolicyGate.Rehearsal.Basic
import PolicyGate.Rehearsal.Cast
import PolicyGate.Rehearsal.Script
import PolicyGate.Startup
import PolicyGate.Submission
import PolicyGate.Text.Alphanumeric
import PolicyGate.Text.Blank
import PolicyGate.Text.Lines
import PolicyGate.Text.Quoted
import PolicyGate.Text.Utf8
import PolicyGate.Width
import PolicyGate.Yaml.Event
import PolicyGate.Yaml.Glyph
import PolicyGate.Yaml.Layout
import PolicyGate.Yaml.Meaning
import PolicyGate.Yaml.Node
import PolicyGate.Yaml.Refusal
import PolicyGate.Yaml.Scalar
import PolicyGate.Yaml.Token
