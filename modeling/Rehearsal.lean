import Rehearsal.Base64
import Rehearsal.Command.Arguments
import Rehearsal.Command.Error
import Rehearsal.Command.Notice
import Rehearsal.Command.Plan
import Rehearsal.Command.Presentation
import Rehearsal.Command.Run
import Rehearsal.Command.Setup
import Rehearsal.Config
import Rehearsal.Config.Yaml
import Rehearsal.Domain.Direction
import Rehearsal.Domain.Joiner
import Rehearsal.Domain.Mapping
import Rehearsal.Domain.Mapping.Alphabets
import Rehearsal.Domain.Mapping.Asian
import Rehearsal.Domain.Mapping.Beyond
import Rehearsal.Domain.Mapping.Excluded
import Rehearsal.Domain.Mapping.Forms
import Rehearsal.Domain.Mapping.Symbols
import Rehearsal.Domain.Name
import Rehearsal.Domain.Punycode
import Rehearsal.Engine.Exchange
import Rehearsal.Engine.Multipart
import Rehearsal.Engine.Request
import Rehearsal.Error
import Rehearsal.Files
import Rehearsal.Files.Tree
import Rehearsal.Json.Decode
import Rehearsal.Json.Fault
import Rehearsal.Json.Number
import Rehearsal.Json.Printer
import Rehearsal.Json.Reader
import Rehearsal.Json.Typed
import Rehearsal.Json.Value
import Rehearsal.Log.Directive
import Rehearsal.Log.Field
import Rehearsal.Log.Filter
import Rehearsal.Log.Level
import Rehearsal.Main
import Rehearsal.Number.Binary64
import Rehearsal.Number.Numeral
import Rehearsal.Number.Shortest
import Rehearsal.Page.Basic
import Rehearsal.Page.Browser
import Rehearsal.Page.Diagram
import Rehearsal.Page.Document
import Rehearsal.Page.Locator
import Rehearsal.Page.Request
import Rehearsal.Page.Route
import Rehearsal.Pattern.Atom
import Rehearsal.Pattern.Class
import Rehearsal.Pattern.Modes
import Rehearsal.Pattern.Reader
import Rehearsal.Record
import Rehearsal.Report
import Rehearsal.Resource
import Rehearsal.Resource.Bundled
import Rehearsal.Scenario.Backend
import Rehearsal.Scenario.Basic
import Rehearsal.Scenario.Notation
import Rehearsal.Scenario.Runner
import Rehearsal.Suite
import Rehearsal.Table
import Rehearsal.Text.Blank
import Rehearsal.Text.CodeTable
import Rehearsal.Text.Composed
import Rehearsal.Text.Composition
import Rehearsal.Text.Hex
import Rehearsal.Text.Letter
import Rehearsal.Text.Mark
import Rehearsal.Text.Percent
import Rehearsal.Text.Quoted
import Rehearsal.Text.Split
import Rehearsal.Text.Unprintable
import Rehearsal.Text.Utf8
import Rehearsal.Time.Calendar
import Rehearsal.Time.Instant
import Rehearsal.Time.Span
import Rehearsal.Url.Address
import Rehearsal.Url.Basic
import Rehearsal.Url.Fault
import Rehearsal.Url.Host
import Rehearsal.Url.Parser
import Rehearsal.Yaml.Document
import Rehearsal.Yaml.Glyph
import Rehearsal.Yaml.Lexer
import Rehearsal.Yaml.Plain
import Rehearsal.Yaml.Printer
import Rehearsal.Yaml.Scalar
import Rehearsal.Yaml.Style
import Rehearsal.Yaml.Token
import Rehearsal.Yaml.Typed
import Rehearsal.Page.Live
import Rehearsal.Proofs.Base64
import Rehearsal.Proofs.Command.Plan
import Rehearsal.Proofs.Engine.Deployment
import Rehearsal.Proofs.Engine.Exchange
import Rehearsal.Proofs.Engine.Request
import Rehearsal.Proofs.Engine.Target
import Rehearsal.Proofs.Json.Decode
import Rehearsal.Proofs.Page.Suspension
import Rehearsal.Proofs.Scenario.Lifecycle
import Rehearsal.Proofs.Scenario.Run
import Rehearsal.Proofs.Scenario.StandIn
import Rehearsal.Proofs.Text.Percent
import Rehearsal.Proofs.Url.Landing
import Rehearsal.Proofs.Url.Root
import Rehearsal.Proofs.Url.Segment
import Rehearsal.Proofs.Page.Navigation
import Rehearsal.Proofs.Text.Delimiter
import Rehearsal.Proofs.Engine.Form
import Rehearsal.Proofs.Command.Setup
import Rehearsal.Proofs.Json.Layout
import Rehearsal.Proofs.Json.Text
import Rehearsal.Proofs.Json.Value
import Rehearsal.Proofs.Json.Typed
import Rehearsal.Proofs.Scenario.Notation
import Rehearsal.Proofs.Page.Independence
import Rehearsal.Proofs.Page.History
import Rehearsal.Proofs.Page.Failures
import Rehearsal.Proofs.Page.Query
import Rehearsal.Proofs.Scenario.Sequence
import Rehearsal.Proofs.Scenario.Relay
import Rehearsal.Proofs.Scenario.Comparison
import Rehearsal.Proofs.Command.Notice
import Rehearsal.Proofs.Command.Presentation
import Rehearsal.Proofs.Page.Waiting
import Rehearsal.Proofs.Page.Selector
import Rehearsal.Proofs.Engine.Planning
import Rehearsal.Proofs.Page.Parameters
import Rehearsal.Proofs.Json.Compact
import Rehearsal.Proofs.Base64.Bits
import Rehearsal.Proofs.Command.Lines
import Rehearsal.Proofs.Engine.Symbols
import Rehearsal.Proofs.Engine.Positions
import Rehearsal.Proofs.Text.Line
import Rehearsal.Proofs.Json.Positions
import Rehearsal.Proofs.Page.BadgeNumber
import Rehearsal.Proofs.Command.Configuration
import Rehearsal.Proofs.Time.Calendar
import Rehearsal.Proofs.Time.Digits
import Rehearsal.Proofs.Time.Instant
import Rehearsal.Proofs.Report.Notation
import Rehearsal.Proofs.Time.Span
import Rehearsal.Proofs.Time.Elapsed
import Rehearsal.Proofs.Json.Invariant
import Rehearsal.Proofs.Report.Times
import Rehearsal.Proofs.Json.Grammar
import Rehearsal.Proofs.Json.Number
import Rehearsal.Proofs.Json.Document
