import LlmTelemetry.Api.Error
import LlmTelemetry.Api.Query
import LlmTelemetry.Api.Retry
import LlmTelemetry.Api.Stored
import LlmTelemetry.Config.Basic
import LlmTelemetry.Config.Environment
import LlmTelemetry.Config.Layer
import LlmTelemetry.Config.Load
import LlmTelemetry.Console.Arguments
import LlmTelemetry.Console.Command
import LlmTelemetry.Console.FileTree
import LlmTelemetry.Console.Paint
import LlmTelemetry.Console.Program
import LlmTelemetry.Console.Table
import LlmTelemetry.Decimal.Layout
import LlmTelemetry.Decimal.Reader
import LlmTelemetry.Decimal.Shortest
import LlmTelemetry.Delivery.Client
import LlmTelemetry.Delivery.Sender
import LlmTelemetry.Delivery.Snapshot
import LlmTelemetry.Delivery.Transport
import LlmTelemetry.Event.Basic
import LlmTelemetry.Event.Pair
import LlmTelemetry.Fault
import LlmTelemetry.Http.Endpoint
import LlmTelemetry.Http.Form
import LlmTelemetry.Instrument.CallSites
import LlmTelemetry.Instrument.Handler
import LlmTelemetry.Instrument.Manager
import LlmTelemetry.Instrument.Notice
import LlmTelemetry.Instrument.Registry
import LlmTelemetry.Instrument.Task
import LlmTelemetry.Json.Basic
import LlmTelemetry.Json.Document
import LlmTelemetry.Json.Outline
import LlmTelemetry.Json.Printer
import LlmTelemetry.KeyedList
import LlmTelemetry.Main
import LlmTelemetry.Pattern.CharClass
import LlmTelemetry.Pattern.ClassText
import LlmTelemetry.Pattern.Parser
import LlmTelemetry.Pattern.Program
import LlmTelemetry.Pattern.Regex
import LlmTelemetry.Pattern.Search
import LlmTelemetry.Pricing
import LlmTelemetry.Proofs.Api.Errors
import LlmTelemetry.Proofs.Api.Queries
import LlmTelemetry.Proofs.Config.Precedence
import LlmTelemetry.Proofs.Decimal.Finite
import LlmTelemetry.Proofs.Decimal.Rounding
import LlmTelemetry.Proofs.Delivery.AcceptanceOrder
import LlmTelemetry.Proofs.Delivery.Dispatch
import LlmTelemetry.Proofs.Delivery.ExplicitCalls
import LlmTelemetry.Proofs.Delivery.Flush
import LlmTelemetry.Proofs.Delivery.Isolation
import LlmTelemetry.Proofs.Delivery.Lifecycle
import LlmTelemetry.Proofs.Delivery.Modes
import LlmTelemetry.Proofs.Delivery.Reads
import LlmTelemetry.Proofs.Delivery.Retries
import LlmTelemetry.Proofs.Delivery.SharedSender
import LlmTelemetry.Proofs.Delivery.Stamps
import LlmTelemetry.Proofs.Delivery.Waits
import LlmTelemetry.Proofs.Event.PayloadFields
import LlmTelemetry.Proofs.Event.Rebuilding
import LlmTelemetry.Proofs.Instrument.Activations
import LlmTelemetry.Proofs.Instrument.CallSiteHandles
import LlmTelemetry.Proofs.Instrument.Directory
import LlmTelemetry.Proofs.Instrument.ManagerRuns
import LlmTelemetry.Proofs.Instrument.Patching
import LlmTelemetry.Proofs.Instrument.RegistryRuns
import LlmTelemetry.Proofs.Instrument.TargetNames
import LlmTelemetry.Proofs.Instrument.Targets
import LlmTelemetry.Proofs.Json.Fields
import LlmTelemetry.Proofs.Json.Strings
import LlmTelemetry.Proofs.Json.Texts
import LlmTelemetry.Proofs.Pattern.Gaps
import LlmTelemetry.Proofs.Pattern.Leftmost
import LlmTelemetry.Proofs.Pattern.Literal
import LlmTelemetry.Proofs.Pattern.Occurrences
import LlmTelemetry.Proofs.Pattern.Paths
import LlmTelemetry.Proofs.Pattern.Replacement
import LlmTelemetry.Proofs.Provider.Amounts
import LlmTelemetry.Proofs.Provider.Arguments
import LlmTelemetry.Proofs.Provider.DatedModels
import LlmTelemetry.Proofs.Provider.Extractions
import LlmTelemetry.Proofs.Redaction.Aborts
import LlmTelemetry.Proofs.Redaction.AttachedNumbers
import LlmTelemetry.Proofs.Redaction.Blackout
import LlmTelemetry.Proofs.Redaction.Coverage
import LlmTelemetry.Proofs.Redaction.FlattenedParts
import LlmTelemetry.Proofs.Redaction.Image
import LlmTelemetry.Proofs.Redaction.LiteralPattern
import LlmTelemetry.Proofs.Redaction.NumbersInText
import LlmTelemetry.Proofs.Redaction.PersonalData
import LlmTelemetry.Proofs.Redaction.SocialSecurity
import LlmTelemetry.Proofs.Session.Awaiting
import LlmTelemetry.Proofs.Session.Captures
import LlmTelemetry.Proofs.Session.HandOvers
import LlmTelemetry.Proofs.Session.Runs
import LlmTelemetry.Proofs.Session.Wrappers
import LlmTelemetry.Proofs.Wire.RoundTrips
import LlmTelemetry.Proofs.Wire.Shapes
import LlmTelemetry.Provider.Anthropic
import LlmTelemetry.Provider.Basic
import LlmTelemetry.Provider.OpenAI
import LlmTelemetry.Record
import LlmTelemetry.Redaction.Basic
import LlmTelemetry.Redaction.Sensitive
import LlmTelemetry.Session.Capture
import LlmTelemetry.Session.Lifecycle
import LlmTelemetry.Session.Options
import LlmTelemetry.Session.World
import LlmTelemetry.Text.Identifier
import LlmTelemetry.Text.Timestamp
import LlmTelemetry.Text.Utf8
import LlmTelemetry.Toml.Basic
import LlmTelemetry.Toml.Document
import LlmTelemetry.Toml.Scalar
import LlmTelemetry.Toml.Statement
import LlmTelemetry.Unicode.Digit
import LlmTelemetry.Unicode.Emoji
import LlmTelemetry.Unicode.Folding
import LlmTelemetry.Unicode.Ranges
import LlmTelemetry.Unicode.Space
import LlmTelemetry.Unicode.TextWidth
import LlmTelemetry.Unicode.Visible
import LlmTelemetry.Unicode.Width
import LlmTelemetry.Unicode.Word
import LlmTelemetry.Wire.Decoder
import LlmTelemetry.Wire.Models
import LlmTelemetry.Wire.RecordText
