import ClusterMonitor.CommandLine.Action
import ClusterMonitor.CommandLine.Command
import ClusterMonitor.CommandLine.Style
import ClusterMonitor.CommandLine.Usage
import ClusterMonitor.Config.Document
import ClusterMonitor.Config.Engine
import ClusterMonitor.Config.Environment
import ClusterMonitor.Config.Error
import ClusterMonitor.Config.Layer
import ClusterMonitor.Config.Setting
import ClusterMonitor.Config.Source
import ClusterMonitor.Config.Store
import ClusterMonitor.Decimal.Read
import ClusterMonitor.Decimal.Shortest
import ClusterMonitor.Decimal.Written
import ClusterMonitor.Decode.Basic
import ClusterMonitor.Decode.Node
import ClusterMonitor.Dict
import ClusterMonitor.Digest.Base64
import ClusterMonitor.Digest.Sha256
import ClusterMonitor.Duration
import ClusterMonitor.Glob
import ClusterMonitor.InitSection
import ClusterMonitor.Instance
import ClusterMonitor.Json.Reader
import ClusterMonitor.Json.Writer
import ClusterMonitor.Log.Aggregator
import ClusterMonitor.Log.Error
import ClusterMonitor.Log.Pattern
import ClusterMonitor.Log.Processor
import ClusterMonitor.Log.Router
import ClusterMonitor.Log.Rule
import ClusterMonitor.Log.Source
import ClusterMonitor.Logger
import ClusterMonitor.Main
import ClusterMonitor.Options
import ClusterMonitor.Path
import ClusterMonitor.Plan
import ClusterMonitor.Proofs.CommandLine.QuotedUrls
import ClusterMonitor.Proofs.CommandLine.Report
import ClusterMonitor.Proofs.Config.Acceptance
import ClusterMonitor.Proofs.Config.Accounting
import ClusterMonitor.Proofs.Config.Entries
import ClusterMonitor.Proofs.Config.Isolation
import ClusterMonitor.Proofs.Config.JsonFiles
import ClusterMonitor.Proofs.Config.Layers
import ClusterMonitor.Proofs.Config.Overrides
import ClusterMonitor.Proofs.Config.Parts
import ClusterMonitor.Proofs.Config.Publication
import ClusterMonitor.Proofs.Config.Reading
import ClusterMonitor.Proofs.Config.RoundTrip
import ClusterMonitor.Proofs.Config.Secrecy
import ClusterMonitor.Proofs.Config.Shown
import ClusterMonitor.Proofs.Config.Silence
import ClusterMonitor.Proofs.Config.SilentParts
import ClusterMonitor.Proofs.Config.UrlTexts
import ClusterMonitor.Proofs.Decode.Members
import ClusterMonitor.Proofs.Decode.Record
import ClusterMonitor.Proofs.Dict
import ClusterMonitor.Proofs.Json.Numbers
import ClusterMonitor.Proofs.Json.RoundTrip
import ClusterMonitor.Proofs.Log.Anchoring
import ClusterMonitor.Proofs.Log.Boundaries
import ClusterMonitor.Proofs.Log.Conservation
import ClusterMonitor.Proofs.Log.Members
import ClusterMonitor.Proofs.Log.RoundTrip
import ClusterMonitor.Proofs.Log.Routing
import ClusterMonitor.Proofs.Log.Stages
import ClusterMonitor.Proofs.Log.TimedRelease
import ClusterMonitor.Proofs.Log.Waiting
import ClusterMonitor.Proofs.Options.Contract
import ClusterMonitor.Proofs.Options.SharedSection
import ClusterMonitor.Proofs.Options.Texts
import ClusterMonitor.Proofs.Options.UnknownKeys
import ClusterMonitor.Proofs.Plan.Agreement
import ClusterMonitor.Proofs.Plan.Collected
import ClusterMonitor.Proofs.Redaction.Assignments
import ClusterMonitor.Proofs.Redaction.Correlation
import ClusterMonitor.Proofs.Redaction.Credentials
import ClusterMonitor.Proofs.Redaction.Digests
import ClusterMonitor.Proofs.Redaction.Passes
import ClusterMonitor.Proofs.Redaction.Patterns
import ClusterMonitor.Proofs.Redaction.Places
import ClusterMonitor.Proofs.Redaction.Scrubbed
import ClusterMonitor.Proofs.Redaction.Settled
import ClusterMonitor.Proofs.Redaction.Starts
import ClusterMonitor.Proofs.Redaction.UrlPasswords
import ClusterMonitor.Proofs.Redaction.Values
import ClusterMonitor.Proofs.Regex.Continuations
import ClusterMonitor.Proofs.Regex.Grouping
import ClusterMonitor.Proofs.Regex.Outcomes
import ClusterMonitor.Proofs.Regex.Quiet
import ClusterMonitor.Proofs.Regex.Search
import ClusterMonitor.Proofs.Schema.Builtin
import ClusterMonitor.Proofs.Schema.Conformance
import ClusterMonitor.Proofs.Schema.Consistency
import ClusterMonitor.Proofs.Schema.JsonTexts
import ClusterMonitor.Proofs.Schema.RoundTrip
import ClusterMonitor.Proofs.Template.Lines
import ClusterMonitor.Proofs.Template.Shown
import ClusterMonitor.Proofs.Text.Lines
import ClusterMonitor.Proofs.Text.Utf8
import ClusterMonitor.Proofs.Unicode.CharSet
import ClusterMonitor.Proofs.Url.Passwords
import ClusterMonitor.Proofs.Whitelist.Building
import ClusterMonitor.Proofs.Whitelist.RoundTrip
import ClusterMonitor.Proofs.Whitelist.Subtrees
import ClusterMonitor.Redaction
import ClusterMonitor.Regex.Basic
import ClusterMonitor.Regex.Class
import ClusterMonitor.Regex.Expression
import ClusterMonitor.Regex.Parser
import ClusterMonitor.Regex.Replacement
import ClusterMonitor.Regex.Tree
import ClusterMonitor.Report.Code
import ClusterMonitor.Report.Diagnostic
import ClusterMonitor.Report.Failure
import ClusterMonitor.Schema.Basic
import ClusterMonitor.Schema.Builtin
import ClusterMonitor.Schema.Check
import ClusterMonitor.Schema.Text
import ClusterMonitor.Schema.ValueSpec
import ClusterMonitor.Surroundings
import ClusterMonitor.Template
import ClusterMonitor.Text.Lines
import ClusterMonitor.Text.Number
import ClusterMonitor.Text.Quoted
import ClusterMonitor.Text.Utf8
import ClusterMonitor.Unicode.CaseFolding
import ClusterMonitor.Unicode.Category
import ClusterMonitor.Unicode.CharMap
import ClusterMonitor.Unicode.CharSet
import ClusterMonitor.Unicode.Composition
import ClusterMonitor.Unicode.Direction
import ClusterMonitor.Unicode.HostMapping
import ClusterMonitor.Unicode.Property
import ClusterMonitor.Unicode.Script
import ClusterMonitor.Unicode.UpperCase
import ClusterMonitor.Unicode.Word
import ClusterMonitor.Url.Basic
import ClusterMonitor.Url.DomainName
import ClusterMonitor.Url.Host
import ClusterMonitor.Url.Punycode
import ClusterMonitor.Value
import ClusterMonitor.Whitelist.Basic
import ClusterMonitor.Whitelist.Document
import ClusterMonitor.Yaml.Lexer
import ClusterMonitor.Yaml.PlainValue
import ClusterMonitor.Yaml.Reader
import ClusterMonitor.Yaml.ScalarText
import ClusterMonitor.Yaml.Token
import ClusterMonitor.Yaml.Tree
import ClusterMonitor.Yaml.Writer
