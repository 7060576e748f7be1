import LintRepair.Agent.Backend
import LintRepair.Agent.Repair
import LintRepair.Agent.Reply
import LintRepair.Agent.Settings
import LintRepair.Command.Basic
import LintRepair.Command.Capture
import LintRepair.Command.Run
import LintRepair.Command.Runner
import LintRepair.CommandLine.Options
import LintRepair.CommandLine.Run
import LintRepair.Config.Basic
import LintRepair.Config.Error
import LintRepair.Config.File
import LintRepair.Config.Toml
import LintRepair.Diagnostic.Basic
import LintRepair.Diagnostic.Extract
import LintRepair.Diagnostic.Json
import LintRepair.Diagnostic.Line
import LintRepair.EnvFile
import LintRepair.Error
import LintRepair.Files.Error
import LintRepair.Files.Path
import LintRepair.Files.Replace
import LintRepair.Files.Tree
import LintRepair.Json.Pretty
import LintRepair.Json.Reader
import LintRepair.Json.Token
import LintRepair.Json.Value
import LintRepair.Loop.Basic
import LintRepair.Loop.Explain
import LintRepair.Loop.Journal
import LintRepair.Loop.Rehearsal
import LintRepair.Loop.Run
import LintRepair.Loop.RunId
import LintRepair.Loop.Trace
import LintRepair.Main
import LintRepair.Project.Init
import LintRepair.Project.Layout
import LintRepair.Project.Plan
import LintRepair.Project.Repair
import LintRepair.Project.Source
import LintRepair.Prompt
import LintRepair.Proofs.Command.Capture
import LintRepair.Proofs.Diagnostic.Block
import LintRepair.Proofs.Diagnostic.Cut
import LintRepair.Proofs.Diagnostic.Line
import LintRepair.Proofs.Diagnostic.LineEnd
import LintRepair.Proofs.Diagnostic.RoundTrip
import LintRepair.Proofs.Diagnostic.Scan
import LintRepair.Proofs.Diagnostic.Sequence
import LintRepair.Proofs.Diagnostic.Stability
import LintRepair.Proofs.Diagnostic.WellFormed
import LintRepair.Proofs.Loop.Handoff
import LintRepair.Proofs.Loop.History
import LintRepair.Proofs.Loop.Round
import LintRepair.Proofs.Loop.Step
import LintRepair.Proofs.Loop.Store
import LintRepair.Proofs.Loop.Verdict
import LintRepair.Proofs.Text.Lines
import LintRepair.Proofs.Text.Trim
import LintRepair.Reply.Fence
import LintRepair.Reply.Source
import LintRepair.Shell.Builtin
import LintRepair.Shell.Calling
import LintRepair.Shell.Control
import LintRepair.Shell.Echo
import LintRepair.Shell.Evaluation
import LintRepair.Shell.Field
import LintRepair.Shell.Filling
import LintRepair.Shell.Grammar
import LintRepair.Shell.Input
import LintRepair.Shell.Jobs
import LintRepair.Shell.Judging
import LintRepair.Shell.Lookup
import LintRepair.Shell.Pattern
import LintRepair.Shell.Redirecting
import LintRepair.Shell.Running
import LintRepair.Shell.Script
import LintRepair.Shell.Session
import LintRepair.Shell.Settings
import LintRepair.Shell.Start
import LintRepair.Shell.Sum
import LintRepair.Shell.Table
import LintRepair.Shell.Token
import LintRepair.Shell.WordReader
import LintRepair.System.Kernel
import LintRepair.System.Process
import LintRepair.System.Refusal
import LintRepair.Text.Alphanumeric
import LintRepair.Text.ByteText
import LintRepair.Text.CharClass
import LintRepair.Text.Graphic
import LintRepair.Text.Lines
import LintRepair.Text.Quoted
import LintRepair.Text.Split
import LintRepair.Text.Trim
import LintRepair.Text.Utf8
import LintRepair.Toml.Quotation
import LintRepair.Toml.Reader
import LintRepair.Toml.Scalar
import LintRepair.Toml.Value
import LintRepair.Toml.Writer
import LintRepair.Tools.Arrange
import LintRepair.Tools.Basic
import LintRepair.Tools.Condition
import LintRepair.Tools.Escape
import LintRepair.Tools.Format
import LintRepair.Tools.List
import LintRepair.Tools.Number
import LintRepair.Tools.Options
import LintRepair.Tools.Print
import LintRepair.Tools.Real
import LintRepair.Tools.Search
import LintRepair.Tools.Show
import LintRepair.Tools.Table
import LintRepair.Tools.Translate
import LintRepair.Web.Exchange
import LintRepair.Web.Status
import LintRepair.Web.Url
import LintRepair.World
import LintRepair.Proofs.Loop.Order
import LintRepair.Proofs.Loop.Alike
import LintRepair.Proofs.Loop.BestEffort
import LintRepair.Proofs.Loop.Budget
import LintRepair.Proofs.Loop.Lookups
import LintRepair.Proofs.Reply.Fence
import LintRepair.Proofs.Reply.Transport
import LintRepair.Proofs.Agent.Repair
import LintRepair.Proofs.Loop.Service
import LintRepair.Proofs.Loop.Truncation
import LintRepair.Proofs.Files.Tree
import LintRepair.Proofs.Loop.Invariant
import LintRepair.Proofs.Loop.Journal
import LintRepair.Proofs.Loop.Record
import LintRepair.Proofs.Loop.Counters
import LintRepair.Proofs.Text.Utf8
import LintRepair.Proofs.Files.Replace
import LintRepair.Proofs.Files.Parent
import LintRepair.Proofs.Config.Usable
import LintRepair.Proofs.Project.Source
import LintRepair.Proofs.Toml.Quotation
import LintRepair.Proofs.Toml.Item
import LintRepair.Proofs.Toml.Document
import LintRepair.Proofs.Config.RoundTrip
import LintRepair.Proofs.Loop.Answer
import LintRepair.Proofs.CommandLine.Code
import LintRepair.Proofs.Text.Search
import LintRepair.Proofs.Reply.Choice
import LintRepair.Proofs.Reply.Search
import LintRepair.Proofs.Reply.Indentation
import LintRepair.Proofs.Diagnostic.Headerless
import LintRepair.Proofs.Prompt
import LintRepair.Proofs.Json.Literal
import LintRepair.Proofs.Json.Token
import LintRepair.Proofs.Json.Reader
import LintRepair.Proofs.Json.Pretty
import LintRepair.Proofs.Json.Record
import LintRepair.Proofs.Files.Read
import LintRepair.Proofs.Diagnostic.Json
import LintRepair.Proofs.Agent.Reply
import LintRepair.Proofs.Files.Atomic
import LintRepair.Proofs.Files.Closed
import LintRepair.Proofs.Project.Init
import LintRepair.Proofs.System.Rename
import LintRepair.Proofs.System.Kernel
import LintRepair.Proofs.Project.Closed
import LintRepair.Proofs.Shell.Start
import LintRepair.Proofs.Shell.Pattern
import LintRepair.Proofs.Shell.Field
import LintRepair.Proofs.Shell.Quotation
import LintRepair.Proofs.Tools.Number
import LintRepair.Proofs.Tools.Options
import LintRepair.Proofs.Tools.Translate
import LintRepair.Proofs.Shell.Sum
import LintRepair.Proofs.CommandLine.Closed
