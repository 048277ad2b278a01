import WorkflowLint.Catalog
import WorkflowLint.CommandLine.Option
import WorkflowLint.CommandLine.Builtin
import WorkflowLint.CommandLine.Run
import WorkflowLint.Config
import WorkflowLint.Console.Page
import WorkflowLint.Console.Report
import WorkflowLint.Diagnostic
import WorkflowLint.Document
import WorkflowLint.Evaluation
import WorkflowLint.FileSystem.Access
import WorkflowLint.FileSystem.Basic
import WorkflowLint.FileSystem.Discovery
import WorkflowLint.FileSystem.Path
import WorkflowLint.FileSystem.Walk
import WorkflowLint.Fix
import WorkflowLint.FixRound
import WorkflowLint.Glob
import WorkflowLint.Host
import WorkflowLint.Host.Console
import WorkflowLint.Host.Fault
import WorkflowLint.Host.Float
import WorkflowLint.Host.Yaml
import WorkflowLint.Json.Basic
import WorkflowLint.Json.Export
import WorkflowLint.Json.Tree
import WorkflowLint.Line.Comment
import WorkflowLint.Line.Pair
import WorkflowLint.Line.Uses
import WorkflowLint.Line.Value
import WorkflowLint.LintRun
import WorkflowLint.Number.DigitLimit
import WorkflowLint.Number.Double
import WorkflowLint.Outline.Frame
import WorkflowLint.Outline.Parse
import WorkflowLint.Rule.Basic
import WorkflowLint.Rule.Content
import WorkflowLint.Rule.Layout
import WorkflowLint.Rule.LineView
import WorkflowLint.Rule.Registry
import WorkflowLint.Rule.Structure
import WorkflowLint.Terminal.Color
import WorkflowLint.Terminal.Console
import WorkflowLint.Terminal.Literal.Fault
import WorkflowLint.Terminal.Literal.Lexeme
import WorkflowLint.Terminal.Literal.Value
import WorkflowLint.Terminal.Markup
import WorkflowLint.Terminal.Style
import WorkflowLint.Terminal.Table
import WorkflowLint.Terminal.Width
import WorkflowLint.Terminal.WidthTable
import WorkflowLint.Terminal.Wrap
import WorkflowLint.Text.Basic
import WorkflowLint.Text.Blank
import WorkflowLint.Text.Cased
import WorkflowLint.Text.CodePoint
import WorkflowLint.Text.DecimalDigit
import WorkflowLint.Text.LowerCase
import WorkflowLint.Text.Order
import WorkflowLint.Text.Printable
import WorkflowLint.Text.Quoted
import WorkflowLint.Text.Utf8
import WorkflowLint.Text.WordChar
import WorkflowLint.Tree.Node
import WorkflowLint.Workspace
import WorkflowLint.Yaml.Atom
import WorkflowLint.Yaml.Calendar
import WorkflowLint.Yaml.Display
import WorkflowLint.Yaml.Document
import WorkflowLint.Yaml.Encoding
import WorkflowLint.Yaml.Fault
import WorkflowLint.Yaml.Graph
import WorkflowLint.Yaml.Lexeme
import WorkflowLint.Yaml.Library
import WorkflowLint.Yaml.Node
import WorkflowLint.Yaml.Scalar
import WorkflowLint.Yaml.Value
import WorkflowLint.Main
import WorkflowLint.Proofs.Text.Trim
import WorkflowLint.Proofs.Text.Lines
import WorkflowLint.Proofs.Text.Part
import WorkflowLint.Proofs.Line.Blur
import WorkflowLint.Proofs.Line.Comment
import WorkflowLint.Proofs.Line.Uses
import WorkflowLint.Proofs.Line.Layout
import WorkflowLint.Proofs.Fix.Fold
import WorkflowLint.Proofs.Line.Outdated
import WorkflowLint.Proofs.Fix.Pass
import WorkflowLint.Proofs.Fix.PassLine
import WorkflowLint.Proofs.Fix.Fixpoint
import WorkflowLint.Proofs.Rule.Selection
import WorkflowLint.Proofs.Rule.Ignored
import WorkflowLint.Proofs.Line.Pair
import WorkflowLint.Proofs.Tree.Relabel
import WorkflowLint.Proofs.Tree.Redact
import WorkflowLint.Proofs.Outline.Redact
import WorkflowLint.Proofs.Outline.Uses
import WorkflowLint.Proofs.Rule.Content
import WorkflowLint.Proofs.Rule.Structure
import WorkflowLint.Proofs.Fix.Residue
import WorkflowLint.Proofs.Tree.Address
import WorkflowLint.Proofs.Line.Value
import WorkflowLint.Proofs.Outline.Draft
import WorkflowLint.Proofs.Outline.Place
import WorkflowLint.Proofs.Outline.RoundTrip
import WorkflowLint.Proofs.Rule.Draft
import WorkflowLint.Proofs.Tree.Overlay
import WorkflowLint.Proofs.Outline.Concat
import WorkflowLint.Proofs.Outline.Script
import WorkflowLint.Proofs.Rule.Script
import WorkflowLint.Proofs.Fix.Kept
import WorkflowLint.Proofs.FileSystem.Walk
import WorkflowLint.Proofs.Text.Utf8
import WorkflowLint.Proofs.FileSystem.Resolve
import WorkflowLint.Proofs.FileSystem.Replace
import WorkflowLint.Proofs.FileSystem.Naming
import WorkflowLint.Proofs.Workspace.Report
import WorkflowLint.Proofs.Workspace.LintFile
import WorkflowLint.Proofs.Workspace.Rerun
import WorkflowLint.Proofs.Workspace.Failure
import WorkflowLint.Proofs.Workspace.InPlace
import WorkflowLint.Proofs.FileSystem.Seat
import WorkflowLint.Proofs.Workspace.Separate
import WorkflowLint.Proofs.Workspace.Discovery
import WorkflowLint.Proofs.Console.Markup
import WorkflowLint.Proofs.Console.Telling
import WorkflowLint.Proofs.Terminal.Console
import WorkflowLint.Proofs.Terminal.Markup
import WorkflowLint.Proofs.CommandLine.Run
import WorkflowLint.Proofs.Outline.Write
import WorkflowLint.Proofs.Rule.Order
import WorkflowLint.Proofs.Outline.Handling
import WorkflowLint.Proofs.Outline.Trace
import WorkflowLint.Proofs.Outline.Body
import WorkflowLint.Proofs.Rule.WellFormed
import WorkflowLint.Proofs.Fix.Log
import WorkflowLint.Proofs.Fix.Compose
import WorkflowLint.Proofs.FileSystem.ReadBack
import WorkflowLint.Proofs.Json.Decode
import WorkflowLint.Proofs.Json.Token
import WorkflowLint.Proofs.Json.RoundTrip
import WorkflowLint.Proofs.Json.Plain
import WorkflowLint.Proofs.Json.Export
import WorkflowLint.Proofs.Fix.EachLine
import WorkflowLint.Proofs.Outline.Nesting
import WorkflowLint.Proofs.Outline.OffSide
import WorkflowLint.Proofs.Outline.Reindent
import WorkflowLint.Proofs.Outline.Comments
import WorkflowLint.Proofs.Outline.Refusal
import WorkflowLint.Proofs.Rule.Exempt
import WorkflowLint.Proofs.Rule.Strict
import WorkflowLint.Proofs.Rule.Translation
import WorkflowLint.Proofs.FileSystem.Whole
import WorkflowLint.Proofs.Rule.Found
import WorkflowLint.Proofs.Rule.Reference
import WorkflowLint.Proofs.Outline.Origin
import WorkflowLint.Proofs.Outline.Populated
import WorkflowLint.Proofs.Rule.Runner
import WorkflowLint.Proofs.Rule.KeyLine
import WorkflowLint.Proofs.Rule.Expression
import WorkflowLint.Proofs.Rule.Secret
import WorkflowLint.Proofs.Text.Order
import WorkflowLint.Proofs.Repetition
import WorkflowLint.Proofs.Workspace.Listing
import WorkflowLint.Proofs.Workspace.Configuration
import WorkflowLint.Proofs.Line.Quotes
import WorkflowLint.Proofs.Rule.Registry
