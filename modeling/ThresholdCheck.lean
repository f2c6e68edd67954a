import ThresholdCheck.Argument
import ThresholdCheck.Binary64.Basic
import ThresholdCheck.Binary64.Decimal
import ThresholdCheck.Binary64.Literal
import ThresholdCheck.Binary64.Power
import ThresholdCheck.Binary64.Rounding
import ThresholdCheck.Check
import ThresholdCheck.CommandLine.Definition
import ThresholdCheck.CommandLine.Help
import ThresholdCheck.CommandLine.Parsing
import ThresholdCheck.CommandLine.Rejection
import ThresholdCheck.CommandLine.Similarity
import ThresholdCheck.CommandLine.Usage
import ThresholdCheck.CommandLine.Word
import ThresholdCheck.Config.Basic
import ThresholdCheck.Config.Loading
import ThresholdCheck.Config.Reading
import ThresholdCheck.Evaluator
import ThresholdCheck.Fault
import ThresholdCheck.Journal.Check
import ThresholdCheck.Journal.Filter
import ThresholdCheck.Journal.Note
import ThresholdCheck.Main
import ThresholdCheck.Measurement
import ThresholdCheck.Plugin.Basic
import ThresholdCheck.Program
import ThresholdCheck.Range.Basic
import ThresholdCheck.Range.Parsing
import ThresholdCheck.Record
import ThresholdCheck.Report
import ThresholdCheck.Run
import ThresholdCheck.Scale
import ThresholdCheck.Status
import ThresholdCheck.Text.Basic
import ThresholdCheck.Text.Printable
import ThresholdCheck.Text.Quoted
import ThresholdCheck.Text.Signless
import ThresholdCheck.Text.Uppercase
import ThresholdCheck.Text.Wrapping
import ThresholdCheck.ThresholdSet
import ThresholdCheck.Toml.Document
import ThresholdCheck.Toml.Fault
import ThresholdCheck.Toml.Moment
import ThresholdCheck.Toml.Reading
import ThresholdCheck.Toml.Scalar
import ThresholdCheck.Toml.Statement
import ThresholdCheck.Toml.Token
import ThresholdCheck.Proofs.Argument
import ThresholdCheck.Proofs.Binary64.Literal
import ThresholdCheck.Proofs.Binary64.RoundTrip
import ThresholdCheck.Proofs.Binary64.Rounding
import ThresholdCheck.Proofs.Binary64.Text
import ThresholdCheck.Proofs.Check.Evaluation
import ThresholdCheck.Proofs.Check.Order
import ThresholdCheck.Proofs.Check.Reference
import ThresholdCheck.Proofs.Check.Verdict
import ThresholdCheck.Proofs.Evaluator.Call
import ThresholdCheck.Proofs.Evaluator.Consistency
import ThresholdCheck.Proofs.Evaluator.Extension
import ThresholdCheck.Proofs.Evaluator.LastWriter
import ThresholdCheck.Proofs.Evaluator.Verdict
import ThresholdCheck.Proofs.Plugin.Change
import ThresholdCheck.Proofs.Plugin.JoinedLists
import ThresholdCheck.Proofs.Plugin.Lifecycle
import ThresholdCheck.Proofs.Plugin.Opening
import ThresholdCheck.Proofs.Range.Canonical
import ThresholdCheck.Proofs.Range.Grammar
import ThresholdCheck.Proofs.Range.Mode
import ThresholdCheck.Proofs.Range.Rendering
import ThresholdCheck.Proofs.Range.Violation
import ThresholdCheck.Proofs.Record
import ThresholdCheck.Proofs.Report.Line
import ThresholdCheck.Proofs.Report.Lossless
import ThresholdCheck.Proofs.Report.Message
import ThresholdCheck.Proofs.Run.Ending
import ThresholdCheck.Proofs.Run.Mode
import ThresholdCheck.Proofs.Run.MoreRanges
import ThresholdCheck.Proofs.Run.StatusLine
import ThresholdCheck.Proofs.Text.Parts
import ThresholdCheck.Proofs.ThresholdSet.Slots
import ThresholdCheck.Proofs.ThresholdSet.Text
import ThresholdCheck.Proofs.Argument.Numbers
import ThresholdCheck.Proofs.Argument.Grammar
import ThresholdCheck.Proofs.Argument.Declared
import ThresholdCheck.Proofs.Check.Declarations
import ThresholdCheck.Proofs.Argument.Units
import ThresholdCheck.Proofs.Run.Failure
import ThresholdCheck.Proofs.Plugin.Naming
import ThresholdCheck.Proofs.Plugin.Verbosity
