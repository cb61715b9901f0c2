import LineCoverage.Text.Utf8
import LineCoverage.Text.Ranges
import LineCoverage.Text.Printable
import LineCoverage.Text.Blank
import LineCoverage.Text.Lines
import LineCoverage.Decimal.Binary
import LineCoverage.Decimal.Shortest
import LineCoverage.Decimal.Fixed
import LineCoverage.Decimal.Scientific
import LineCoverage.Json.Value
import LineCoverage.Json.Error
import LineCoverage.Json.Shape
import LineCoverage.Json.Cursor
import LineCoverage.Json.Reader.Number
import LineCoverage.Json.Reader.Text
import LineCoverage.Json.Reader.Skip
import LineCoverage.Json.Reader.Document
import LineCoverage.Numeral
import LineCoverage.Dump.Basic
import LineCoverage.Dump.Reader
import LineCoverage.Error
import LineCoverage.Digest.Words
import LineCoverage.Digest.Sha256
import LineCoverage.Digest.Md5
import LineCoverage.Digest.Sha1
import LineCoverage.Path
import LineCoverage.Coverage.Source
import LineCoverage.Coverage.RelevantDirs
import LineCoverage.Coverage.Accumulator
import LineCoverage.Stats.Basic
import LineCoverage.Stats.Delta
import LineCoverage.Stats.Format
import LineCoverage.Service
import LineCoverage.Snapshot.Basic
import LineCoverage.Snapshot.Json
import LineCoverage.Rollup
import LineCoverage.Text.Lowercase
import LineCoverage.Text.Pad
import LineCoverage.Report.Basic
import LineCoverage.Report.Text
import LineCoverage.Report.Html
import LineCoverage.FileTree.Basic
import LineCoverage.FileTree.System
import LineCoverage.Failure
import LineCoverage.Report.Pages
import LineCoverage.Collect.Dumps
import LineCoverage.Signal
import LineCoverage.Git.Object
import LineCoverage.Git.Pattern
import LineCoverage.Git.Ignore
import LineCoverage.Git.Attributes
import LineCoverage.Git.Repository
import LineCoverage.Git.Revision
import LineCoverage.Git.Commands
import LineCoverage.Shell.Syntax
import LineCoverage.Shell.Lexer
import LineCoverage.Shell.Parse
import LineCoverage.Shell.Pattern
import LineCoverage.Shell.Tools
import LineCoverage.Shell.Arith
import LineCoverage.Shell.Builtins
import LineCoverage.Shell.Format
import LineCoverage.Shell.State
import LineCoverage.Shell.Run
import LineCoverage.Machine
import LineCoverage.Git.Query
import LineCoverage.Collect.Pipeline
import LineCoverage.Commands
import LineCoverage.Cli.Similar
import LineCoverage.Cli.Spec
import LineCoverage.Cli.Parse
import LineCoverage.Cli.Run
import LineCoverage.Main
import LineCoverage.Proofs.Coverage.Totals
import LineCoverage.Proofs.Coverage.Finish
import LineCoverage.Proofs.Path.Components
import LineCoverage.Proofs.Path.WorkDirs
import LineCoverage.Proofs.Coverage.Reaggregate
import LineCoverage.Proofs.Dump.Reading
import LineCoverage.Proofs.Stats.Sums
import LineCoverage.Proofs.Rollup.Layout
import LineCoverage.Proofs.Rollup.Partition
import LineCoverage.Proofs.Stats.Deltas
import LineCoverage.Proofs.Rollup.Sides
import LineCoverage.Proofs.Rollup.Safety
import LineCoverage.Proofs.Coverage.Counts
import LineCoverage.Proofs.Report.Escape
import LineCoverage.Proofs.Report.Rows
import LineCoverage.Proofs.Report.Index
import LineCoverage.Proofs.Report.Listing
import LineCoverage.Proofs.Report.Structure
import LineCoverage.Proofs.Text.Decoding
import LineCoverage.Proofs.Report.Anchor
import LineCoverage.Proofs.Text.Encoding
import LineCoverage.Proofs.Json.Tokens
import LineCoverage.Proofs.Json.ReadBack
import LineCoverage.Proofs.Json.Entries
import LineCoverage.Proofs.Json.Values
import LineCoverage.Proofs.Snapshot.RoundTrip
import LineCoverage.Proofs.Coverage.Segments
import LineCoverage.Proofs.Path.Normalize
import LineCoverage.Proofs.Stats.Average
