import HoldoutLine.Assessment
import HoldoutLine.Binary64
import HoldoutLine.Command.Options
import HoldoutLine.Command.Run
import HoldoutLine.Command.Scan
import HoldoutLine.Command.Spelling
import HoldoutLine.Dataset.Basic
import HoldoutLine.Dataset.Bundled
import HoldoutLine.Dataset.ColumnName
import HoldoutLine.Dataset.Decode
import HoldoutLine.Decimal.Notation
import HoldoutLine.Decimal.Numeral
import HoldoutLine.Decimal.Shortest
import HoldoutLine.Holdout
import HoldoutLine.Json.Basic
import HoldoutLine.Json.Printer
import HoldoutLine.Json.Reader
import HoldoutLine.Log
import HoldoutLine.Log.Filter
import HoldoutLine.Log.Setting
import HoldoutLine.Main
import HoldoutLine.Pattern.Bracket
import HoldoutLine.Pattern.Escape
import HoldoutLine.Pattern.Flags
import HoldoutLine.Pattern.Form
import HoldoutLine.Pipeline
import HoldoutLine.Proofs.Binary64.Unpacked
import HoldoutLine.Proofs.Binary64.Nearest
import HoldoutLine.Proofs.Binary64.Rounding
import HoldoutLine.Proofs.Binary64.Reals
import HoldoutLine.Proofs.Binary64.Arithmetic
import HoldoutLine.Proofs.Binary64.Order
import HoldoutLine.Proofs.Binary64.Sums
import HoldoutLine.Proofs.Random.Shuffle
import HoldoutLine.Random.Shuffle
import HoldoutLine.Random.WordStream
import HoldoutLine.Regression.FitError
import HoldoutLine.Regression.FittedLine
import HoldoutLine.Regression.Line
import HoldoutLine.Regression.Metrics
import HoldoutLine.Regression.StudentT
import HoldoutLine.Report.Basic
import HoldoutLine.Report.Decode
import HoldoutLine.Report.Document
import HoldoutLine.Report.Sink
import HoldoutLine.Report.Text
import HoldoutLine.Scalar
import HoldoutLine.Table.Feed
import HoldoutLine.Table.Scanner
import HoldoutLine.Table.Written
import HoldoutLine.Text.Aligned
import HoldoutLine.Text.Alphanumeric
import HoldoutLine.Text.Blank
import HoldoutLine.Text.CharTable
import HoldoutLine.Text.CodePoint
import HoldoutLine.Text.Lowercase
import HoldoutLine.Text.Quoted
import HoldoutLine.Text.Unassigned
import HoldoutLine.Text.Utf8
import HoldoutLine.Workbench
import HoldoutLine.Proofs.Except
import HoldoutLine.Proofs.Holdout.Partition
import HoldoutLine.Proofs.Holdout.Nesting
import HoldoutLine.Proofs.Holdout.Sizes
import HoldoutLine.Proofs.Assessment.Measures
import HoldoutLine.Proofs.Pipeline.Stages
import HoldoutLine.Proofs.Pipeline.Failures
import HoldoutLine.Proofs.Pipeline.Separation
import HoldoutLine.Proofs.Pipeline.Accounting
import HoldoutLine.Proofs.Pipeline.Sessions
import HoldoutLine.Proofs.Assessment.Signs
import HoldoutLine.Proofs.Regression.Magnitudes
import HoldoutLine.Proofs.Pipeline.Numbers
import HoldoutLine.Proofs.Table.Reads
import HoldoutLine.Proofs.Table.Places
import HoldoutLine.Proofs.Dataset.Defects
import HoldoutLine.Proofs.Text.Utf8
import HoldoutLine.Proofs.Dataset.Reads
import HoldoutLine.Proofs.Dataset.Lines
import HoldoutLine.Proofs.Decimal.Grammar
import HoldoutLine.Proofs.Decimal.Value
import HoldoutLine.Proofs.Table.Written
import HoldoutLine.Proofs.Dataset.Sheet
import HoldoutLine.Proofs.Dataset.Causes
import HoldoutLine.Proofs.Dataset.Validity
import HoldoutLine.Proofs.Text.Lowercase
import HoldoutLine.Proofs.Dataset.ColumnNames
import HoldoutLine.Proofs.Command.Values
import HoldoutLine.Proofs.Command.Spelling
import HoldoutLine.Proofs.Command.RoundTrip
import HoldoutLine.Proofs.Command.Completeness
import HoldoutLine.Proofs.Command.Requests
import HoldoutLine.Proofs.Report.Writing
import HoldoutLine.Proofs.Command.Outcomes
import HoldoutLine.Proofs.Command.Loudness
import HoldoutLine.Proofs.Binary64.Bits
import HoldoutLine.Proofs.Decimal.Nearest
import HoldoutLine.Proofs.Decimal.Shortest
import HoldoutLine.Proofs.Json.Grammar
import HoldoutLine.Proofs.Json.Reader
import HoldoutLine.Proofs.Json.Numbers
import HoldoutLine.Proofs.Command.Messages
import HoldoutLine.Proofs.Command.DefaultRun
import HoldoutLine.Proofs.Json.Printer
import HoldoutLine.Proofs.Report.RoundTrip
import HoldoutLine.Proofs.Report.FixedPlaces
import HoldoutLine.Proofs.Report.Layout
import HoldoutLine.Proofs.Assessment.Undefined
import HoldoutLine.Proofs.Regression.LeastSquares
import HoldoutLine.Proofs.Binary64.Extended
import HoldoutLine.Proofs.Regression.ExactMeasures
import HoldoutLine.Proofs.Assessment.Recomputed
import HoldoutLine.Proofs.Regression.Diagnostics
import HoldoutLine.Proofs.Regression.Significance
