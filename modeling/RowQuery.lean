import RowQuery.Binary64.Basic
import RowQuery.Binary64.Integral
import RowQuery.Binary64.Rounding
import RowQuery.Binary64.Shortest
import RowQuery.Binary64.Style
import RowQuery.Change.Delete
import RowQuery.Change.Insert
import RowQuery.Change.Update
import RowQuery.CommandLine.Arguments
import RowQuery.CommandLine.Run
import RowQuery.Condition.Basic
import RowQuery.Condition.Fragment
import RowQuery.Condition.Matching
import RowQuery.Condition.Operator
import RowQuery.Description.Change
import RowQuery.Description.Condition
import RowQuery.Description.Decoder
import RowQuery.Description.Select
import RowQuery.Error
import RowQuery.Files
import RowQuery.Json.Basic
import RowQuery.Json.Document
import RowQuery.Json.Printer
import RowQuery.Json.Reader
import RowQuery.Main
import RowQuery.Proofs.Binary64.Decimal
import RowQuery.Proofs.Binary64.Integral
import RowQuery.Proofs.Binary64.Nearest
import RowQuery.Proofs.Binary64.Positional
import RowQuery.Proofs.Binary64.Rounding
import RowQuery.Proofs.Binary64.Shortest
import RowQuery.Proofs.Binary64.Text
import RowQuery.Proofs.Binary64.Value
import RowQuery.Proofs.Condition.Agreement
import RowQuery.Proofs.Condition.Alike
import RowQuery.Proofs.Condition.Consistency
import RowQuery.Proofs.Condition.Decoding
import RowQuery.Proofs.Condition.Depth
import RowQuery.Proofs.Condition.Fault
import RowQuery.Proofs.Condition.Fragment
import RowQuery.Proofs.Condition.Height
import RowQuery.Proofs.Condition.Leaves
import RowQuery.Proofs.Condition.NormalForm
import RowQuery.Proofs.Condition.Pattern
import RowQuery.Proofs.Condition.Ranking
import RowQuery.Proofs.Condition.Redundancy
import RowQuery.Proofs.Condition.Siblings
import RowQuery.Proofs.Condition.Sources
import RowQuery.Proofs.Condition.Spelling
import RowQuery.Proofs.Condition.Verdict
import RowQuery.Proofs.Description.Condition
import RowQuery.Proofs.Description.Faithful
import RowQuery.Proofs.Description.Nesting
import RowQuery.Proofs.Description.ReadBack
import RowQuery.Proofs.Description.Record
import RowQuery.Proofs.Description.Shape
import RowQuery.Proofs.Json.Document
import RowQuery.Proofs.Json.Exact
import RowQuery.Proofs.Json.Fields
import RowQuery.Proofs.Json.Grammar
import RowQuery.Proofs.Json.Nesting
import RowQuery.Proofs.Json.Printer
import RowQuery.Proofs.Json.Reader
import RowQuery.Proofs.Json.Written
import RowQuery.Proofs.Outcome
import RowQuery.Proofs.Report.Columns
import RowQuery.Proofs.Report.Lossless
import RowQuery.Proofs.Scalar.Cells
import RowQuery.Proofs.Scalar.Loose
import RowQuery.Proofs.Scalar.Order
import RowQuery.Proofs.Select.Clauses
import RowQuery.Proofs.Select.Coherence
import RowQuery.Proofs.Select.Decoding
import RowQuery.Proofs.Select.Failure
import RowQuery.Proofs.Select.Fields
import RowQuery.Proofs.Select.Grouping
import RowQuery.Proofs.Select.Invariance
import RowQuery.Proofs.Select.Layout
import RowQuery.Proofs.Select.Order
import RowQuery.Proofs.Select.Range
import RowQuery.Proofs.Select.Reference
import RowQuery.Proofs.Select.Window
import RowQuery.Proofs.Settings.Layers
import RowQuery.Proofs.Settings.Loading
import RowQuery.Proofs.Sql.Clause
import RowQuery.Proofs.Sql.Congruence
import RowQuery.Proofs.Sql.Correspondence
import RowQuery.Proofs.Sql.Grammar
import RowQuery.Proofs.Sql.Identifier
import RowQuery.Proofs.Sql.Listing
import RowQuery.Proofs.Sql.Names
import RowQuery.Proofs.Sql.Outline
import RowQuery.Proofs.Sql.Token
import RowQuery.Proofs.Sql.Truth
import RowQuery.Proofs.Statement.Lines
import RowQuery.Proofs.Statement.Listing
import RowQuery.Proofs.Statement.Markers
import RowQuery.Proofs.Statement.Parameters
import RowQuery.Proofs.Statement.Restriction
import RowQuery.Proofs.Statement.Validation
import RowQuery.Proofs.Steps
import RowQuery.Proofs.Text.Pieces
import RowQuery.Proofs.Text.Utf8
import RowQuery.Report.Format
import RowQuery.Report.Render
import RowQuery.Report.Table
import RowQuery.Row
import RowQuery.Scalar.Basic
import RowQuery.Scalar.Order
import RowQuery.Select.Answer
import RowQuery.Select.Basic
import RowQuery.Select.Statement
import RowQuery.Settings.Basic
import RowQuery.Settings.Load
import RowQuery.Settings.Path
import RowQuery.Sql.Identifier
import RowQuery.Sql.Statement
import RowQuery.Text.CaseFold
import RowQuery.Text.CaseRun
import RowQuery.Text.CharWidth
import RowQuery.Text.Emoji
import RowQuery.Text.Ligature
import RowQuery.Text.Like
import RowQuery.Text.LowerCase
import RowQuery.Text.Numeral
import RowQuery.Text.Pieces
import RowQuery.Text.Quoted
import RowQuery.Text.Width
import RowQuery.Toml.Basic
import RowQuery.Toml.DateTime
import RowQuery.Toml.Reader
