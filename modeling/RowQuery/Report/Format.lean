/-!
# Formats of reports

The three forms in which statements and rows are reported, and their names.
-/

namespace RowQuery

/-- A form of reports. -/
inductive OutputFormat where
  | text
  | json
  | table
deriving DecidableEq, Repr

namespace OutputFormat

/-- The name of a format. -/
def name : OutputFormat → String
  | .text => "text"
  | .json => "json"
  | .table => "table"

/-- The format with a name. -/
def ofName? : String → Option OutputFormat
  | "text" => some .text
  | "json" => some .json
  | "table" => some .table
  | _ => none

end OutputFormat

end RowQuery
