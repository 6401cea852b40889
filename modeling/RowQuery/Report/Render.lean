import RowQuery.Json.Printer
import RowQuery.Report.Format
import RowQuery.Report.Table
import RowQuery.Row
import RowQuery.Sql.Statement

/-!
# Reports

Statements and rows are reported as text, as JSON or as a table (`OutputFormat`). As text, the
values of a statement follow it on one line and every row is a line of JSON. The table of rows has a
column for every column of any row, in the order in which they first occur (`rowColumns`), and every
row shows under each of them its own cell (`rowCells`).
-/

namespace RowQuery

/-! ## Statements -/

/-- The values of a statement as a JSON array. -/
def Statement.valuesJson (s : Statement) : Json := .array (s.placedValues.map Scalar.toJson)

/-- A statement as a JSON object. -/
def Statement.toJson (s : Statement) : Json :=
  .object [("sql", .text s.sql), ("placedValues", s.valuesJson)]

namespace Report

/-- The table of values with their positions, from one on, and their kinds. -/
def valueTable (values : List Scalar) : Table where
  header := ["#", "value", "type"]
  rows := values.zipIdx.map fun (value, position) =>
    [toString (position + 1), value.display, value.kindName]

/-- The report of a statement. -/
def ofStatement (s : Statement) : OutputFormat → String
  | .text => s.sql ++ "\n-- placed values: " ++ s.valuesJson.compact ++ "\n"
  | .json => s.toJson.indented ++ "\n"
  | .table => s.sql ++ "\n" ++ (valueTable s.placedValues).render ++ "\n"

/-! ## Rows -/

/-- The members of a list that are not in another, each once and in order of first mention. -/
def unseen (seen : List String) : List String → List String
  | [] => []
  | column :: rest =>
    if seen.contains column then unseen seen rest
    else column :: unseen (column :: seen) rest

/-- The columns of any of the rows, in order of first mention. -/
def rowColumns (rows : List Row) : List String := unseen [] (rows.flatMap Row.columns)

/-- The text of a cell: of a scalar what shows it, of an array or object its JSON. -/
def cellText (value : Json) : String :=
  match Scalar.ofJson value with
  | .ok scalar => scalar.display
  | .error _ => value.compact

/-- The texts of a row under some columns, empty where the row has no cell. -/
def rowCells (columns : List String) (row : Row) : List String :=
  columns.map fun column => (row.get? column).elim "" cellText

/-- The table of rows. -/
def rowTable (rows : List Row) : Table :=
  let columns := rowColumns rows
  { header := columns, rows := rows.map (rowCells columns) }

/-- The report of rows. -/
def ofRows (rows : List Row) : OutputFormat → String
  | .text => String.join (rows.map fun row => row.toJson.compact ++ "\n")
  | .json => (Json.array (rows.map Row.toJson)).indented ++ "\n"
  | .table =>
    if rows.isEmpty then "(0 rows)\n"
    else (rowTable rows).render ++ "\n(" ++ toString rows.length ++ " rows)\n"

end Report

end RowQuery
