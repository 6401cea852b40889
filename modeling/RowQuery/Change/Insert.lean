import RowQuery.Row
import RowQuery.Sql.Statement

/-!
# Inserts

An `Insert` adds rows to a table. Its columns are those of the first row; every row must have each
of them with a scalar, and what else a row has is left out (`validateRows`). `Insert.statement`
writes the rows as tuples of markers.
-/

namespace RowQuery

/-- What happens to a row whose key is there already. -/
inductive InsertType where
  /-- Every column of the row that is there is updated. -/
  | insertOrUpdate
  /-- The database refuses it. -/
  | insertNew
  /-- The row that is there is replaced. -/
  | replace
deriving DecidableEq, Repr

/-- A description of rows to insert. -/
structure Insert where
  table : String
  rows : List Row
  insertType : InsertType := .insertOrUpdate

/-! ## Validation -/

/-- The cells of some columns of the row at a position. -/
def insertCells (position : Nat) (row : Row) (columns : List String) :
    Except QueryError (List Scalar) :=
  columns.mapM fun column =>
    match row.get? column with
    | none => .error (.missingInsertColumn position column)
    | some value => (Scalar.ofJson value).mapError (.nonPrimitiveValue position column)

/-- The cells of some columns, row after row, for rows that begin at a position. -/
def allCells (columns : List String) (position : Nat) :
    List Row → Except QueryError (List Scalar)
  | [] => .ok []
  | row :: rest => do
    let cells ← insertCells position row columns
    let others ← allCells columns (position + 1) rest
    return cells ++ others

/-- The columns to insert and the cells of all rows, row after row. -/
def validateRows (rows : List Row) : Except QueryError (List String × List Scalar) :=
  match rows with
  | [] => .error .emptyRows
  | first :: _ => (allCells first.columns 0 rows).map (first.columns, ·)

/-! ## The statement -/

namespace InsertType

/-- The verb of the statement. -/
def keyword : InsertType → String
  | .replace => "REPLACE"
  | .insertOrUpdate | .insertNew => "INSERT"

/-- The line for rows that are there already. -/
def duplicateLine (columns : List String) : InsertType → String
  | .insertOrUpdate =>
    "ON DUPLICATE KEY UPDATE "
      ++ ", ".intercalate (columns.map fun column => column ++ " = VALUES(" ++ column ++ ")")
  | .insertNew | .replace => ""

end InsertType

namespace Insert

/-- The statement of a description. Table and columns stand as they are given. -/
def statement (insert : Insert) : Except QueryError Statement := do
  let (columns, cells) ← validateRows insert.rows
  let place := "(" ++ Sql.markers columns.length ++ ")"
  let lines := [
    insert.insertType.keyword,
    "INTO " ++ insert.table ++ " (" ++ ", ".intercalate columns ++ ")",
    "VALUES " ++ ", ".intercalate (List.replicate insert.rows.length place),
    insert.insertType.duplicateLine columns]
  return { sql := Sql.ofLines lines, placedValues := cells }

end Insert

end RowQuery
