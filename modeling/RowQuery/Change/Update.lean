import RowQuery.Condition.Fragment
import RowQuery.Row

/-!
# Updates

An `Update` sets columns in the rows for which all of a list of comparisons hold, and in every row
if there are none. Setting nothing is refused.
-/

namespace RowQuery

/-- A description of columns to set. -/
structure Update where
  table : String
  /-- The columns and what they are set to, in order. -/
  assignments : Row
  /-- The comparisons that restrict the rows. -/
  filter : List Comparison := []

namespace Update

/-- An assignment as SQL, with the scalar of its marker. -/
def assignment (column : String) (value : Json) : Except QueryError (String × Scalar) := do
  let name ← Sql.quoteIdentifier column
  let scalar ← (Scalar.ofJson value).mapError (.nonScalarValue column)
  return (name ++ " = ?", scalar)

/-- The line that restricts the rows. -/
def whereLine (members : List Fragment) : String :=
  if members.isEmpty then "WHERE TRUE"
  else "WHERE " ++ " AND ".intercalate (members.map Fragment.sql)

/-- The statement of a description. -/
def statement (update : Update) : Except QueryError Statement := do
  if update.assignments.entries.isEmpty then throw .emptyAssignments
  let settings ← update.assignments.entries.mapM fun entry => assignment entry.1 entry.2
  let members ← update.filter.mapM Comparison.fragment
  let lines := [
    "UPDATE " ++ update.table,
    "SET " ++ ", ".intercalate (settings.map Prod.fst),
    whereLine members]
  return {
    sql := Sql.ofLines lines
    placedValues := settings.map Prod.snd ++ members.flatMap Fragment.values }

end Update

end RowQuery
