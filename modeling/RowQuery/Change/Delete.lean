import RowQuery.Condition.Fragment

/-!
# Deletes

A `Delete` removes the rows that a filter keeps, and all rows if it has none or a vacuous one.
-/

namespace RowQuery

/-- A description of rows to remove. -/
structure Delete where
  table : String
  filter? : Option Condition := none

/-- The statement of a description. -/
def Delete.statement (delete : Delete) : Except QueryError Statement := do
  let filter ← Condition.filterFragment delete.filter?
  let lines := ("DELETE FROM " ++ delete.table) :: filter.whereClause?.toList
  return { sql := Sql.ofLines lines, placedValues := filter.values }

end RowQuery
