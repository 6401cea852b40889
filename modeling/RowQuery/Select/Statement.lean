import RowQuery.Condition.Fragment
import RowQuery.Select.Basic

/-!
# Selects as SQL

`Select.statement` writes a description as lines in a fixed order, with an empty line for a clause
that has no content: fields and table, a line for each join, `WHERE`, `GROUP BY`, `ORDER BY` and
`LIMIT`. Column names are quoted; tables, aliases and the columns of joins stand as they are given.
-/

namespace RowQuery

/-- The line of a join. -/
def Join.line (join : Join) : String :=
  let pairs := join.on.map fun pair => pair.left ++ " " ++ pair.operator.text ++ " " ++ pair.right
  join.kind.keyword ++ " " ++ Sql.tableReference join.table join.alias? ++ " ON "
    ++ " AND ".intercalate pairs

/-- A sort key as it is written. -/
def OrderKey.sql (key : OrderKey) : Except QueryError String :=
  (Sql.quoteIdentifier key.column).map fun column => column ++ " " ++ key.direction.text

namespace Select

/-- The line of fields and table. -/
def fieldsLine (s : Select) : Except QueryError String := do
  let fields ← if s.fields.isEmpty then pure "*" else Sql.quoteList s.fields
  return "SELECT " ++ fields ++ " FROM " ++ Sql.tableReference s.table s.alias?

/-- The lines of the joins, or an empty one. -/
def joinLines (s : Select) : List String :=
  if s.joins.isEmpty then [""] else s.joins.map Join.line

/-- The line of grouping columns. -/
def groupLine (s : Select) : Except QueryError String :=
  if s.groupBy.isEmpty then .ok ""
  else (Sql.quoteList s.groupBy).map fun columns => "GROUP BY " ++ columns

/-- The line of sort keys. -/
def orderLine (s : Select) : Except QueryError String :=
  if s.orderBy.isEmpty then .ok ""
  else (s.orderBy.mapM OrderKey.sql).map fun keys => "ORDER BY " ++ ", ".intercalate keys

/-- The row count that stands for no limit behind an offset, the greatest that databases take. -/
def unboundedLimit : Nat := 9223372036854775807

/-- The line of offset and row count. -/
def limitLine (limit? skip? : Option UInt64) : String :=
  let skip := skip?.getD 0
  match limit? with
  | some limit =>
    if 0 < skip then "LIMIT " ++ toString skip.toNat ++ ", " ++ toString limit.toNat
    else "LIMIT " ++ toString limit.toNat
  | none =>
    if 0 < skip then "LIMIT " ++ toString skip.toNat ++ ", " ++ toString unboundedLimit else ""

/-- The statement of a description. -/
def statement (s : Select) : Except QueryError Statement := do
  let fieldsLine ← s.fieldsLine
  let filter ← Condition.filterFragment s.filter?
  let groupLine ← s.groupLine
  let orderLine ← s.orderLine
  let lines := fieldsLine :: s.joinLines
    ++ [filter.whereClause?.getD "", groupLine, orderLine, limitLine s.limit? s.skip?]
  return { sql := Sql.ofLines lines, placedValues := filter.values }

end Select

end RowQuery
