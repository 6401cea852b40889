import RowQuery.Condition.Matching
import RowQuery.Json.Printer
import RowQuery.Select.Basic

/-!
# Selects answered from rows

`Select.answer` answers a description from a list of rows, in phases: keep the rows that the filter
keeps (`Select.filtered`), of each group the first row (`Select.grouped`), sort (`Select.sorted`),
cut the window (`Select.window`) and keep the fields asked for (`Row.project`). A phase works on all
rows that reach it before the next begins, so an error in one is one of a row that reached it.
Joins are not answered.
-/

namespace RowQuery

/-! ## Groups -/

/-- What a row is grouped by: the texts of its cells in some columns. -/
def Row.groupKey (columns : List String) (row : Row) : Except QueryError (List String) :=
  columns.mapM fun column =>
    match row.get? column with
    | some value => .ok value.compact
    | none => .error (.missingField column)

/-- The items whose key occurs neither in `seen` nor at an earlier item. -/
def firstOfEach {κ α : Type} [BEq κ] (seen : List κ) : List (κ × α) → List α
  | [] => []
  | (key, a) :: rest =>
    if seen.contains key then firstOfEach seen rest else a :: firstOfEach (key :: seen) rest

/-! ## Order -/

/-- The cells a row is sorted by. -/
def Row.orderCells (keys : List OrderKey) (row : Row) : Except QueryError (List Scalar) :=
  keys.mapM fun key => row.cell key.column

/-- The order of two cells in a direction. -/
def Direction.orient : Direction → Ordering → Ordering
  | .ascending, o => o
  | .descending, o => o.swap

/-- The order of two rows by the cells they are sorted by: that of the first key that tells them
apart. -/
def compareCells : List OrderKey → List Scalar → List Scalar → Ordering
  | key :: keys, a :: as, b :: bs =>
    (key.direction.orient (a.sortCompare b)).then (compareCells keys as bs)
  | _, _, _ => .eq

/-! ## Fields -/

/-- The row with the fields asked for, in the order of first mention; all when none are. -/
def Row.project (fields : List String) (row : Row) : Except QueryError Row :=
  if fields.isEmpty then .ok row
  else do
    let cells ← fields.mapM fun field =>
      match row.get? field with
      | some value => .ok (field, value)
      | none => .error (.missingField field)
    return .ofFields cells

namespace Select

/-- The rows that the filter keeps. -/
def filtered (filter? : Option Condition) : List Row → Except QueryError (List Row)
  | [] => .ok []
  | row :: rest => do
    let keep ← Condition.keeps filter? row
    let rows ← filtered filter? rest
    return if keep then row :: rows else rows

/-- The first row of each group. -/
def grouped (columns : List String) (rows : List Row) : Except QueryError (List Row) :=
  if columns.isEmpty then .ok rows
  else do
    let keyed ← rows.mapM fun row => (row.groupKey columns).map (·, row)
    return firstOfEach [] keyed

/-- The rows in order; rows that the keys do not tell apart stay as they were. -/
def sorted (keys : List OrderKey) (rows : List Row) : Except QueryError (List Row) :=
  if keys.isEmpty then .ok rows
  else do
    let keyed ← rows.mapM fun row => (row.orderCells keys).map (·, row)
    return (keyed.mergeSort fun a b => compareCells keys a.1 b.1 != .gt).map Prod.snd

/-- The rows from an offset on, up to a count. -/
def window {α : Type} (skip? limit? : Option UInt64) (rows : List α) : List α :=
  let rest := rows.drop (skip?.getD 0).toNat
  match limit? with
  | some limit => rest.take limit.toNat
  | none => rest

/-- The answer of a description from rows. -/
def answer (s : Select) (rows : List Row) : Except QueryError (List Row) := do
  if !s.joins.isEmpty then throw .joinsNotSupported
  let kept ← filtered s.filter? rows
  let firsts ← grouped s.groupBy kept
  let ordered ← sorted s.orderBy firsts
  (window s.skip? s.limit? ordered).mapM (Row.project s.fields)

end Select

end RowQuery
