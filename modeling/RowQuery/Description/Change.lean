import RowQuery.Change.Delete
import RowQuery.Change.Insert
import RowQuery.Change.Update
import RowQuery.Description.Select

/-!
# Rows and changes in JSON

A row is an object, of which a repeated key keeps its first place and its last value. An insert has
the fields `table`, `rows` and `insertType`, an update `table`, `set` and `where`, a delete `table`
and `where`; each may be an array of them in this order.
-/

namespace RowQuery.Decoder

/-! ## Rows -/

/-- A row. -/
def row : Decoder Row
  | .object tooDeep fields stop => do
    entered tooDeep
    let fields ← (Document.strictFields fields).mapError .fault
    ended stop
    return .ofFields (Json.collapseFields fields)
  | d => .error (mismatch "a map" d)

/-- A list of rows. -/
def rows : Decoder (List Row) := list row

/-! ## Changes -/

/-- The names of the ways to insert. -/
def insertTypes : List (String × InsertType) :=
  [("insertOrUpdate", .insertOrUpdate), ("insertNew", .insertNew), ("replace", .replace)]

/-- A way to insert. -/
def insertType : Decoder InsertType := variant insertTypes

/-- The rows to insert. -/
def rowsField : Field (List Row) := ⟨"rows", rows⟩

/-- The way to insert them. -/
def insertTypeField : Field InsertType := ⟨"insertType", insertType⟩

/-- An insert. -/
def insert : Decoder Insert :=
  record "InsertQuery" [tableField.check, rowsField.check, insertTypeField.check] fun r => do
    let table ← r.required tableField
    let rows ← r.required rowsField
    let insertType ← r.optional insertTypeField .insertOrUpdate
    return { table, rows, insertType }

/-- The columns to set. -/
def setField : Field Row := ⟨"set", row⟩

/-- The comparisons that restrict an update. -/
def comparisonsField : Field (List Comparison) := ⟨"where", list comparison⟩

/-- An update. -/
def update : Decoder Update :=
  record "UpdateQuery" [tableField.check, setField.check, comparisonsField.check] fun r => do
    let table ← r.required tableField
    let assignments ← r.required setField
    let filter ← r.optional comparisonsField []
    return { table, assignments, filter }

/-- A delete. -/
def delete : Decoder Delete :=
  record "DeleteQuery" [tableField.check, filterField.check] fun r => do
    let table ← r.required tableField
    let filter? ← r.optional filterField none
    return { table, filter? }

end RowQuery.Decoder
