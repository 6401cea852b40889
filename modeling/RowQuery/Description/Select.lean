import RowQuery.Description.Condition
import RowQuery.Select.Basic

/-!
# Selects in JSON

A select is an object with the fields `table`, `as`, `fields`, `join`, `where`, `orderBy`,
`groupBy`, `limit` and `skip`, of which only the first has to be given, or an array of them in this
order. A sort key is an array of a column and, if wanted, a direction; a join is a structure of its
own.
-/

namespace RowQuery.Decoder

/-- A direction. -/
def direction : Decoder Direction := parsed Direction.ofText

/-- A sort key. -/
def orderKey : Decoder OrderKey := fun d => do
  let parts ← list string d
  (OrderKey.ofParts parts).mapError .refused

/-! ## Joins -/

/-- The names of the kinds of join. -/
def joinKinds : List (String × JoinKind) :=
  [("", .plain), ("plain", .plain), ("inner", .inner), ("left", .left), ("right", .right)]

/-- A kind of join. -/
def joinKind : Decoder JoinKind := variant joinKinds

/-- A pair of joined columns, as an array of column, operator and column. -/
def joinPair : Decoder JoinPair := fun d => do
  let (left, operator, right) ← triple string (parsed Operator.ofText) string d
  return ⟨left, operator, right⟩

/-- The name of a table. -/
def tableField : Field String := ⟨"table", string⟩

/-- The alias of a table. -/
def aliasField : Field (Option String) := ⟨"as", nullable string⟩

/-- The kind of a join. -/
def kindField : Field JoinKind := ⟨"type", joinKind⟩

/-- The pairs of a join. -/
def onField : Field (List JoinPair) := ⟨"on", list joinPair⟩

/-- A join. -/
def join : Decoder Join :=
  record "Join" [kindField.check, tableField.check, aliasField.check, onField.check] fun r => do
    let kind ← r.optional kindField .plain
    let table ← r.required tableField
    let alias? ← r.optional aliasField none
    let on ← r.required onField
    return { kind, table, alias?, on }

/-! ## Selects -/

/-- The fields asked for. -/
def fieldsField : Field (List String) := ⟨"fields", list string⟩

/-- The joins. -/
def joinField : Field (List Join) := ⟨"join", list join⟩

/-- The filter. -/
def filterField : Field (Option Condition) := ⟨"where", nullable condition⟩

/-- The sort keys. -/
def orderByField : Field (List OrderKey) := ⟨"orderBy", list orderKey⟩

/-- The grouping columns. -/
def groupByField : Field (List String) := ⟨"groupBy", list string⟩

/-- The row count. -/
def limitField : Field (Option UInt64) := ⟨"limit", nullable count⟩

/-- The offset. -/
def skipField : Field (Option UInt64) := ⟨"skip", nullable count⟩

/-- A select. -/
def select : Decoder Select :=
  record "QuerySpec"
    [tableField.check, aliasField.check, fieldsField.check, joinField.check, filterField.check,
      orderByField.check, groupByField.check, limitField.check, skipField.check]
    fun r => do
      let table ← r.required tableField
      let alias? ← r.optional aliasField none
      let fields ← r.optional fieldsField []
      let joins ← r.optional joinField []
      let filter? ← r.optional filterField none
      let orderBy ← r.optional orderByField []
      let groupBy ← r.optional groupByField []
      let limit? ← r.optional limitField none
      let skip? ← r.optional skipField none
      return { table, alias?, fields, joins, filter?, orderBy, groupBy, limit?, skip? }

end RowQuery.Decoder
