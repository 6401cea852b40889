import RowQuery.Condition.Basic

/-!
# Select descriptions

A `Select` describes a query of a table: which fields of which rows, in which order. It is written
as SQL (`RowQuery.Select.Statement`) and answered from rows (`RowQuery.Select.Answer`).
-/

namespace RowQuery

/-- The direction of a sort. -/
inductive Direction where
  | ascending
  | descending
deriving DecidableEq, Repr

namespace Direction

/-- The text of a direction in a statement. -/
def text : Direction → String
  | .ascending => "ASC"
  | .descending => "DESC"

/-- Reads a direction, between white space and in any case, or names the text that is none. -/
def ofText (s : String) : Except QueryError Direction :=
  match Text.asciiUpper (Text.trim s) with
  | "ASC" => .ok .ascending
  | "DESC" => .ok .descending
  | _ => .error (.invalidOrderBy s)

end Direction

/-- A column to sort by. -/
structure OrderKey where
  column : String
  direction : Direction
deriving DecidableEq, Repr

/-- Reads a sort key from a column and, if given, a direction; or names the parts that are none. -/
def OrderKey.ofParts : List String → Except QueryError OrderKey
  | [column] => .ok ⟨column, .ascending⟩
  | [column, direction] => (Direction.ofText direction).map (⟨column, ·⟩)
  | parts => .error (.invalidOrderBy (" ".intercalate parts))

/-- The kind of a join. -/
inductive JoinKind where
  | plain
  | inner
  | left
  | right
deriving DecidableEq, Repr

/-- The text of a kind of join in a statement. -/
def JoinKind.keyword : JoinKind → String
  | .plain => "JOIN"
  | .inner => "INNER JOIN"
  | .left => "LEFT JOIN"
  | .right => "RIGHT JOIN"

/-- Two columns that a join compares. -/
structure JoinPair where
  left : String
  operator : Operator
  right : String
deriving DecidableEq, Repr

/-- Another table, joined on pairs of columns. -/
structure Join where
  kind : JoinKind := .plain
  table : String
  alias? : Option String := none
  on : List JoinPair
deriving DecidableEq, Repr

/-- A description of a query. -/
structure Select where
  table : String
  alias? : Option String := none
  /-- The fields asked for; all when there are none. -/
  fields : List String := []
  joins : List Join := []
  filter? : Option Condition := none
  orderBy : List OrderKey := []
  groupBy : List String := []
  limit? : Option UInt64 := none
  skip? : Option UInt64 := none

namespace Select

/-- The description with another join behind those it has. -/
def addJoin (s : Select) (join : Join) : Select := { s with joins := s.joins ++ [join] }

/-- The description with another sort key behind those it has. -/
def addOrderKey (s : Select) (key : OrderKey) : Select := { s with orderBy := s.orderBy ++ [key] }

end Select

end RowQuery
