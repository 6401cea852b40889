import RowQuery.Text.Pieces

/-!
# Operators and conjunctions

The twelve comparison operators and the two conjunctions, and how they are written. Reading ignores
the case of ASCII letters and the amount of white space; of the two ways to write `Operator.ne`,
writing uses one.
-/

namespace RowQuery

/-- A comparison operator. -/
inductive Operator where
  | eq
  | ne
  | ge
  | gt
  | le
  | lt
  | is
  | isNot
  | like
  | notLike
  | isIn
  | notIn
deriving DecidableEq, Repr

namespace Operator

/-- The text of an operator in a statement. -/
def text : Operator → String
  | .eq => "="
  | .ne => "!="
  | .ge => ">="
  | .gt => ">"
  | .le => "<="
  | .lt => "<"
  | .is => "IS"
  | .isNot => "IS NOT"
  | .like => "LIKE"
  | .notLike => "NOT LIKE"
  | .isIn => "IN"
  | .notIn => "NOT IN"

/-- Whether the operator compares with a list of values rather than with one. -/
def takesList (op : Operator) : Bool := op = .isIn ∨ op = .notIn

/-- The words of a text, raised and one blank apart. -/
def normalize (s : String) : String := Text.asciiUpper (" ".intercalate (Text.words s))

/-- Reads an operator. -/
def ofText? (s : String) : Option Operator :=
  match normalize s with
  | "=" => some .eq
  | "!=" | "<>" => some .ne
  | ">=" => some .ge
  | ">" => some .gt
  | "<=" => some .le
  | "<" => some .lt
  | "IS" => some .is
  | "IS NOT" => some .isNot
  | "LIKE" => some .like
  | "NOT LIKE" => some .notLike
  | "IN" => some .isIn
  | "NOT IN" => some .notIn
  | _ => none

end Operator

/-- How the members of a group are joined. -/
inductive Conjunction where
  | and
  | or
deriving DecidableEq, Repr

namespace Conjunction

/-- The text of a conjunction in a statement. -/
def text : Conjunction → String
  | .and => "AND"
  | .or => "OR"

/-- Reads a conjunction, between white space and in any case. -/
def ofText? (s : String) : Option Conjunction :=
  match Text.asciiUpper (Text.trim s) with
  | "AND" => some .and
  | "OR" => some .or
  | _ => none

end Conjunction

end RowQuery
