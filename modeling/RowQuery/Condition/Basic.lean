import RowQuery.Error

/-!
# Conditions

A `Condition` restricts rows. It is a raw fragment of SQL with values of its own, a comparison of a
column, or a group of conditions joined by one conjunction. The same condition is written as SQL
(`RowQuery.Condition.Fragment`) and decided on a row (`RowQuery.Condition.Matching`).
-/

namespace RowQuery

/-- What a column is compared with. -/
inductive Operand where
  | single (value : Scalar)
  | list (values : List Scalar)
deriving DecidableEq, Repr

/-- The values of an operand, in order. -/
def Operand.values : Operand → List Scalar
  | .single value => [value]
  | .list values => values

/-- A comparison of a column. -/
structure Comparison where
  column : String
  operator : Operator
  operand : Operand
deriving DecidableEq, Repr

namespace Comparison

/-- The value to compare with, where the operator takes one. -/
def scalarOperand (c : Comparison) : Except QueryError Scalar :=
  if c.operator.takesList then .error (.invalidOperand c.operator .expectedList)
  else match c.operand with
    | .single value => .ok value
    | .list _ => .error (.invalidOperand c.operator .expectedSingle)

/-- The values to compare with, where the operator takes a list. There is at least one. -/
def listOperand (c : Comparison) : Except QueryError (List Scalar) :=
  if c.operator.takesList then
    match c.operand with
    | .list [] => .error (.invalidOperand c.operator .emptyList)
    | .list values => .ok values
    | .single _ => .error (.invalidOperand c.operator .expectedList)
  else .error (.invalidOperand c.operator .expectedList)

end Comparison

/-- A restriction on rows. -/
inductive Condition where
  /-- A fragment of SQL with the values of its markers. -/
  | raw (sql : String) (values : List Scalar)
  /-- Conditions joined by a conjunction. -/
  | group (conjunction : Conjunction) (children : List Condition)
  /-- A comparison of a column. -/
  | compare (comparison : Comparison)

namespace Condition

/-- How many groups a condition may be nested in. -/
def maxDepth : Nat := 100

/-- The comparison of a column with one value. -/
def compareWith (column : String) (operator : Operator) (value : Scalar) : Condition :=
  .compare ⟨column, operator, .single value⟩

/-- The comparison of a column with a list of values. -/
def compareList (column : String) (operator : Operator) (values : List Scalar) : Condition :=
  .compare ⟨column, operator, .list values⟩

/-- The column equals the value. -/
def equal (column : String) (value : Scalar) : Condition := compareWith column .eq value

/-- The column is null. -/
def isNull (column : String) : Condition := compareWith column .is .null

/-- The column is not null. -/
def isNotNull (column : String) : Condition := compareWith column .isNot .null

/-- The column equals one of the values. -/
def isIn (column : String) (values : List Scalar) : Condition := compareList column .isIn values

/-- The column equals none of the values. -/
def notIn (column : String) (values : List Scalar) : Condition := compareList column .notIn values

end Condition

end RowQuery
