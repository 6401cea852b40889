import RowQuery.Condition.Operator
import RowQuery.Scalar.Basic

/-!
# What can be wrong with a query

`QueryError` names the causes for which a description is refused or a query has no answer;
`QueryError.message` is the wording of each.
-/

namespace RowQuery

/-- What is wrong with the operand of a comparison. -/
inductive OperandFault where
  /-- One value, or none of the operator's kind, where a list is compared with. -/
  | expectedList
  /-- A list where one value is compared with. -/
  | expectedSingle
  /-- A list without values. -/
  | emptyList
  /-- A pattern with more wildcards than are matched. -/
  | patternTooLarge
deriving DecidableEq, Repr

/-- The wording of an operand fault. -/
def OperandFault.reason : OperandFault → String
  | .expectedList => "expected a list of values"
  | .expectedSingle => "expected a single value"
  | .emptyList => "value list is empty"
  | .patternTooLarge => "pattern is too large"

/-- Why a query is refused or has no answer. -/
inductive QueryError where
  /-- An insert without rows. -/
  | emptyRows
  /-- A row to insert lacks a column of the first row. -/
  | missingInsertColumn (row : Nat) (column : String)
  /-- A row to insert holds an array or an object. -/
  | nonPrimitiveValue (row : Nat) (column : String) (kind : Compound)
  /-- A cell that is read holds an array or an object. -/
  | nonScalarValue (column : String) (kind : Compound)
  /-- An update that sets nothing. -/
  | emptyAssignments
  /-- A column that is read is not in the row. -/
  | missingField (column : String)
  /-- A text is no operator or no conjunction. -/
  | unsupportedOperator (text : String)
  /-- A name cannot be quoted. -/
  | unsupportedIdentifier (name : String)
  /-- The operand does not suit the operator. -/
  | invalidOperand (operator : Operator) (fault : OperandFault)
  /-- A text is no sort key. -/
  | invalidOrderBy (text : String)
  /-- A condition is nested deeper than the limit. -/
  | conditionTooDeep (limit : Nat)
  /-- A raw fragment would have to be decided on a row. -/
  | rawSqlNotEvaluable
  /-- A join would have to be answered from rows. -/
  | joinsNotSupported
deriving DecidableEq, Repr

/-- The wording of an error. -/
def QueryError.message : QueryError → String
  | .emptyRows => "Can not create INSERT query: supplied rows are empty"
  | .missingInsertColumn row column =>
    "No key `" ++ column ++ "` in the " ++ toString row ++ "-th row required to insert many"
  | .nonPrimitiveValue row column kind =>
    "Invalid insert value on key `" ++ column ++ "` in the " ++ toString row ++ "-th row - "
      ++ kind.name
  | .nonScalarValue column kind =>
    "Value of `" ++ column ++ "` must be a scalar, got " ++ kind.name
  | .emptyAssignments => "Can not create UPDATE query: nothing to set"
  | .missingField column => "Field `" ++ column ++ "` is missing in the row"
  | .unsupportedOperator text => "Unsupported operator: " ++ text
  | .unsupportedIdentifier name => "Unsupported identifier: " ++ name
  | .invalidOperand operator fault =>
    "Invalid operand for " ++ operator.text ++ ": " ++ fault.reason
  | .invalidOrderBy text => "Invalid ORDER BY entry: " ++ text
  | .conditionTooDeep limit =>
    "Condition nesting exceeds " ++ toString limit ++ " levels, likely a circular reference"
  | .rawSqlNotEvaluable => "Raw SQL conditions can not be evaluated against in-memory rows"
  | .joinsNotSupported => "JOIN is not supported by the in-memory evaluator"

/-- Reads an operator, or names the text that is none. -/
def Operator.ofText (s : String) : Except QueryError Operator :=
  match ofText? s with
  | some op => .ok op
  | none => .error (.unsupportedOperator s)

/-- Reads a conjunction, or names the text that is none. -/
def Conjunction.ofText (s : String) : Except QueryError Conjunction :=
  match ofText? s with
  | some conjunction => .ok conjunction
  | none => .error (.unsupportedOperator s)

end RowQuery
