import RowQuery.Condition.Basic
import RowQuery.Row
import RowQuery.Scalar.Order
import RowQuery.Text.Like

/-!
# Conditions on rows

`Condition.holds` decides a condition on a row. Comparisons follow the logic of nulls: only `IS`
and `IS NOT` hold of a null. A group without effective members is vacuous (`Condition.evaluate`
answers `none`) and restricts nothing. Every member of a group is decided, so what is wrong with one
is an error whatever the others say.
-/

namespace RowQuery

namespace Operator

/-- The text of a scalar in a pattern match, with a Boolean as 1 or 0. -/
def likeText : Scalar → String
  | .bool b => if b then "1" else "0"
  | v => v.display

/-- Whether a cell matches a pattern; nothing is known to match where one of them is null. -/
def likeMatch? (cell pattern : Scalar) : Except QueryError (Option Bool) :=
  if cell.isNull || pattern.isNull then .ok none
  else if Text.fitsPattern (likeText pattern) then
    .ok (some (Text.like (likeText pattern) (likeText cell)))
  else .error (.invalidOperand .like .patternTooLarge)

/-- Whether an operator other than the list operators holds of a cell and a value. -/
def holds (op : Operator) (cell value : Scalar) : Except QueryError Bool :=
  let order := cell.looseCompare? value
  match op with
  | .eq => .ok (order == some .eq)
  | .ne => .ok (!cell.isNull && !value.isNull && order != some .eq)
  | .gt => .ok (order == some .gt)
  | .ge => .ok (order == some .gt || order == some .eq)
  | .lt => .ok (order == some .lt)
  | .le => .ok (order == some .lt || order == some .eq)
  | .is => .ok (if value.isNull then cell.isNull else cell.looseEq value)
  | .isNot => .ok (if value.isNull then !cell.isNull else !cell.looseEq value)
  | .like => (likeMatch? cell value).map fun m => m == some true
  | .notLike => (likeMatch? cell value).map fun m => m == some false
  | .isIn | .notIn => .error (.invalidOperand op .expectedList)

end Operator

/-- Whether a comparison holds of a row. -/
def Comparison.holds (c : Comparison) (row : Row) : Except QueryError Bool := do
  let cell ← row.cell c.column
  match c.operator with
  | .isIn =>
    let values ← c.listOperand
    return values.any cell.looseEq
  | .notIn =>
    let values ← c.listOperand
    return !cell.isNull && !values.any Scalar.isNull && !values.any cell.looseEq
  | op =>
    let value ← c.scalarOperand
    op.holds cell value

namespace Conjunction

/-- The answer of a group from those of its members that are not vacuous. -/
def combine (conjunction : Conjunction) (answers : List Bool) : Option Bool :=
  if answers.isEmpty then none
  else match conjunction with
    | .and => some (answers.all id)
    | .or => some (answers.any id)

end Conjunction

namespace Condition

mutual

/-- Whether a condition that stands in `depth` groups holds of a row; `none` if it is vacuous. -/
def evaluate (row : Row) (depth : Nat) : Condition → Except QueryError (Option Bool)
  | .raw _ _ =>
    if maxDepth < depth then .error (.conditionTooDeep maxDepth) else .error .rawSqlNotEvaluable
  | .compare c =>
    if maxDepth < depth then .error (.conditionTooDeep maxDepth)
    else (c.holds row).map some
  | .group conjunction children =>
    if maxDepth < depth then .error (.conditionTooDeep maxDepth)
    else (evaluateAll row (depth + 1) children).map fun answers =>
      conjunction.combine (answers.filterMap id)

/-- The answers of the members of a group, from left to right. -/
def evaluateAll (row : Row) (depth : Nat) : List Condition → Except QueryError (List (Option Bool))
  | [] => .ok []
  | c :: rest => do
    let answer ← evaluate row depth c
    let answers ← evaluateAll row depth rest
    return answer :: answers

end

/-- Whether a condition holds of a row; a vacuous one does. -/
def holds (c : Condition) (row : Row) : Except QueryError Bool :=
  (c.evaluate row 0).map fun answer => answer.getD true

/-- Whether a filter, which may be absent, keeps a row. -/
def keeps (filter? : Option Condition) (row : Row) : Except QueryError Bool :=
  match filter? with
  | some c => c.holds row
  | none => .ok true

end Condition

end RowQuery
