import RowQuery.Condition.Matching
import RowQuery.Proofs.Sql.Grammar

/-!
# The truth of restrictions

SQL decides a restriction on a row in three values (`Truth`): what compares with a null is unknown,
and conjunctions follow Kleene. `Sql.truth?` is the truth of a text with the values of its markers
on a row. A row is kept when the restriction is true (`Truth.isTrue`), and whether a group is true
follows from which of its members are (`Conjunction.combine_isTrue`).
-/

namespace RowQuery

/-! ## Three values -/

/-- What a restriction can be on a row. -/
inductive Truth where
  | false
  | unknown
  | true
deriving DecidableEq, Repr

namespace Truth

/-- The truth of what is known. -/
def ofBool (b : Bool) : Truth := if b then .true else .false

/-- Whether the truth is true. -/
def isTrue (t : Truth) : Bool := t = .true

/-- Negation leaves what is unknown. -/
def not : Truth → Truth
  | .false => .true
  | .unknown => .unknown
  | .true => .false

/-- Both; false as soon as one is. -/
def and : Truth → Truth → Truth
  | .false, _ => .false
  | _, .false => .false
  | .true, .true => .true
  | _, _ => .unknown

/-- One of both; true as soon as one is. -/
def or : Truth → Truth → Truth
  | .true, _ => .true
  | _, .true => .true
  | .false, .false => .false
  | _, _ => .unknown

/-- What is known is true when it holds. -/
@[simp]
theorem isTrue_ofBool (b : Bool) : (ofBool b).isTrue = b := by cases b <;> rfl

/-- The negation of what is known is true when it does not hold. -/
@[simp]
theorem isTrue_not_ofBool (b : Bool) : (ofBool b).not.isTrue = !b := by cases b <;> rfl

/-- What is unknown is not true. -/
@[simp]
theorem isTrue_unknown : unknown.isTrue = Bool.false := rfl

/-- Both are true when each is. -/
theorem isTrue_and (s t : Truth) : (s.and t).isTrue = (s.isTrue && t.isTrue) := by
  cases s <;> cases t <;> rfl

/-- One of both is true when one is. -/
theorem isTrue_or (s t : Truth) : (s.or t).isTrue = (s.isTrue || t.isTrue) := by
  cases s <;> cases t <;> rfl

end Truth

/-- The truth of conditions joined by a conjunction. -/
def Conjunction.truth : Conjunction → List Truth → Truth
  | .and, truths => truths.foldr Truth.and .true
  | .or, truths => truths.foldr Truth.or .false

/-- Conditions joined by `AND` are true when all of them are. -/
theorem Conjunction.isTrue_truth_and (truths : List Truth) :
    (Conjunction.and.truth truths).isTrue = truths.all Truth.isTrue := by
  rw [truth]
  induction truths with
  | nil => rfl
  | cons t truths ih => rw [List.foldr_cons, Truth.isTrue_and, List.all_cons, ih]

/-- Conditions joined by `OR` are true when one of them is. -/
theorem Conjunction.isTrue_truth_or (truths : List Truth) :
    (Conjunction.or.truth truths).isTrue = truths.any Truth.isTrue := by
  rw [truth]
  induction truths with
  | nil => rfl
  | cons t truths ih => rw [List.foldr_cons, Truth.isTrue_or, List.any_cons, ih]

/-- The answer of a group from those of its members is whether its truth is true. -/
theorem Conjunction.combine_isTrue (conjunction : Conjunction) {truths : List Truth}
    (h : truths ≠ []) :
    conjunction.combine (truths.map Truth.isTrue) = some (conjunction.truth truths).isTrue := by
  have hnonempty : (truths.map Truth.isTrue).isEmpty = false := by simpa using h
  cases conjunction with
  | and =>
    rw [isTrue_truth_and, combine, hnonempty]
    exact congrArg some List.all_map
  | or =>
    rw [isTrue_truth_or, combine, hnonempty]
    exact congrArg some List.any_map

/-! ## Comparisons -/

/-- Whether the operator holds of two scalars that are not null. -/
def Operator.relates (op : Operator) (cell value : Scalar) : Bool :=
  match op with
  | .eq => cell.looseCompare? value == some .eq
  | .ne => cell.looseCompare? value != some .eq
  | .lt => cell.looseCompare? value == some .lt
  | .le => cell.looseCompare? value == some .lt || cell.looseCompare? value == some .eq
  | .gt => cell.looseCompare? value == some .gt
  | .ge => cell.looseCompare? value == some .gt || cell.looseCompare? value == some .eq
  | .like => Text.like (likeText value) (likeText cell)
  | .notLike => !Text.like (likeText value) (likeText cell)
  | .is | .isNot | .isIn | .notIn => false

/-- Whether two scalars are both null, or neither is and they are equal. -/
def Scalar.same (cell value : Scalar) : Bool :=
  if cell.isNull || value.isNull then cell.isNull && value.isNull
  else cell.looseCompare? value == some .eq

/-- The truth of a comparison with one value. -/
def Operator.truth (op : Operator) (cell value : Scalar) : Truth :=
  match op with
  | .is => .ofBool (cell.same value)
  | .isNot => (Truth.ofBool (cell.same value)).not
  | op =>
    if cell.isNull || value.isNull then .unknown else .ofBool (op.relates cell value)

/-- The truth of being one of some values. -/
def Scalar.membership (cell : Scalar) (values : List Scalar) : Truth :=
  if values.any fun value => cell.looseCompare? value == some .eq then .true
  else if cell.isNull || values.any Scalar.isNull then .unknown
  else .false

/-- The truth of a comparison of a cell, if its operand suits its operator. -/
def Comparison.truth? (c : Comparison) (cell : Scalar) : Option Truth :=
  match c.operator, c.operand with
  | .isIn, .list values => some (cell.membership values)
  | .notIn, .list values => some (cell.membership values).not
  | .isIn, .single _ | .notIn, .single _ => none
  | op, .single value => some (op.truth cell value)
  | _, .list _ => none

/-! ## Conditions -/

namespace Condition

mutual

/-- The truth of a condition on a row, if its columns have scalar cells there. -/
def truth? (row : Row) : Condition → Option Truth
  | .raw _ _ => none
  | .compare c => (row.cell c.column).toOption.bind c.truth?
  | .group conjunction members => (truths? row members).map conjunction.truth

/-- The truths of the members of a group, from left to right. -/
def truths? (row : Row) : List Condition → Option (List Truth)
  | [] => some []
  | m :: rest => do
    let t ← truth? row m
    let ts ← truths? row rest
    return t :: ts

end

/-- The truths of the members are those of each. -/
theorem truths?_eq_mapM (row : Row) (members : List Condition) :
    truths? row members = members.mapM (truth? row) := by
  induction members with
  | nil => rfl
  | cons m members ih => rw [truths?, ih, List.mapM_cons]

end Condition

/-- The truth on a row of a text with the values of its markers; an empty text restricts nothing. -/
def Sql.truth? (row : Row) (sql : String) (values : List Scalar) : Option Truth :=
  (restriction? sql values).bind fun
    | none => some .true
    | some c => c.truth? row

end RowQuery
