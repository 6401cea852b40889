import RowQuery.Condition.Basic
import RowQuery.Description.Decoder

/-!
# Conditions in JSON

A condition is written as `{"raw": …, "values": […]}`, as `[column, operator, operand]` or as
`[conjunction, [conditions]]`. The forms are told apart by their shape, and the shape of a whole
condition is judged first (`Form.ofJson?`); only then are operators and conjunctions read, from left
to right and a group's own conjunction before its members (`Form.condition`).
-/

namespace RowQuery

/-! ## Scalars and operands -/

namespace Scalar

/-- Null. -/
def nullForm? : Json → Option Scalar
  | .null => some .null
  | _ => none

/-- A Boolean. -/
def boolForm? : Json → Option Scalar
  | .bool b => some (.bool b)
  | _ => none

/-- An integer of the signed range. -/
def intForm? : Json → Option Scalar
  | .number (.int i _) =>
    if -9223372036854775808 ≤ i ∧ i < 9223372036854775808 then some (.int (.ofInt i)) else none
  | _ => none

/-- A number, an integer rounded to the nearest floating-point number. -/
def floatForm? : Json → Option Scalar
  | .number (.int i _) => some (.float (.ofInt i))
  | .number (.float x _) => some (.float x)
  | _ => none

/-- A text. -/
def textForm? : Json → Option Scalar
  | .text s => some (.text s)
  | _ => none

/-- The scalar of a value by the first form that takes it, if it has no parts. -/
def ofJson? (v : Json) : Option Scalar :=
  nullForm? v <|> boolForm? v <|> intForm? v <|> floatForm? v <|> textForm? v

/-- The first form that takes a value takes what a cell is read from, as the same scalar. -/
theorem ofJson?_eq_toOption (v : Json) : ofJson? v = (ofJson v).toOption := by
  cases v with
  | null | bool | text | array | object => rfl
  | number n =>
    cases n with
    | float x finite => rfl
    | int i inRange =>
      -- only an integer above the signed range gets past the third form
      show (intForm? _ <|> floatForm? _ <|> none) = some (ofNumber _)
      by_cases h : i < 9223372036854775808
      · rw [intForm?, if_pos ⟨inRange.1, h⟩, ofNumber, if_pos h]
        rfl
      · rw [intForm?, if_neg fun hi => h hi.2, ofNumber, if_neg h]
        rfl

end Scalar

/-- The operand of a value: a scalar or an array of scalars. -/
def Operand.ofJson? : Json → Option Operand
  | .array items => (items.mapM Scalar.ofJson?).map .list
  | v => (Scalar.ofJson? v).map .single

/-! ## Forms of conditions -/

/-- A condition by its shape, with operators and conjunctions still as text. -/
inductive Form where
  | raw (sql : String) (values : List Scalar)
  | compare (column operator : String) (operand : Operand)
  | group (conjunction : String) (children : List Form)

namespace Form

/-- The fragment and its values in the fields of an object, neither of them given twice. -/
def raw? (fields : List (String × Json)) : Option Form :=
  if (fields.map Prod.fst).count "raw" ≤ 1 ∧ (fields.map Prod.fst).count "values" ≤ 1 then
    match Json.field? "raw" fields, Json.field? "values" fields with
    | some (.text sql), none => some (.raw sql [])
    | some (.text sql), some (.array items) => (items.mapM Scalar.ofJson?).map (.raw sql)
    | _, _ => none
  else none

mutual

/-- The form of a value, if it has the shape of a condition. -/
def ofJson? : Json → Option Form
  | .object fields => raw? fields
  | .array [.text column, .text operator, operand] =>
    (Operand.ofJson? operand).map (.compare column operator)
  | .array [.text conjunction, .array children] => (ofItems? children).map (.group conjunction)
  | _ => none

/-- The forms of the members of a group. -/
def ofItems? : List Json → Option (List Form)
  | [] => some []
  | v :: rest => do
    let form ← ofJson? v
    let forms ← ofItems? rest
    return form :: forms

end

mutual

/-- The condition of a form, with its operators and conjunctions read. -/
def condition : Form → Except QueryError Condition
  | .raw sql values => .ok (.raw sql values)
  | .compare column operator operand => do
    let op ← Operator.ofText operator
    return .compare ⟨column, op, operand⟩
  | .group conjunction children => do
    let c ← Conjunction.ofText conjunction
    let members ← conditions children
    return .group c members

/-- The conditions of forms, from left to right. -/
def conditions : List Form → Except QueryError (List Condition)
  | [] => .ok []
  | form :: rest => do
    let c ← condition form
    let members ← conditions rest
    return c :: members

end

end Form

namespace Decoder

/-- A scalar. -/
def scalar : Decoder Scalar := formOf "Scalar" Scalar.ofJson?

/-- An operand. -/
def operand : Decoder Operand := formOf "Operand" Operand.ofJson?

/-- A comparison, as an array of column, operator and operand. -/
def comparison : Decoder Comparison := fun d => do
  let (column, operator, operand) ← triple string string operand d
  let op ← (Operator.ofText operator).mapError .refused
  return ⟨column, op, operand⟩

/-- A condition. -/
def condition : Decoder Condition := fun d => do
  let form ← formOf "ConditionRepr" Form.ofJson? d
  form.condition.mapError .refused

end Decoder

end RowQuery
