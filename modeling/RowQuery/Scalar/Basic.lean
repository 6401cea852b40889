import RowQuery.Json.Basic
import RowQuery.Text.Numeral

/-!
# Scalars

A `Scalar` is a value that a marker of a statement can be bound to and that a cell of a row can
hold. `Scalar.ofJson` reads a cell and refuses arrays and objects by what they are;
`Scalar.toJson` writes one, with no value for a number that JSON cannot write.
-/

namespace RowQuery

/-- A value without parts. -/
inductive Scalar where
  | null
  | bool (b : Bool)
  | int (i : Int64)
  | float (x : Binary64)
  | text (s : String)
deriving DecidableEq, Repr

/-- The JSON values that have parts. -/
inductive Compound where
  | array
  | object
deriving DecidableEq, Repr

/-- The name of a kind of compound value. -/
def Compound.name : Compound → String
  | .array => "array"
  | .object => "object"

namespace Scalar

/-- Whether the scalar is null. -/
def isNull : Scalar → Bool
  | .null => true
  | _ => false

/-- The name of the kind of a scalar. -/
def kindName : Scalar → String
  | .null => "null"
  | .bool _ => "boolean"
  | .int _ | .float _ => "number"
  | .text _ => "string"

/-! ## Conversions -/

/-- The scalar of a number. An integer above the signed range becomes the nearest floating-point
number. -/
def ofNumber : Json.Number → Scalar
  | .int i _ => if i < 9223372036854775808 then .int (.ofInt i) else .float (.ofInt i)
  | .float x _ => .float x

/-- The scalar of a value, or what kind of compound value it is. -/
def ofJson : Json → Except Compound Scalar
  | .null => .ok .null
  | .bool b => .ok (.bool b)
  | .number n => .ok (ofNumber n)
  | .text s => .ok (.text s)
  | .array _ => .error .array
  | .object _ => .error .object

/-- The JSON number of an integer of 64 bits. -/
def numberOfInt (i : Int64) : Json.Number :=
  .int i.toInt ⟨i.le_toInt, Int.lt_trans i.toInt_lt (by decide)⟩

/-- The value of a scalar. JSON has no infinities and no not-a-number: they become null. -/
def toJson : Scalar → Json
  | .null => .null
  | .bool b => .bool b
  | .int i => .number (numberOfInt i)
  | .float x => if h : x.IsFinite then .number (.float x h) else .null
  | .text s => .text s

/-- The text that shows a scalar. -/
def display : Scalar → String
  | .null => "NULL"
  | .bool b => if b then "true" else "false"
  | .int i => toString i.toInt
  | .float x => x.text
  | .text s => s

/-- The number a scalar counts as: a Boolean as 0 or 1, an integer rounded, and a text if it writes
a number between white space. -/
def number? : Scalar → Option Binary64
  | .null => none
  | .bool b => some (.ofInt (if b then 1 else 0))
  | .int i => some (.ofInt i.toInt)
  | .float x => some x
  | .text s =>
    let trimmed := Text.trim s
    if trimmed.isEmpty then none else Binary64.ofText? trimmed

end Scalar

end RowQuery
