import RowQuery.Binary64.Style

/-!
# JSON values

`Json` keeps what a document says: the order of fields, integers apart from floating-point numbers,
and repeated keys until `Json.collapse` gives every object one field per key. A `Json.Number` is
what 64 bits can hold, so a value never carries a number that could not be written and read again.
-/

namespace RowQuery

/-- A number of a JSON value: an integer that fits 64 bits with or without a sign, or a finite
binary64 number. -/
inductive Json.Number where
  /-- An integer. -/
  | int (i : Int) (inRange : -9223372036854775808 ≤ i ∧ i < 18446744073709551616)
  /-- A finite number. -/
  | float (x : Binary64) (finite : x.IsFinite)
deriving DecidableEq, Repr

/-- A JSON value. -/
inductive Json where
  | null
  | bool (b : Bool)
  | number (n : Json.Number)
  | text (s : String)
  | array (items : List Json)
  | object (fields : List (String × Json))

namespace Json

/-! ## Numbers -/

/-- The floating-point number, if it is finite. -/
def Number.ofBinary64? (x : Binary64) : Option Number :=
  if h : x.IsFinite then some (.float x h) else none

/-- The integer itself if it fits, otherwise the nearest finite floating-point number. -/
def Number.ofInt? (i : Int) : Option Number :=
  if h : -9223372036854775808 ≤ i ∧ i < 18446744073709551616 then some (.int i h)
  else Number.ofBinary64? (.ofInt i)

/-- The text of a number. -/
def Number.text : Number → String
  | .int i _ => toString i
  | .float x _ => x.render .json

/-! ## Fields -/

/-- Gives a key a value: in the place of the key if it is there, at the end if it is not. -/
def insertField {α : Type} (key : String) (value : α) : List (String × α) → List (String × α)
  | [] => [(key, value)]
  | (k, v) :: rest =>
    if k = key then (key, value) :: rest else (k, v) :: insertField key value rest

/-- The fields with one entry per key: its first place and its last value. -/
def lastOfEach {α : Type} (fields : List (String × α)) : List (String × α) :=
  fields.foldl (fun acc field => insertField field.1 field.2 acc) []

mutual

/-- The value with one field per key in every object. -/
def collapse : Json → Json
  | .array items => .array (collapseItems items)
  | .object fields => .object (lastOfEach (collapseFields fields))
  | v => v

/-- `collapse` over the items of an array. -/
def collapseItems : List Json → List Json
  | [] => []
  | v :: rest => collapse v :: collapseItems rest

/-- `collapse` over the values of fields. -/
def collapseFields : List (String × Json) → List (String × Json)
  | [] => []
  | (key, v) :: rest => (key, collapse v) :: collapseFields rest

end

/-- The value of a key in the fields of an object. -/
def field? {α : Type} (key : String) : List (String × α) → Option α
  | [] => none
  | (k, v) :: rest => if k = key then some v else field? key rest

end Json

end RowQuery
