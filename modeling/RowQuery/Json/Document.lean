import RowQuery.Json.Basic

/-!
# Documents

A `Document` is a JSON text as far as it can be read: where the text stops being JSON, the document
holds a `Fault` in the place of what should stand there, and nothing after it. So a reader of a
document meets what is wrong with the text and what is wrong with its content in one order, that of
the text.

`Document.strict` is the value of a whole document, or the first fault. `Document.skip` passes over
a document whose value is not asked for, with the looser rules for text that is only passed over:
nesting is not limited, numbers may be out of range and surrogates may be lone. A value is a
document without faults (`Document.ofJson`).
-/

namespace RowQuery

/-- Why a text stops being JSON. -/
inductive Fault where
  /-- The text ends too early. -/
  | cutShort
  /-- The text goes on with something that JSON does not allow there. -/
  | malformed
deriving DecidableEq, Repr

namespace Document

/-- What a string is written with: characters, and 16-bit code units by number. -/
inductive CodeUnit where
  | char (c : Char)
  | code (n : Nat)
deriving DecidableEq, Repr

/-- A string as far as it can be read. -/
structure StringToken where
  /-- The characters and code units read. -/
  units : List CodeUnit
  /-- What ended the reading before the closing quote. -/
  stop : Option Fault
deriving DecidableEq, Repr

/-- A number as far as it can be read. -/
inductive NumberToken where
  /-- A number that has a value. -/
  | value (n : Json.Number)
  /-- A number beyond the greatest finite one. -/
  | outOfRange
  /-- Not a whole number token. -/
  | broken (fault : Fault)
deriving DecidableEq, Repr

end Document

open Document

/-- A JSON text as far as it can be read. -/
inductive Document where
  /-- No value begins here. -/
  | nothing (fault : Fault)
  /-- `null`, `true` or `false`. -/
  | word (w : Except Fault (Option Bool))
  | number (n : NumberToken)
  | string (s : StringToken)
  /-- An array, whether it is nested too deep, its items, and what ended it before its bracket. -/
  | array (tooDeep : Bool) (items : List Document) (stop : Option Fault)
  /-- An object: as an array, with pairs of a key and a value. -/
  | object (tooDeep : Bool) (fields : List (Document × Document)) (stop : Option Fault)

namespace Document

/-- The result, unless reading stopped before it. -/
def finish {α : Type} (stop : Option Fault) (a : α) : Except Fault α :=
  match stop with
  | none => .ok a
  | some fault => .error fault

/-! ## Strict reading -/

/-- Whether a code unit is the first of a surrogate pair. -/
def isLeading (n : Nat) : Bool := 0xD800 ≤ n && n ≤ 0xDBFF

/-- Whether a code unit is the second of a surrogate pair. -/
def isTrailing (n : Nat) : Bool := 0xDC00 ≤ n && n ≤ 0xDFFF

/-- The characters of code units, surrogates paired. -/
def pairUnits (stop : Option Fault) : List CodeUnit → Except Fault (List Char)
  | [] => Document.finish stop []
  | .char c :: rest => (pairUnits stop rest).map (c :: ·)
  | .code n :: rest =>
    if isTrailing n then .error .malformed
    else if isLeading n then
      match rest with
      | .code m :: rest =>
        if isTrailing m then
          (pairUnits stop rest).map
            (Char.ofNat (0x10000 + (n - 0xD800) * 0x400 + (m - 0xDC00)) :: ·)
        else .error .malformed
      | .char _ :: _ => .error .malformed
      | [] => .error (stop.getD .malformed)
    else (pairUnits stop rest).map (Char.ofNat n :: ·)

/-- The text of a string. -/
def StringToken.strict (t : StringToken) : Except Fault String :=
  (pairUnits t.stop t.units).map String.ofList

/-- The value of a number. -/
def NumberToken.strict : NumberToken → Except Fault Json.Number
  | .value n => .ok n
  | .outOfRange => .error .malformed
  | .broken fault => .error fault

/-- The text of a key. -/
def key : Document → Except Fault String
  | .string t => t.strict
  | .nothing fault => .error fault
  | _ => .error .malformed

mutual

/-- The value of a document with every field it holds. -/
def strict : Document → Except Fault Json
  | .nothing fault => .error fault
  | .word w => w.map fun
    | none => .null
    | some b => .bool b
  | .number t => t.strict.map .number
  | .string t => t.strict.map .text
  | .array tooDeep items stop =>
    if tooDeep then .error .malformed
    else do
      let values ← strictItems items
      Document.finish stop (.array values)
  | .object tooDeep fields stop =>
    if tooDeep then .error .malformed
    else do
      let values ← strictFields fields
      Document.finish stop (.object values)

/-- `strict` over the items of an array. -/
def strictItems : List Document → Except Fault (List Json)
  | [] => .ok []
  | d :: rest => do
    let v ← strict d
    let values ← strictItems rest
    return v :: values

/-- `strict` over the fields of an object. -/
def strictFields : List (Document × Document) → Except Fault (List (String × Json))
  | [] => .ok []
  | (k, d) :: rest => do
    let name ← k.key
    let v ← strict d
    let values ← strictFields rest
    return (name, v) :: values

end

/-! ## Passing over -/

/-- Passes over a key. -/
def skipKey : Document → Except Fault Unit
  | .string t => Document.finish t.stop ()
  | .nothing fault => .error fault
  | _ => .error .malformed

mutual

/-- Passes over a document. A number that ends too early counts as malformed here. -/
def skip : Document → Except Fault Unit
  | .nothing fault => .error fault
  | .word w => w.map fun _ => ()
  | .number (.broken _) => .error .malformed
  | .number _ => .ok ()
  | .string t => Document.finish t.stop ()
  | .array _ items stop => do
    skipItems items
    Document.finish stop ()
  | .object _ fields stop => do
    skipFields fields
    Document.finish stop ()

/-- `skip` over the items of an array. -/
def skipItems : List Document → Except Fault Unit
  | [] => .ok ()
  | d :: rest => do
    skip d
    skipItems rest

/-- `skip` over the fields of an object. -/
def skipFields : List (Document × Document) → Except Fault Unit
  | [] => .ok ()
  | (k, d) :: rest => do
    k.skipKey
    skip d
    skipFields rest

end

/-! ## Values as documents -/

/-- The string of a text. -/
def ofText (s : String) : Document := .string ⟨s.toList.map .char, none⟩

mutual

/-- The document of a value. -/
def ofJson : Json → Document
  | .null => .word (.ok none)
  | .bool b => .word (.ok (some b))
  | .number n => .number (.value n)
  | .text s => ofText s
  | .array items => .array false (ofItems items) none
  | .object fields => .object false (ofFields fields) none

/-- `ofJson` over the items of an array. -/
def ofItems : List Json → List Document
  | [] => []
  | v :: rest => ofJson v :: ofItems rest

/-- `ofJson` over the fields of an object. -/
def ofFields : List (String × Json) → List (Document × Document)
  | [] => []
  | (key, v) :: rest => (ofText key, ofJson v) :: ofFields rest

end

end Document

end RowQuery
