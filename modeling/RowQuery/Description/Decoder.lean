import RowQuery.Json.Reader
import RowQuery.Row
import RowQuery.Text.Quoted

/-!
# Decoding documents

A decoder takes a `Document` to a value of a type or to the first `DecodeError` in the order of the
text. A document that comes from a JSON value has no faults, so of it only the content can be wrong
(`Decoder.ofValue`); of a text, the fault of what follows the document comes last
(`Decoder.ofText`).

Structures are decoded in two steps (`Decoder.record`): every field is looked at in the order
written, and the structure is then assembled in the order of its own fields. So the order of fields
in a document decides which error comes first, and nothing else.
-/

namespace RowQuery

/-! ## Errors -/

/-- What stands where something else is wanted. -/
inductive Found where
  | null
  | bool (b : Bool)
  | number (n : Json.Number)
  | text (s : String)
  | sequence
  | map
deriving DecidableEq, Repr

/-- The wording of what was found. -/
def Found.describe : Found → String
  | .null => "null"
  | .bool b => "boolean `" ++ (if b then "true" else "false") ++ "`"
  | .number (.int i h) => "integer `" ++ (Json.Number.int i h).text ++ "`"
  | .number (.float x h) => "floating point `" ++ (Json.Number.float x h).text ++ "`"
  | .text s => "string " ++ Text.quoted s
  | .sequence => "sequence"
  | .map => "map"

/-- Why a document is not what is wanted. -/
inductive DecodeError where
  /-- The text stops being JSON. -/
  | fault (fault : Fault)
  /-- Something of another kind stands in the place of what is wanted. -/
  | wrongKind (found : Found) (wanted : String)
  /-- An integer below zero stands in the place of a count. -/
  | negative (i : Int)
  /-- A structure lacks a field. -/
  | missingField (field : String)
  /-- A structure has a field twice. -/
  | repeatedField (field : String)
  /-- A sequence ends at a length before it is complete. -/
  | tooShort (length : Nat) (wanted : String)
  /-- A sequence goes on, to a length, when it should be complete. -/
  | tooLong (length : Nat)
  /-- A name is none of a choice. -/
  | unknownVariant (name : String) (choice : List String)
  /-- Something that cannot name a member of a choice. -/
  | notVariant (found : Found)
  /-- An object that names no or several members of a choice, with what is wrong with its first
  field. -/
  | notSingleKey (first? : Option DecodeError)
  /-- A value has none of the forms of a type. -/
  | noForm (type : String)
  /-- The content is refused. -/
  | refused (error : QueryError)

namespace DecodeError

/-- The wording of an error. -/
def message : DecodeError → String
  | .fault .cutShort => "unexpected end of text"
  | .fault .malformed => "malformed text"
  | .wrongKind found wanted => "invalid type: " ++ found.describe ++ ", expected " ++ wanted
  | .negative i => "invalid value: integer `" ++ toString i ++ "`, expected u64"
  | .missingField field => "missing field `" ++ field ++ "`"
  | .repeatedField field => "duplicate field `" ++ field ++ "`"
  | .tooShort length wanted => "invalid length " ++ toString length ++ ", expected " ++ wanted
  | .tooLong length =>
    "invalid length " ++ toString length ++ ", expected fewer elements in array"
  | .unknownVariant name choice =>
    "unknown variant `" ++ name ++ "`, expected one of "
      ++ ", ".intercalate (choice.map fun s => "`" ++ s ++ "`")
  | .notVariant found => "invalid type: " ++ found.describe ++ ", expected string or map"
  | .notSingleKey _ => "invalid value: map, expected map with a single key"
  | .noForm type => "data did not match any variant of untagged enum " ++ type
  | .refused error => error.message

/-- What is wrong with the text, if the error is one of the text and not of its content. Where a
sequence or a choice should be complete, a text that goes on is malformed. -/
def textFault? : DecodeError → Option Fault
  | .fault f => some f
  | .tooLong _ | .notVariant _ => some .malformed
  | .notSingleKey none => some .malformed
  | .notSingleKey (some error) => error.textFault?
  | _ => none

end DecodeError

/-- A reading of documents as values of a type. -/
abbrev Decoder (α : Type) := Document → Except DecodeError α

namespace Decoder

/-! ## Whole documents -/

/-- Fails with the fault that ended the reading, if there is one. -/
def ended (stop : Option Fault) : Except DecodeError Unit :=
  match stop with
  | none => .ok ()
  | some fault => .error (.fault fault)

/-- Fails on an array or object that is nested too deep. -/
def entered (tooDeep : Bool) : Except DecodeError Unit :=
  if tooDeep then .error (.fault .malformed) else .ok ()

/-- Decodes a JSON value. -/
def ofValue {α : Type} (decode : Decoder α) (v : Json) : Except DecodeError α :=
  decode (.ofJson v)

/-- Decodes a JSON text. -/
def ofText {α : Type} (decode : Decoder α) (text : String) : Except DecodeError α := do
  let (document, trailing) := Document.read text
  let a ← decode document
  ended trailing
  return a

/-! ## Leaves -/

/-- The error of a document that is not what is wanted. What is wrong with the text of a word,
number or string comes before its kind; arrays and objects are not looked into. -/
def mismatch (wanted : String) : Document → DecodeError
  | .nothing fault => .fault fault
  | .word (.error fault) => .fault fault
  | .word (.ok none) => .wrongKind .null wanted
  | .word (.ok (some b)) => .wrongKind (.bool b) wanted
  | .number t =>
    match t.strict with
    | .ok n => .wrongKind (.number n) wanted
    | .error fault => .fault fault
  | .string t =>
    match t.strict with
    | .ok s => .wrongKind (.text s) wanted
    | .error fault => .fault fault
  | .array .. => .wrongKind .sequence wanted
  | .object .. => .wrongKind .map wanted

/-- A string. -/
def string : Decoder String
  | .string t => t.strict.mapError .fault
  | d => .error (mismatch "a string" d)

/-- A count of 64 bits. -/
def count : Decoder UInt64
  | .number (.value (.int i _)) =>
    if i < 0 then .error (.negative i) else .ok (.ofNat i.toNat)
  | d => .error (mismatch "u64" d)

/-- Null, in the place of a value. -/
def unit : Decoder Unit
  | .word (.ok none) => .ok ()
  | d => .error (mismatch "unit" d)

/-- Null or a value. -/
def nullable {α : Type} (decode : Decoder α) : Decoder (Option α)
  | .word (.ok none) => .ok none
  | d => (decode d).map some

/-- A string that is read by the rules of a query. -/
def parsed {α : Type} (parse : String → Except QueryError α) : Decoder α := fun d => do
  let s ← string d
  (parse s).mapError .refused

/-- A whole value, which is judged only when all of it is read. -/
def value : Decoder Json := fun d => d.strict.mapError .fault

/-- A value of a type that has several forms, told apart by their shape. -/
def formOf {α : Type} (type : String) (form? : Json → Option α) : Decoder α := fun d => do
  let v ← value d
  match form? v with
  | some a => return a
  | none => throw (.noForm type)

/-! ## Sequences -/

/-- An array of values of one type. -/
def list {α : Type} (decode : Decoder α) : Decoder (List α)
  | .array tooDeep items stop => do
    entered tooDeep
    let values ← items.mapM decode
    ended stop
    return values
  | d => .error (mismatch "a sequence" d)

/-- An array of three values. -/
def triple {α β γ : Type} (first : Decoder α) (second : Decoder β) (third : Decoder γ) :
    Decoder (α × β × γ)
  | .array tooDeep items stop => do
    entered tooDeep
    let item {δ : Type} (position : Nat) (decode : Decoder δ) : Except DecodeError δ :=
      match items[position]? with
      | some d => decode d
      | none => do
        ended stop
        throw (.tooShort items.length "a tuple of size 3")
    let a ← item 0 first
    let b ← item 1 second
    let c ← item 2 third
    if 3 < items.length then throw (.tooLong items.length)
    ended stop
    return (a, b, c)
  | d => .error (mismatch "a tuple of size 3" d)

/-! ## Choices -/

/-- The member of a choice with a name. -/
def named {α : Type} (choice : List (String × α)) (name : String) : Except DecodeError α :=
  match Json.field? name choice with
  | some a => .ok a
  | none => .error (.unknownVariant name (choice.map Prod.fst))

/-- The member of a choice that a field names: its key is the name and its value is null. -/
def namedByField {α : Type} (choice : List (String × α)) (field : Document × Document) :
    Except DecodeError α := do
  let name ← field.1.key.mapError .fault
  let a ← named choice name
  unit field.2
  return a

/-- A member of a choice, by its name or by an object with one field. -/
def variant {α : Type} (choice : List (String × α)) : Decoder α
  | .string t => do
    let name ← t.strict.mapError .fault
    named choice name
  | .object tooDeep fields stop => do
    entered tooDeep
    match fields with
    | [] =>
      ended stop
      throw (.notSingleKey none)
    | [field] =>
      let a ← namedByField choice field
      ended stop
      return a
    | field :: _ =>
      match namedByField choice field with
      | .ok _ => throw (.notSingleKey none)
      | .error error => throw (.notSingleKey (some error))
  | .nothing fault => .error (.fault fault)
  | .word (.ok none) => .error (.notVariant .null)
  | .word (.ok (some b)) => .error (.notVariant (.bool b))
  | .number (.value n) => .error (.notVariant (.number n))
  | .array .. => .error (.notVariant .sequence)
  | .word (.error _) | .number _ => .error (.fault .malformed)

/-! ## Structures -/

/-- A field of a structure: its key and what its value is. -/
structure Field (α : Type) where
  /-- The key. -/
  name : String
  /-- How the value is decoded. -/
  decode : Decoder α

/-- A field with its value only looked at. -/
def Field.check {α : Type} (f : Field α) : String × Decoder Unit :=
  (f.name, fun d => (f.decode d).map fun _ => ())

/-- The fields of a structure that a document gives. -/
structure Record where
  /-- The fields given, with what they hold. -/
  entries : List (String × Document)
  /-- What ended the reading, if more fields could have followed. -/
  stop : Option Fault
  /-- The error of a field that is not given and has to be. -/
  absent : String → DecodeError

namespace Record

/-- The value of a field that has to be given. -/
def required {α : Type} (r : Record) (f : Field α) : Except DecodeError α :=
  match Json.field? f.name r.entries with
  | some d => f.decode d
  | none => do
    ended r.stop
    throw (r.absent f.name)

/-- The value of a field that may be left out. -/
def optional {α : Type} (r : Record) (f : Field α) (default : α) : Except DecodeError α :=
  match Json.field? f.name r.entries with
  | some d => f.decode d
  | none => do
    ended r.stop
    return default

end Record

/-- Looks at the fields of an object in the order written and returns those of the structure. A
known field must not come twice; an unknown one is passed over. -/
def visit (known : List (String × Decoder Unit)) (seen : List String) :
    List (Document × Document) → Except DecodeError (List (String × Document))
  | [] => .ok []
  | (key, d) :: rest => do
    let name ← key.key.mapError .fault
    match Json.field? name known with
    | none =>
      d.skip.mapError .fault
      visit known seen rest
    | some check =>
      if seen.contains name then throw (.repeatedField name)
      check d
      let others ← visit known (name :: seen) rest
      return (name, d) :: others

/-- A structure, as an object with its fields by key or as an array of them in order. -/
def record {α : Type} (name : String) (known : List (String × Decoder Unit))
    (assemble : Record → Except DecodeError α) : Decoder α
  | .object tooDeep fields stop => do
    entered tooDeep
    let entries ← visit known [] fields
    ended stop
    assemble { entries, stop := none, absent := .missingField }
  | .array tooDeep items stop => do
    entered tooDeep
    let names := known.map Prod.fst
    let wanted := "struct " ++ name ++ " with " ++ toString names.length ++ " elements"
    let a ← assemble {
      entries := names.zip items
      stop
      absent := fun field => .tooShort (names.idxOf field) wanted }
    if names.length < items.length then throw (.tooLong items.length)
    ended stop
    return a
  | d => .error (mismatch ("struct " ++ name) d)

end Decoder

end RowQuery
