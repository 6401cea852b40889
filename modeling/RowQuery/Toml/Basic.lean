import RowQuery.Json.Basic
import RowQuery.Scalar.Basic

/-!
# TOML values

A TOML text is a list of `Toml.Section`s, each a header with the keys assigned below it, and
`Toml.ofSections?` puts them together. What has been written once cannot be written again: a key is
assigned once, a table has one header, and keys with dots open tables of their own and enter no
other. `Toml.Origin` is what a table has to remember for that.
-/

namespace RowQuery

/-- How a table came to be. -/
inductive Toml.Origin where
  /-- As part of the header of a table inside it. -/
  | implied
  /-- By a key with dots. -/
  | dotted
  /-- By its own header. -/
  | header
  /-- As a value in braces. -/
  | closed
deriving DecidableEq, Repr

/-- A TOML value. -/
inductive Toml where
  | scalar (value : Scalar)
  | array (items : List Toml)
  | table (origin : Toml.Origin) (fields : List (String × Toml))
  /-- The tables whose headers repeat one name, in order. -/
  | tables (items : List (List (String × Toml)))

namespace Toml

/-- The keys of a table with their values, in order. -/
abbrev Fields := List (String × Toml)

/-! ## Assigning -/

/-- Assigns a value to a key with dots. The last table that the key enters must be one that was
opened by a key with dots. -/
def assign (value : Toml) : List String → Fields → Option Fields
  | [], _ => none
  | [key], fields =>
    match Json.field? key fields with
    | none => some (fields ++ [(key, value)])
    | some _ => none
  | key :: path, fields =>
    match Json.field? key fields with
    | none => (assign value path []).map fun inner => fields ++ [(key, .table .dotted inner)]
    | some (.table .dotted inner) =>
      (assign value path inner).map fun inner =>
        Json.insertField key (.table .dotted inner) fields
    | some (.table .implied inner) =>
      if path.length = 1 then none
      else (assign value path inner).map fun inner =>
        Json.insertField key (.table .implied inner) fields
    | some _ => none

/-- Assigns values to keys, in order. -/
def assignAll (entries : List (List String × Toml)) (fields : Fields) : Option Fields :=
  entries.foldlM (fun fields entry => assign entry.2 entry.1 fields) fields

/-! ## Sections -/

/-- The header of a section. -/
structure Header where
  /-- The name of the table, at its dots. -/
  path : List String
  /-- Whether the header may be repeated. -/
  repeated : Bool

/-- A header, unless it is the start of a text, and the keys assigned below it. -/
structure Section where
  header? : Option Header
  entries : List (List String × Toml)

/-- The table of a section in the place of what its name stood for so far. -/
def Section.place (s : Section) (repeated : Bool) : Option Toml → Option Toml
  | none =>
    (assignAll s.entries []).map fun fields =>
      if repeated then .tables [fields] else .table .header fields
  | some (.table .implied inner) =>
    if repeated then none else (assignAll s.entries inner).map (.table .header)
  | some (.tables items) =>
    if repeated then (assignAll s.entries []).map fun fields => .tables (items ++ [fields])
    else none
  | some _ => none

/-- Replaces what a name with dots stands for. On the way, a name of repeated tables stands for the
last of them. -/
def alter (change : Option Toml → Option Toml) : List String → Fields → Option Fields
  | [], _ => none
  | [key], fields =>
    (change (Json.field? key fields)).map fun value => Json.insertField key value fields
  | key :: path, fields =>
    match Json.field? key fields with
    | none => (alter change path []).map fun inner => fields ++ [(key, .table .implied inner)]
    | some (.table .closed _) => none
    | some (.table origin inner) =>
      (alter change path inner).map fun inner => Json.insertField key (.table origin inner) fields
    | some (.tables items) =>
      (alter change path (items.getLastD [])).map fun inner =>
        Json.insertField key (.tables (items.dropLast ++ [inner])) fields
    | some _ => none

/-- Adds a section to the fields of a text. -/
def Section.addTo (fields : Fields) (s : Section) : Option Fields :=
  match s.header? with
  | none => assignAll s.entries fields
  | some header => alter (s.place header.repeated) header.path fields

/-- The fields of a text, unless something is written twice. -/
def ofSections? (sections : List Section) : Option Fields := sections.foldlM Section.addTo []

end Toml

end RowQuery
