import RowQuery.Json.Reader
import RowQuery.Report.Format
import RowQuery.Settings.Path
import RowQuery.Toml.Reader

/-!
# Settings

The settings are the format of reports and the filter of the log. They come from layers: a file, in
some format of files (`FileFormat`), and above it the variables of the environment that carry a name
before theirs. Layers are laid over each other in one set of values (`Values.set`): a table joins
the table that it meets, anything else takes the place of what it meets, and a path makes the tables
and lists on its way. `Settings.ofLayers` then decodes the values of the two settings, or takes
their defaults. Case is ignored in names and in the values of formats.
-/

namespace RowQuery

/-- The settings of the program. -/
structure Settings where
  /-- The format of reports. -/
  format : OutputFormat := .text
  /-- What the log keeps. -/
  logFilter : String := "warn"
deriving DecidableEq, Repr

/-- Why there are no settings. -/
inductive SettingsError where
  /-- No file is at the path asked for. -/
  | noFile (path : String)
  /-- The extension of a file names no format of files. -/
  | unknownFileFormat (path : String)
  /-- The text of a file is not what its extension says. -/
  | malformedFile (path : String)
  /-- A setting has a value that it cannot have. -/
  | invalidValue (name : String)
deriving DecidableEq, Repr

/-- The wording of a settings error. -/
def SettingsError.message : SettingsError → String
  | .noFile path => "Configuration error: configuration file \"" ++ path ++ "\" not found"
  | .unknownFileFormat path =>
    "Configuration error: configuration file \"" ++ path ++ "\" is not of a registered file format"
  | .malformedFile path => "Configuration error: malformed configuration file \"" ++ path ++ "\""
  | .invalidValue name => "Configuration error: invalid value for key `" ++ name ++ "`"

namespace Settings

/-! ## Values -/

/-- The value of a name, as far as settings look at it. -/
inductive Value where
  | scalar (value : Scalar)
  | list
  /-- A table, by its keys in lower case, each once. -/
  | table (keys : List String)
deriving DecidableEq, Repr

/-- The table with some keys. -/
def Value.ofKeys (keys : List String) : Value :=
  .table (keys.foldl (fun keys key => keys.insert (Text.lower key)) [])

/-- What a JSON value gives a name. -/
def Value.ofJson (v : Json) : Value :=
  match v with
  | .array _ => .list
  | .object fields => .ofKeys (fields.map Prod.fst)
  | .null => .scalar .null
  | .bool b => .scalar (.bool b)
  | .number n => .scalar (.ofNumber n)
  | .text s => .scalar (.text s)

/-- What a TOML value gives a name. -/
def Value.ofToml : Toml → Value
  | .scalar value => .scalar value
  | .array _ | .tables _ => .list
  | .table _ fields => .ofKeys (fields.map Prod.fst)

/-- The keys of a table; nothing else has any. -/
def Value.keys : Value → List String
  | .table keys => keys
  | .scalar _ | .list => []

/-- A table of some keys has each of them once. -/
theorem Value.nodup_ofKeys (keys : List String) : (Value.ofKeys keys).keys.Nodup := by
  have hinsert (old : List String) (key : String) (h : old.Nodup) : (old.insert key).Nodup := by
    by_cases hmem : key ∈ old
    · rwa [List.insert_of_mem hmem]
    · rw [List.insert_of_not_mem hmem]
      exact List.nodup_cons.2 ⟨hmem, h⟩
  have hfold (old : List String) (h : old.Nodup) :
      (keys.foldl (fun keys key => keys.insert (Text.lower key)) old).Nodup := by
    induction keys generalizing old with
    | nil => exact h
    | cons key keys ih => exact ih _ (hinsert old _ h)
  exact hfold [] List.nodup_nil

/-- A table in JSON has each key once. -/
theorem Value.nodup_ofJson (v : Json) : (Value.ofJson v).keys.Nodup := by
  cases v with
  | object fields => exact nodup_ofKeys _
  | null | bool | number | text | array => exact List.nodup_nil

/-- A table in TOML has each key once. -/
theorem Value.nodup_ofToml (v : Toml) : (Value.ofToml v).keys.Nodup := by
  cases v with
  | table => exact nodup_ofKeys _
  | scalar | array | tables => exact List.nodup_nil

/-- A value after another value has been set in it, at the end of some steps. -/
def Value.set (old : Value) (steps : List Step) (new : Value) : Value :=
  match steps with
  | .key name :: _ => .table (old.keys.insert name)
  | .item :: _ => .list
  | [] =>
    match new with
    | .table keys => .table (keys.foldl (fun keys key => keys.insert key) old.keys)
    | .scalar _ | .list => new

/-- Values by name, in lower case. -/
abbrev Values := List (String × Value)

/-- Sets a value at a path. A name that has no value yet counts as null. -/
def Values.set (values : Values) (path : Path) (new : Value) : Values :=
  let old := (Json.field? path.name values).getD (.scalar .null)
  Json.insertField path.name (old.set path.steps new) values

/-! ## Layers -/

/-- Values by the keys of a file or of variables. -/
abbrev Layer := List (String × Value)

/-- The tables of a layer have each key once. -/
def Layer.TablesNodup (layer : Layer) : Prop := ∀ entry ∈ layer, entry.2.keys.Nodup

/-- The values of some layers laid over each other, the lowest first. -/
def Values.ofLayers (layers : List Layer) : Values :=
  layers.flatten.foldl (fun values entry => Values.set values (.ofKey entry.1) entry.2) []

/-- The variables whose names begin with another name and an underscore, by what follows it. -/
def Layer.ofVariables (scope : String) (env : List (String × String)) : Layer :=
  let start := (Text.lower (scope ++ "_")).toList
  env.filterMap fun (name, value) =>
    let name := (Text.lower name).toList
    if start.isPrefixOf name then
      some (String.ofList (name.drop start.length), .scalar (.text value))
    else none

/-- The layer of a JSON text, which must hold an object. -/
def Layer.ofJsonText? (text : String) : Option Layer :=
  let (document, trailing) := Document.read text
  match document.strict, trailing with
  | .ok (.object fields), none =>
    some ((Json.lastOfEach fields).map fun (name, v) => (name, .ofJson v.collapse))
  | _, _ => none

/-- The tables of a JSON text have each key once. -/
theorem Layer.tablesNodup_of_json {text : String} {layer : Layer}
    (h : Layer.ofJsonText? text = some layer) : layer.TablesNodup := by
  unfold Layer.ofJsonText? at h
  dsimp only at h
  split at h
  · cases h
    exact List.forall_mem_map.2 fun _ _ => Value.nodup_ofJson _
  · cases h

/-- The layer of a TOML text. -/
def Layer.ofTomlText? (text : String) : Option Layer :=
  (Toml.read? text).map fun fields => fields.map fun (name, v) => (name, .ofToml v)

/-- The tables of a TOML text have each key once. -/
theorem Layer.tablesNodup_of_toml {text : String} {layer : Layer}
    (h : Layer.ofTomlText? text = some layer) : layer.TablesNodup := by
  obtain ⟨fields, -, rfl⟩ := Option.map_eq_some_iff.1 h
  exact List.forall_mem_map.2 fun _ _ => Value.nodup_ofToml _

/-! ## Formats of files -/

/-- A format of settings files: the extensions that name it, and the layer that a text in it
holds. -/
structure FileFormat where
  extensions : List String
  /-- The layer of a text, unless the text is malformed. -/
  layer? : String → Option Layer
  /-- The tables of a text have each key once. -/
  tablesNodup : ∀ text layer, layer? text = some layer → layer.TablesNodup

/-- Files in TOML. -/
def FileFormat.toml : FileFormat where
  extensions := ["toml"]
  layer? := Layer.ofTomlText?
  tablesNodup _ _ h := Layer.tablesNodup_of_toml h

/-- Files in JSON. -/
def FileFormat.json : FileFormat where
  extensions := ["json"]
  layer? := Layer.ofJsonText?
  tablesNodup _ _ h := Layer.tablesNodup_of_json h

/-! ## Values of settings -/

/-- The format that a value names: by a text, or by the only key of a table. -/
def formatOf (v : Value) : Except SettingsError OutputFormat :=
  let named (name : String) : Except SettingsError OutputFormat :=
    match OutputFormat.ofName? (Text.lower name) with
    | some format => .ok format
    | none => .error (.invalidValue "format")
  match v with
  | .scalar (.text name) => named name
  | .table [name] => named name
  | _ => .error (.invalidValue "format")

/-- The log filter that a value writes: any scalar but null, by the text that shows it. -/
def logFilterOf (v : Value) : Except SettingsError String :=
  match v with
  | .scalar .null | .list | .table _ => .error (.invalidValue "log_filter")
  | .scalar value => .ok value.display

/-- The value of a name, or the default. -/
def setting {α : Type} (values : Values) (name : String)
    (decode : Value → Except SettingsError α) (default : α) : Except SettingsError α :=
  match Json.field? name values with
  | some v => decode v
  | none => .ok default

/-- The settings of layers, the lowest first. -/
def ofLayers (layers : List Layer) : Except SettingsError Settings := do
  let values := Values.ofLayers layers
  let defaults : Settings := {}
  let format ← setting values "format" formatOf defaults.format
  let logFilter ← setting values "log_filter" logFilterOf defaults.logFilter
  return { format, logFilter }

end Settings

end RowQuery
