import RowQuery.Files
import RowQuery.Settings.Basic

/-!
# Loading settings

`Settings.load` reads the file asked for, which must exist, or else the first existing one of the
default paths (`Settings.locate?`). `Settings.loadFrom` does the same with other paths and another
name in front of variables. At most one file is read, the one at the first path where anything
stands, and its extension says in which format it is. Which formats there are, and in which order
their extensions are tried, is a matter of the list `formats`.
-/

namespace RowQuery.Settings

/-- The formats of settings files, in the order in which their extensions are tried. -/
def fileFormats : List FileFormat := [.toml, .json]

/-- The extensions that name a format. -/
def extensions (formats : List FileFormat) : List String := formats.flatMap FileFormat.extensions

/-- The paths at which a file may stand for a path: the path itself, or with an extension added to
it. -/
def filePaths (formats : List FileFormat) (path : String) : List String :=
  path :: (extensions formats).map fun ext => path ++ "." ++ ext

/-- The file that a path stands for. -/
def fileAt? (formats : List FileFormat) (files : Files) (path : String) : Option String :=
  (filePaths formats path).find? fun path => (files.text? path).isSome

/-- The format that the extension of a path names. -/
def formatAt? (formats : List FileFormat) (path : String) : Option FileFormat :=
  (Files.extension? path).bind fun ext => formats.find? fun format => format.extensions.contains ext

/-- The text without a byte order mark at its start. -/
def withoutMark (text : String) : String :=
  match text.toList with
  | '\uFEFF' :: rest => String.ofList rest
  | _ => text

/-- The layer of the file at a path. -/
def fileLayer (formats : List FileFormat) (files : Files) (path : String) :
    Except SettingsError Layer :=
  match (fileAt? formats files path).bind fun file =>
    (files.text? file).map fun text => (file, text) with
  | none => .error (.noFile path)
  | some (file, text) =>
    match formatAt? formats file with
    | some format => (format.layer? (withoutMark text)).elim (.error (.malformedFile file)) .ok
    | none => .error (.unknownFileFormat file)

/-- The first path at which anything stands. -/
def firstOccupied? (files : Files) (paths : List String) : Option String :=
  paths.find? files.occupied

/-- The settings of a file, if there is one, below the variables with a name in front of theirs. -/
def ofSources (formats : List FileFormat) (files : Files) (env : List (String × String))
    (path? : Option String) (scope : String) : Except SettingsError Settings := do
  let below ← match path? with
    | some path => (fileLayer formats files path).map fun layer => [layer]
    | none => .ok []
  ofLayers (below ++ [Layer.ofVariables scope env])

/-- The settings from the first of some paths at which anything stands. -/
def loadFrom (files : Files) (env : List (String × String)) (paths : List String)
    (scope : String) (formats : List FileFormat := fileFormats) : Except SettingsError Settings :=
  ofSources formats files env (firstOccupied? files paths) scope

/-! ## Defaults -/

/-- The paths of settings files that are looked for when none is asked for. -/
def defaultPaths : List String := ["/etc/querykit/querykit.toml", "./querykit.toml"]

/-- The name in front of variables. -/
def defaultScope : String := "QUERYKIT"

/-- The path of the settings file: the one asked for, or the first default one at which anything
stands. -/
def locate? (files : Files) (asked? : Option String) : Option String :=
  asked? <|> firstOccupied? files defaultPaths

/-- The settings from the file asked for or a default one. -/
def load (files : Files) (env : List (String × String)) (asked? : Option String)
    (formats : List FileFormat := fileFormats) : Except SettingsError Settings :=
  ofSources formats files env (locate? files asked?) defaultScope

end RowQuery.Settings
