import RowQuery.Text.Pieces

/-!
# Files

`Files` is what stands at every path. Paths are compared by their steps (`Files.steps`), so `./a`
and `a` are one path, and a path above another one is that of a directory.
-/

namespace RowQuery

/-- What stands at a path. -/
inductive Entry where
  | file (text : String)
  | directory
deriving DecidableEq, Repr

/-- What stands at every path, if anything does. -/
abbrev Files := String → Option Entry

namespace Files

/-- The steps of a path, of which the first is empty if the path begins at the root. -/
def steps (path : String) : List String :=
  match Text.piecesAt '/' path with
  | [] => []
  | first :: rest =>
    let kept := (first :: rest).filter fun step => step != "" && step != "."
    if first = "" ∧ rest ≠ [] then "" :: kept else kept

/-- The files of a list of paths and entries, of which the first with a path counts. -/
def ofList (entries : List (String × Entry)) : Files := fun path =>
  let path := steps path
  let entries := entries.map fun entry => (steps entry.1, entry.2)
  match entries.find? fun entry => entry.1 == path with
  | some entry => some entry.2
  | none => if path == [] || entries.any fun entry => path.isPrefixOf entry.1 then some .directory
    else none

/-- Whether anything stands at a path. -/
def occupied (files : Files) (path : String) : Bool := (files path).isSome

/-- The text of the file at a path, if there is one. -/
def text? (files : Files) (path : String) : Option String :=
  match files path with
  | some (.file text) => some text
  | _ => none

/-- The extension of a path: what follows the last dot of its last step, unless that dot is the
first character of the step. -/
def extension? (path : String) : Option String :=
  match (steps path).getLast?.map fun step => (Text.piecesAt '.' step).reverse with
  | some (last :: second :: rest) => if second = "" ∧ rest = [] then none else some last
  | _ => none

/-! ## Reading -/

/-- Why a path cannot be read. -/
inductive ReadError where
  /-- Nothing stands there. -/
  | notFound
  /-- A directory stands there. -/
  | isDirectory
deriving DecidableEq, Repr

/-- The wording of a read error. -/
def ReadError.message : ReadError → String
  | .notFound => "IO error: No such file or directory (os error 2)"
  | .isDirectory => "IO error: Is a directory (os error 21)"

/-- Reads the file at a path. -/
def read (files : Files) (path : String) : Except ReadError String :=
  match files path with
  | some (.file text) => .ok text
  | some .directory => .error .isDirectory
  | none => .error .notFound

end Files

end RowQuery
