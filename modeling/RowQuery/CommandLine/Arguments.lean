import RowQuery.Report.Format
import RowQuery.Text.Pieces

/-!
# Arguments

`Arguments.read` reads the arguments of the program: options, the name of a task, and the files of
the task among further options. The arguments before the name and those behind it are two levels
(`Level`), and options given at both count as given behind the name. Behind `--` nothing is an
option or a name.

The value of an option stands in its own argument, in the next one, or joined by `=`. A value in the
next argument is looked at only when something that can be read follows it or the level ends
(`Level.settle`); so an argument that cannot be read at all is reported before it.
-/

namespace RowQuery

/-! ## Tasks and options -/

/-- What the program can do. -/
inductive TaskName where
  | select
  | insert
  | update
  | delete
  | eval
deriving DecidableEq, Repr

namespace TaskName

/-- The task with a name. -/
def ofText? : String → Option TaskName
  | "select" => some .select
  | "insert" => some .insert
  | "update" => some .update
  | "delete" => some .delete
  | "eval" => some .eval
  | _ => none

/-- The number of files that a task reads. -/
def fileCount : TaskName → Nat
  | .eval => 2
  | _ => 1

end TaskName

/-- A task with its files. -/
inductive Task where
  | select (query : String)
  | insert (query : String)
  | update (query : String)
  | delete (query : String)
  | eval (query rows : String)
deriving DecidableEq, Repr

/-- The task with a name and files, if it has its number of files. -/
def Task.of? (name : TaskName) (files : List String) : Option Task :=
  match name, files with
  | .select, [query] => some (.select query)
  | .insert, [query] => some (.insert query)
  | .update, [query] => some (.update query)
  | .delete, [query] => some (.delete query)
  | .eval, [query, rows] => some (.eval query rows)
  | _, _ => none

/-- The files that a task reads, in order. -/
def Task.files : Task → List String
  | .select query | .insert query | .update query | .delete query => [query]
  | .eval query rows => [query, rows]

/-- An option that takes a value. -/
inductive OptionName where
  /-- The path of a settings file. -/
  | config
  /-- The format of the report. -/
  | format
deriving DecidableEq, Repr

/-- The values of options. -/
structure Options where
  config? : Option String := none
  format? : Option OutputFormat := none
deriving DecidableEq, Repr

/-- What the program is asked to do. -/
structure Arguments where
  options : Options
  task : Task
deriving DecidableEq, Repr

/-- Why arguments are not carried out. -/
inductive UsageError where
  /-- Help is asked for. -/
  | help
  /-- Nothing is asked for. -/
  | nothingAsked
  /-- There are options but no task. -/
  | missingTask
  /-- An argument stands where the name of a task should. -/
  | unknownTask
  /-- An option that is none, or an argument too many. -/
  | unknownArgument
  /-- A value is missing, empty or none of the possible ones. -/
  | invalidValue
  /-- The task lacks a file. -/
  | missingFile
  /-- An option is given twice. -/
  | repeatedOption
  /-- A value is given to an option that takes none. -/
  | unwantedValue
deriving DecidableEq, Repr

/-! ## Spelling -/

/-- What an argument is by its spelling. -/
inductive Spelling where
  /-- Two dashes alone. -/
  | separator
  /-- The option that asks for help, and whether it is given a value. -/
  | help (withValue : Bool)
  /-- An option, with its value if it stands in the same argument. -/
  | option (name : OptionName) (value? : Option String)
  /-- An option that is none. -/
  | unknown
  /-- No option. -/
  | plain

namespace Spelling

/-- An option by its long name, and its value behind an equals sign. -/
def ofLong (name : List Char) : List Char → Spelling
  | [] => named (String.ofList name) none
  | '=' :: value => named (String.ofList name) (some (String.ofList value))
  | c :: rest => ofLong (name ++ [c]) rest
where
  /-- The option with a long name. -/
  named (name : String) (value? : Option String) : Spelling :=
    match name with
    | "help" => .help value?.isSome
    | "config" => .option .config value?
    | "format" => .option .format value?
    | _ => .unknown

/-- The value that stands behind the letter of an option: what is left of the argument, after an
equals sign if there is one. -/
def attached? : List Char → Option String
  | [] => none
  | '=' :: value => some (String.ofList value)
  | value => some (String.ofList value)

/-- What an argument is. -/
def of (argument : String) : Spelling :=
  match argument.toList with
  | ['-', '-'] => .separator
  | '-' :: '-' :: name => ofLong [] name
  | '-' :: 'h' :: _ => .help false
  | '-' :: 'c' :: value => .option .config (attached? value)
  | '-' :: 'f' :: value => .option .format (attached? value)
  | '-' :: _ :: _ => .unknown
  | _ => .plain

end Spelling

/-! ## Levels -/

/-- An argument that is read but not yet looked at. -/
inductive Pending where
  /-- An option, with its value once that is read. -/
  | option (name : OptionName) (value? : Option String)
  /-- A file. -/
  | file (path : String)
deriving DecidableEq, Repr

/-- The arguments of a level so far. -/
structure Level where
  /-- The options given. -/
  options : Options := {}
  /-- The files given. -/
  files : List String := []
  /-- What is still to be looked at. -/
  pending? : Option Pending := none

namespace Level

/-- Gives an option a value. -/
def give (l : Level) (name : OptionName) (value : String) : Except UsageError Level :=
  match name with
  | .config =>
    if l.options.config?.isSome then .error .repeatedOption
    else if value.isEmpty then .error .invalidValue
    else .ok { l with options := { l.options with config? := some value } }
  | .format =>
    if l.options.format?.isSome then .error .repeatedOption
    else match OutputFormat.ofName? value with
      | some format => .ok { l with options := { l.options with format? := some format } }
      | none => .error .invalidValue

/-- Looks at what is pending. -/
def settle (l : Level) : Except UsageError Level :=
  let settled := { l with pending? := none }
  match l.pending? with
  | none => .ok l
  | some (.option _ none) => .error .invalidValue
  | some (.option name (some value)) => settled.give name value
  | some (.file path) =>
    if path.isEmpty then .error .invalidValue
    else .ok { settled with files := l.files ++ [path] }

/-- The option that the next argument is the value of. -/
def awaiting? (l : Level) : Option OptionName :=
  match l.pending? with
  | some (.option name none) => some name
  | _ => none

/-- The number of files read. -/
def fileCount (l : Level) : Nat :=
  match l.pending? with
  | some (.file _) => l.files.length + 1
  | _ => l.files.length

/-- Takes an option. -/
def takeOption (l : Level) (name : OptionName) (value? : Option String) :
    Except UsageError Level := do
  let l ← l.settle
  match value? with
  | some value => l.give name value
  | none => return { l with pending? := some (.option name none) }

/-- Takes an argument that is no option, where a level has room for a number of files. -/
def takePlain (l : Level) (room : Nat) (full : UsageError) (argument : String) :
    Except UsageError Level :=
  if l.fileCount < room then do
    let l ← l.settle
    return { l with pending? := some (.file argument) }
  else .error full

/-- Takes an argument that is no name of a task and not behind a separator; `none` for a separator.
-/
def take (l : Level) (room : Nat) (full : UsageError) (argument : String) :
    Except UsageError (Option Level) :=
  match Spelling.of argument with
  | .separator => .ok none
  | .unknown => .error .unknownArgument
  | .help true => .error .unwantedValue
  | .help false => l.settle.bind fun _ => .error .help
  | .option name value? => (l.takeOption name value?).map some
  | .plain =>
    match l.awaiting? with
    | some name => .ok (some { l with pending? := some (.option name (some argument)) })
    | none => (l.takePlain room full argument).map some

end Level

/-! ## Reading -/

namespace Arguments

/-- The level behind the name of a task, which takes a number of files. -/
def readTask (room : Nat) (separated : Bool) (l : Level) : List String → Except UsageError Level
  | [] => l.settle
  | argument :: rest =>
    if separated then do
      let l ← l.takePlain room .unknownArgument argument
      readTask room true l rest
    else do
      match ← l.take room .unknownArgument argument with
      | some l => readTask room false l rest
      | none => readTask room true l rest

/-- The answer to a request for help on a list of names: every task and the request itself have
help, and there is nothing below them. -/
def helpOn : List String → UsageError
  | [] => .help
  | [name] => if name = "help" ∨ (TaskName.ofText? name).isSome then .help else .unknownTask
  | _ => .unknownTask

/-- Puts the levels of a task together. -/
def combine (name : TaskName) (above below : Level) : Except UsageError Arguments :=
  match Task.of? name below.files with
  | none => .error .missingFile
  | some task => do
    let above ← above.settle
    return {
      options := {
        config? := below.options.config? <|> above.options.config?
        format? := below.options.format? <|> above.options.format? }
      task }

/-- The error of arguments that end before the name of a task. -/
def withoutTask (l : Level) : UsageError :=
  match l.settle with
  | .error error => error
  | .ok l => if l.options = {} then .nothingAsked else .missingTask

/-- Reads the arguments that are left, before the name of a task. -/
def readFrom (l : Level) : List String → Except UsageError Arguments
  | [] => .error (withoutTask l)
  | argument :: rest =>
    let name? := if l.awaiting?.isNone then TaskName.ofText? argument else none
    match name? with
    | some name => do
      let below ← readTask name.fileCount false {} rest
      combine name l below
    | none =>
      if l.awaiting?.isNone ∧ argument = "help" then .error (helpOn rest)
      else do
        match ← l.take 0 .unknownTask argument with
        | some l => readFrom l rest
        | none =>
          match rest with
          | [] => .error (withoutTask l)
          | argument :: _ =>
            if argument = "help" ∨ (TaskName.ofText? argument).isSome then .error .unknownArgument
            else .error .unknownTask

/-- Reads the arguments of the program. -/
def read (arguments : List String) : Except UsageError Arguments := readFrom {} arguments

end Arguments

end RowQuery
