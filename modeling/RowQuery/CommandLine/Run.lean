import RowQuery.Change.Delete
import RowQuery.Change.Insert
import RowQuery.Change.Update
import RowQuery.CommandLine.Arguments
import RowQuery.Description.Change
import RowQuery.Report.Render
import RowQuery.Select.Answer
import RowQuery.Select.Statement
import RowQuery.Settings.Load

/-!
# Running tasks

`CommandLine.run` carries out what arguments ask for: it loads the settings, reads the files of the
task one after the other, each decoded before the next is read, and returns the report. A format
given as an option is used whatever the settings say, though they have to load all the same.
-/

namespace RowQuery

/-- Why the program has no report. -/
inductive CommandError where
  | usage (error : UsageError)
  | settings (error : SettingsError)
  | read (error : Files.ReadError)
  | decode (error : DecodeError)
  | query (error : QueryError)

namespace CommandLine

/-- Reads and decodes a file. -/
def load {α : Type} (decode : Decoder α) (files : Files) (path : String) :
    Except CommandError α := do
  let text ← (files.read path).mapError .read
  (decode.ofText text).mapError .decode

/-- The report of the statement that a file describes. -/
def reportStatement {α : Type} (decode : Decoder α) (statement : α → Except QueryError Statement)
    (files : Files) (path : String) (format : OutputFormat) : Except CommandError String := do
  let description ← load decode files path
  let statement ← (statement description).mapError .query
  return Report.ofStatement statement format

/-- The report of a task. -/
def report (files : Files) (format : OutputFormat) : Task → Except CommandError String
  | .select query => reportStatement Decoder.select Select.statement files query format
  | .insert query => reportStatement Decoder.insert Insert.statement files query format
  | .update query => reportStatement Decoder.update Update.statement files query format
  | .delete query => reportStatement Decoder.delete Delete.statement files query format
  | .eval query rows => do
    let select ← load Decoder.select files query
    let rows ← load Decoder.rows files rows
    let answer ← (select.answer rows).mapError .query
    return Report.ofRows answer format

/-- Carries out what is asked for. -/
def runWith (files : Files) (env : List (String × String)) (arguments : Arguments)
    (formats : List Settings.FileFormat := Settings.fileFormats) : Except CommandError String := do
  let settings ← (Settings.load files env arguments.options.config? formats).mapError .settings
  report files (arguments.options.format?.getD settings.format) arguments.task

/-- Carries out what the arguments of the program ask for. -/
def run (files : Files) (env : List (String × String)) (arguments : List String)
    (formats : List Settings.FileFormat := Settings.fileFormats) : Except CommandError String := do
  let arguments ← (Arguments.read arguments).mapError .usage
  runWith files env arguments formats

/-! ## What is read -/

/-- The paths of the files that may be read for some arguments. -/
def pathsRead (arguments : Arguments)
    (formats : List Settings.FileFormat := Settings.fileFormats) : List String :=
  let settings := match arguments.options.config? with
    | some path => [path]
    | none => Settings.defaultPaths
  settings.flatMap (Settings.filePaths formats) ++ arguments.task.files

end CommandLine

/-! ## Wording -/

/-- The wording of a usage error. -/
def UsageError.message : UsageError → String
  | .help | .nothingAsked =>
    "Usage: rowquery [-c FILE] [-f text|json|table] (select|insert|update|delete) QUERY\n"
      ++ "       rowquery [-c FILE] [-f text|json|table] eval QUERY ROWS"
  | .missingTask => "a task is required: select, insert, update, delete or eval"
  | .unknownTask => "the task is none of select, insert, update, delete and eval"
  | .unknownArgument => "unexpected argument"
  | .invalidValue => "a value is missing or invalid"
  | .missingFile => "the task requires more files"
  | .repeatedOption => "an option is given more than once"
  | .unwantedValue => "an option takes no value"

/-- The wording of an error of the program. -/
def CommandError.message : CommandError → String
  | .usage error => error.message
  | .settings error => error.message
  | .read error => error.message
  | .decode error => "JSON Serialization error: " ++ error.message
  | .query error => error.message

end RowQuery
