import RowQuery.CommandLine.Run

/-!
# The program

Reads arguments, variables and files, hands them to `CommandLine.run` and prints the report. All
that is decided is decided there; here is only what has to touch the world.
-/

namespace RowQuery.Main

/-- What stands at a path. -/
def entryAt (path : String) : IO (List (String × Entry)) := do
  try
    let text ← IO.FS.readFile path
    return [(path, .file text)]
  catch
    | .noFileOrDirectory .. => return []
    | .inappropriateType .. => return [(path, .directory)]
    | error => throw error

/-- The variables of the environment, where the system lists them. -/
def environment : IO (List (String × String)) := do
  let listed ← try IO.FS.readFile "/proc/self/environ" catch _ => pure ""
  return (Text.piecesAt '\x00' listed).filterMap fun assignment =>
    match Text.piecesAt '=' assignment with
    | name :: value => if value.isEmpty then none else some (name, "=".intercalate value)
    | [] => none

/-- Runs the program on its arguments. -/
def runProgram (arguments : List String) : IO (Except CommandError String) := do
  match Arguments.read arguments with
  | .error error => return .error (.usage error)
  | .ok read =>
    let entries ← (CommandLine.pathsRead read).mapM entryAt
    let env ← environment
    return CommandLine.runWith (Files.ofList entries.flatten) env read

end RowQuery.Main

/-- Prints the report, or what is wrong. -/
def main (arguments : List String) : IO UInt32 := do
  match ← RowQuery.Main.runProgram arguments with
  | .ok report =>
    IO.print report
    return 0
  | .error (.usage .help) =>
    IO.println (RowQuery.UsageError.message .help)
    return 0
  | .error error =>
    IO.eprintln ("✗ " ++ error.message)
    return 1
