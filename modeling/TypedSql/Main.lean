import TypedSql.CommandLine.Job

/-!
# The program

Reads the arguments, prepares the run, and reports why it ends.  The exit code
is 2 if the arguments make no sense, and 1 if the run fails.
-/

namespace TypedSql
namespace CommandLine

/-- The text of a file, if it can be read as text. -/
def loadFile (path : String) : IO (Option String) := do
  try
    return some (← IO.FS.readFile path)
  catch _ =>
    return none

/-- How the program is used. -/
def usage : String :=
  "Compile annotated SQL statement templates against a live schema\n\n" ++
    "Usage: sqlforge [OPTIONS] [TEMPLATES]...\n\n" ++
    "Options:\n" ++
    "  -c, --config <CONFIG>        Path to JSON configuration file\n" ++
    "      --dsn <DSN>              Override the connection string\n" ++
    "  -o, --output <OUTPUT>        Write JSON output to this file\n" ++
    "      --verbosity <VERBOSITY>  Log verbosity\n" ++
    "  -h, --help                   Print help\n" ++
    "  -V, --version                Print version"

/-- Do what an invocation asks for. -/
def perform (invocation : Invocation) : IO UInt32 := do
  let failure :=
    match ← (prepare loadFile invocation).run with
    | .error failure => failure
    | .ok job => .connection job.connectionError
  IO.eprintln s!"Error: {failure.message}"
  return 1

/-- Run the program with its arguments. -/
def start (arguments : List String) : IO UInt32 := do
  match parse arguments with
  | .error error =>
    IO.eprintln s!"error: {error.message}"
    return 2
  | .ok .help =>
    IO.println usage
    return 0
  | .ok .version =>
    IO.println "sqlforge 0.1.0"
    return 0
  | .ok (.run invocation) => perform invocation

end CommandLine
end TypedSql

/-- The program. -/
def main (arguments : List String) : IO UInt32 :=
  TypedSql.CommandLine.start arguments
