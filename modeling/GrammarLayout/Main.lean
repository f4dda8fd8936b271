import GrammarLayout.Command.Run

/-!
# The program

Runs a command line on the system of the machine. A run that fails says why and ends with code 1; a
command line without meaning ends with code 2. Arithmetic wraps.
-/

namespace GrammarLayout

def usage : String :=
  "usage: plan [--format text|json] [-o|--output FILE] [--color auto|always|never] MODEL\n" ++
  "       check MODEL\n" ++
  "options: --log-level error|warn|info|debug|trace, --log-format text|json, --help\n" ++
  "A MODEL of - is read from the standard input.\n"

namespace FileError

def numbered (details : String) (code : UInt32) : FileError := other s!"{details} (os error {code})"

def ofSystem (e : IO.Error) : FileError :=
  match e with
  | .noFileOrDirectory _ code details
  | .inappropriateType _ code details
  | .permissionDenied _ code details
  | .invalidArgument _ code details
  | .resourceExhausted _ code details
  | .otherError code details => numbered details code
  | e => other (toString e)

end FileError

def attempt {α : Type} (action : IO α) : IO (Except FileError α) := do
  match ← action.toBaseIO with
  | .ok a => return .ok a
  | .error e => return .error (.ofSystem e)

/-- Logs the line of an event where the level lets it through. -/
def logLine (options : LogOptions) (event : LogEvent) : IO Unit :=
  match options.level, event.describe? options with
  | .info, some line | .debug, some line | .trace, some line => IO.eprintln s!"INFO {line}"
  | _, _ => return

def machineSystem : System IO where
  readInput := do
    let input ← IO.getStdin
    attempt (IO.FS.Stream.readBinToEnd input)
  readFile path := attempt (IO.FS.withFile path .read fun h => h.readBinToEnd)
  writeFile path text := attempt (IO.FS.writeFile path text)
  print text := attempt (IO.print text)
  complain text := attempt (IO.eprint text)
  report message := discard (attempt (IO.eprintln message))
  log options event := discard (attempt (logLine options event))

def environmentSettings : IO LogSettings := do
  let format ← IO.getEnv "TREESOA_LOG_FORMAT"
  let level ← IO.getEnv "TREESOA_LOG_LEVEL"
  return .ofWords format level

end GrammarLayout

open GrammarLayout in
def main (args : List String) : IO UInt32 := do
  match Invocation.ofWords args with
  | .ok i =>
    let out ← (← IO.getStdout).isTty
    let err ← (← IO.getStderr).isTty
    Command.perform machineSystem .wraps (← environmentSettings) (out && err) i
  | .error .helpRequested =>
    IO.print usage
    return 0
  | .error _ =>
    IO.eprint usage
    return 2
