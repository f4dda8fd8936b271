import GrammarLayout.Command.FileError
import GrammarLayout.Command.LogOptions
import GrammarLayout.Layout.Registry
import GrammarLayout.Text.Quoted

/-!
# The system around a command

A command reads a model, may write a file, and uses the standard streams. It does so only by the
actions of a system, which is a parameter: the system of the machine, or one that is kept in memory.
-/

namespace GrammarLayout

inductive LogEvent
  | start (command model : String)
  /-- The end of planning; at finer levels its steps are logged with it. -/
  | planned (outcome : Except Registry.Failure Layout)
  | footer (command : String) (succeeded : Bool)

/-- The text of an event, without times. -/
def LogEvent.describe? (options : LogOptions) : LogEvent → Option String
  | start command model =>
    some (s!"treesoa: stage=\"cli.run.start\" command={Text.quoted command} " ++
      s!"model={Text.quoted model} log_level={options.level.name} " ++
      s!"log_format={options.format.name}")
  | planned (.ok l) =>
    some s!"layout planned fields={l.fields.length} buffers={l.buffers.length}"
  | planned (.error _) => none
  | footer command succeeded =>
    let status := if succeeded then "ok" else "error"
    some (s!"treesoa: stage=\"cli.run.footer\" command={Text.quoted command} " ++
      s!"status={Text.quoted status}")

/-- The actions of a system, in the monad in which it runs. -/
structure System (m : Type → Type) where
  /-- Reads all of the standard input. -/
  readInput : m (Except FileError ByteArray)
  readFile (path : String) : m (Except FileError ByteArray)
  /-- Writes to what the path leads to; a file is new or replaced. -/
  writeFile (path text : String) : m (Except FileError Unit)
  /-- Writes to the standard output. -/
  print (text : String) : m (Except FileError Unit)
  /-- Writes to the standard error. -/
  complain (text : String) : m (Except FileError Unit)
  /-- Tells on the standard error, as far as possible, why the program stops. -/
  report (message : String) : m Unit
  /-- Logs an event on the standard error, if the options ask for it. -/
  log (options : LogOptions) (event : LogEvent) : m Unit

end GrammarLayout
