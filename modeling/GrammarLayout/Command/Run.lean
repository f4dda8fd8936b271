import GrammarLayout.Command.Invocation
import GrammarLayout.Command.System
import GrammarLayout.Layout.Json
import GrammarLayout.Listing
import GrammarLayout.Model.Resolve

/-!
# Commands

`plan` shows the layout of a model or saves it in a file; `check` tells in one line whether there
is one. A run logs its beginning and its end, and ends with a code.
-/

namespace GrammarLayout

inductive CommandError
  | read (path : String) (error : FileError)
  | stdin (error : FileError)
  | model (name : String) (error : Model.ModelError)
  | plan (error : PlanError)
  | write (path : String) (error : FileError)
  deriving DecidableEq

def CommandError.message : CommandError → String
  | read path error => s!"failed to read '{path}': {error.message}"
  | stdin error => s!"failed to read stdin: {error.message}"
  | model name error => s!"invalid model '{name}': {error.message}"
  | plan error => error.message
  | write path error => s!"failed to write '{path}': {error.message}"

namespace Command

/-- A model whose path is a dash comes from the standard input. -/
def isStdin (path : String) : Bool := path = "-"

def modelName (path : String) : String := if isStdin path then "<stdin>" else path

def decode (bytes : ByteArray) : Except FileError String :=
  match String.fromUTF8? bytes with
  | some text => .ok text
  | none => .error .notText

/-- Reads a model from its text; the name is for messages. -/
def parseModel (name text : String) : Except CommandError Model :=
  match Model.ofJson text with
  | .ok m => .ok m
  | .error e => .error (.model name e)

/-- The model at a path, of which the bytes have been read. -/
def loadModel (path : String) (contents : Except FileError ByteArray) :
    Except CommandError Model :=
  match contents >>= decode with
  | .ok text => parseModel (modelName path) text
  | .error e => .error (if isStdin path then .stdin e else .read path e)

inductive Failure
  | error (e : CommandError)
  | panic (p : Panic)
  deriving DecidableEq

def Failure.ofRegistry : Registry.Failure → Failure
  | .refused (.foreign handle) => panic (.foreign handle)
  | .refused e => error (.plan e)
  | .overflow => panic .overflow

def planModel (overflow : Overflow) (m : Model) : Except Registry.Failure Layout :=
  Registry.plan overflow m.grammar m.schedule

def render (l : Layout) (format : OutputFormat) (p : Palette) : String :=
  match format with
  | .text => l.listing p
  | .json => l.toJson.pretty ++ "\n"

/-- Renders a layout, where nothing stops it. -/
def rendering (l : Layout) (format : OutputFormat) (p : Palette) : Except Panic String :=
  match format with
  | .text => l.dump p
  | .json => l.toJson?.map fun form => form.pretty ++ "\n"

def summary (l : Layout) : String :=
  s!"ok: {l.fields.length} fields in {l.buffers.length} buffers"

structure PlanOrder where
  model : String
  format : OutputFormat
  color : Bool
  output : Option String
  deriving DecidableEq

/-- What a command line orders; colours may depend on the terminal. -/
def PlanOrder.ofChoice (terminal : Bool) (model : String) (format : OutputFormat)
    (output : Option String) (color : ColorChoice) : PlanOrder :=
  ⟨model, format, color.colorize?.getD terminal, output⟩

/-- What is saved in a file is never coloured. -/
def PlanOrder.palette (o : PlanOrder) : Palette := .ofBool (o.color && o.output.isNone)

section Run

variable {m : Type → Type} [Monad m] (sys : System m) (overflow : Overflow) (options : LogOptions)

def contents (path : String) : m (Except FileError ByteArray) :=
  if isStdin path then sys.readInput else sys.readFile path

def layout (path : String) : ExceptT Failure m Layout := do
  let bytes ← ExceptT.lift (contents sys path)
  let model ← ExceptT.mk (pure ((loadModel path bytes).mapError .error))
  let outcome := planModel overflow model
  ExceptT.lift (sys.log options (.planned outcome))
  ExceptT.mk (pure (outcome.mapError .ofRegistry))

/-- Plans a model and renders the layout, which is saved if there is a file to save it in. What
comes back is the text to print. -/
def PlanOrder.execute (o : PlanOrder) : ExceptT Failure m (Option String) := do
  let l ← layout sys overflow options o.model
  let text ← ExceptT.mk (pure ((rendering l o.format o.palette).mapError .panic))
  match o.output with
  | none => return some text
  | some path =>
    match ← ExceptT.lift (sys.writeFile path text) with
    | .ok _ => return none
    | .error e => throw (.error (.write path e))

def check (path : String) : ExceptT Failure m String :=
  summary <$> layout sys overflow options path

def stop (message : String) : m UInt32 := do
  sys.report message
  return 101

/-- Prints a text as the last that is done. -/
def printed (text : String) : m UInt32 := do
  match ← sys.print text with
  | .ok _ => return 0
  | .error e => stop sys s!"failed printing to stdout: {e.message}"

/-- A failure prints nothing but its message, which goes to the standard error. -/
def failed (e : CommandError) : m UInt32 := do
  match ← sys.complain s!"error: {e.message}\n" with
  | .ok _ => return 1
  | .error e => stop sys s!"failed printing to stderr: {e.message}"

/-- Ends the run of a command that has come to a text to print, or to nothing. -/
def conclude (command : String) : Except Failure (Option String) → m UInt32
  | .ok text => do
    sys.log options (.footer command true)
    match text with
    | some text => printed sys text
    | none => return 0
  | .error (.error e) => do
    sys.log options (.footer command false)
    failed sys e
  | .error (.panic p) => stop sys p.message

def perform (environment : LogSettings) (terminal : Bool) : Invocation → m UInt32
  | .plan model format output color log => do
    let options := LogOptions.effective environment log
    sys.log options (.start "plan" model)
    let o := PlanOrder.ofChoice terminal model format output color
    let result ← (o.execute sys overflow options).run
    conclude sys options "plan" result
  | .check model log => do
    let options := LogOptions.effective environment log
    sys.log options (.start "check" model)
    let result ← (check sys overflow options model).run
    conclude sys options "check" (result.map fun line => some (line ++ "\n"))

end Run
end Command
end GrammarLayout
