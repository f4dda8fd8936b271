import GrammarLayout.Command.LogOptions

/-!
# Command lines

A command line names a subcommand, its options and a model. An option takes one value, attached
or as the next word. A value is looked at when the argument it belongs to is settled, which for a
value of its own is when the next argument begins or the words end.
-/

namespace GrammarLayout

inductive OutputFormat
  | text
  | json
  deriving DecidableEq

inductive ColorChoice
  | auto
  | always
  | never
  deriving DecidableEq

/-- Whether to colour, as far as the choice alone decides it. -/
def ColorChoice.colorize? : ColorChoice → Option Bool
  | auto => none
  | always => some true
  | never => some false

inductive Invocation
  | plan (model : String) (format : OutputFormat) (output : Option String) (color : ColorChoice)
      (log : LogSettings)
  | check (model : String) (log : LogSettings)
  deriving DecidableEq

inductive UsageError
  | noArguments
  | missingSubcommand
  | invalidSubcommand
  | helpRequested
  | unknownArgument
  /-- A value is missing, empty or not among those allowed. -/
  | invalidValue
  | repeatedArgument
  | missingModel
  /-- A value is attached to an option that takes none. -/
  | unwantedValue
  deriving DecidableEq

namespace Invocation

/-- Where options are read: in front of the subcommand or after it. -/
inductive Level
  | top
  | plan
  | check
  deriving DecidableEq

inductive Argument
  | model
  | format
  | output
  | color
  | logLevel
  | logFormat
  deriving DecidableEq

def choices? : Argument → Option (List String)
  | .format => some ["text", "json"]
  | .color => some ["auto", "always", "never"]
  | .logLevel => some ["error", "warn", "info", "debug", "trace"]
  | .logFormat => some ["text", "json"]
  | .model | .output => none

/-- Whether a value is allowed. Paths must not be empty. -/
def allows (a : Argument) (value : String) : Bool :=
  match choices? a with
  | some words => words.contains value
  | none => value ≠ ""

def option? (level : Level) (name : String) : Option Argument :=
  if name = "log-level" then some .logLevel
  else if name = "log-format" then some .logFormat
  else if level ≠ .plan then none
  else if name = "format" then some .format
  else if name = "output" then some .output
  else if name = "color" then some .color
  else none

inductive Word
  /-- Two dashes: all further words are plain. -/
  | escape
  | long (name : String) (value : Option String)
  | short (letter : Char) (rest : List Char)
  | plain (text : String)
  deriving DecidableEq

def Word.ofString (s : String) : Word :=
  match s.toList with
  | ['-', '-'] => .escape
  | '-' :: '-' :: cs =>
    match cs.dropWhile (· ≠ '=') with
    | [] => .long (String.ofList cs) none
    | _ :: value => .long (String.ofList (cs.takeWhile (· ≠ '='))) (some (String.ofList value))
  | '-' :: c :: cs => .short c cs
  | _ => .plain s

/-- The arguments settled so far, and the one that is not, with its value if that has come. -/
structure Progress where
  settled : List (Argument × String)
  pending : Option (Argument × Option String)

namespace Progress

def start : Progress := ⟨[], none⟩

variable (p : Progress)

def value? (a : Argument) : Option String := (p.settled.find? fun e => e.1 = a).map Prod.snd

/-- Takes an argument with its value, once and if the value is allowed. -/
def take (a : Argument) (value : String) : Except UsageError Progress :=
  if (p.value? a).isSome then .error .repeatedArgument
  else if allows a value then .ok ⟨p.settled ++ [(a, value)], none⟩
  else .error .invalidValue

def settle : Except UsageError Progress :=
  match p.pending with
  | none => .ok p
  | some (_, none) => .error .invalidValue
  | some (a, some value) => p.take a value

/-- The option that the next plain word is the value of. -/
def awaiting? : Option Argument :=
  match p.pending with
  | some (a, none) => some a
  | _ => none

/-- Goes on to an option, with its value if that is attached. -/
def begin (a : Argument) (attached : Option String) : Except UsageError Progress := do
  let q ← p.settle
  match attached with
  | some value => q.take a value
  | none => return { q with pending := some (a, none) }

/-- Help is shown as soon as what came before is settled. -/
def askHelp : Except UsageError Progress := do
  let _ ← p.settle
  throw .helpRequested

def long (level : Level) (name : String) (value : Option String) : Except UsageError Progress :=
  match option? level name with
  | some a => p.begin a value
  | none =>
    if name = "help" then
      if value.isSome then .error .unwantedValue else p.askHelp
    else .error .unknownArgument

/-- The value that is attached to a letter, with or without an equals sign. -/
def attachedValue : List Char → Option String
  | [] => none
  | '=' :: cs => some (String.ofList cs)
  | cs => some (String.ofList cs)

def short (level : Level) (letter : Char) (rest : List Char) : Except UsageError Progress :=
  if letter = 'h' then p.askHelp
  else if letter = 'o' ∧ level = .plan then p.begin .output (attachedValue rest)
  else .error .unknownArgument

/-- Goes on to the model, of which there may be one. -/
def positional (word : String) : Except UsageError Progress :=
  if (p.value? .model).isSome ∨ (p.pending.map Prod.fst) = some .model then
    .error .unknownArgument
  else do
    let q ← p.settle
    return { q with pending := some (.model, some word) }

end Progress

def readPlain (p : Progress) : List String → Except UsageError Progress
  | [] => p.settle
  | w :: ws => do readPlain (← p.positional w) ws

def readWords (level : Level) (p : Progress) : List String → Except UsageError Progress
  | [] => p.settle
  | w :: ws =>
    match Word.ofString w with
    | .escape => readPlain p ws
    | .long name value => do readWords level (← p.long level name value) ws
    | .short letter rest => do readWords level (← p.short level letter rest) ws
    | .plain text =>
      match p.awaiting? with
      | some a => readWords level { p with pending := some (a, some text) } ws
      | none => do readWords level (← p.positional text) ws

def subcommands : List String := ["plan", "check", "help"]

/-- What asking for help on some words comes to. Subcommands have none of their own. -/
def helpOn : List String → UsageError
  | [] => .helpRequested
  | [w] => if w ∈ subcommands then .helpRequested else .invalidSubcommand
  | _ => .invalidSubcommand

/-- The log settings of the words in front of the subcommand and after it; the latter win. -/
def logSettings (front after : Progress) : LogSettings :=
  .ofWords (after.value? .logFormat <|> front.value? .logFormat)
    (after.value? .logLevel <|> front.value? .logLevel)

/-- Reads the words after a subcommand, and then settles what came in front of it. -/
def readSubcommand (front : Progress) (level : Level) (ws : List String) :
    Except UsageError Invocation := do
  let p ← readWords level .start ws
  match p.value? .model with
  | none => throw .missingModel
  | some model =>
    let front ← front.settle
    let log := logSettings front p
    if level = .plan then
      let format := if p.value? .format = some "json" then .json else .text
      let color :=
        if p.value? .color = some "always" then .always
        else if p.value? .color = some "never" then .never
        else .auto
      return .plan model format (p.value? .output) color log
    else return .check model log

def withoutSubcommand (front : Progress) : UsageError :=
  match front.settle with
  | .error e => e
  | .ok p => if p.settled.isEmpty then .noArguments else .missingSubcommand

def readTop (front : Progress) : List String → Except UsageError Invocation
  | [] => .error (withoutSubcommand front)
  | w :: ws =>
    match front.awaiting?, w with
    | none, "plan" => readSubcommand front .plan ws
    | none, "check" => readSubcommand front .check ws
    | none, "help" => .error (helpOn ws)
    | awaiting, w =>
      match Word.ofString w with
      | .escape =>
        match ws with
        | [] => .error (withoutSubcommand front)
        | w :: _ => .error (if w ∈ subcommands then .unknownArgument else .invalidSubcommand)
      | .long name value => do readTop (← front.long .top name value) ws
      | .short letter rest => do readTop (← front.short .top letter rest) ws
      | .plain text =>
        match awaiting with
        | some a => readTop { front with pending := some (a, some text) } ws
        | none => .error .invalidSubcommand

/-- Reads the words of a command line, without the name of the program. -/
def ofWords (words : List String) : Except UsageError Invocation := readTop .start words

end Invocation
end GrammarLayout
