import GrammarLayout.Text.Lowercase

/-!
# Log options

The format and the level of log events come from the command line, else from the environment,
else they are text and warnings. A word that means nothing counts as absent.
-/

namespace GrammarLayout

inductive LogFormat
  | text
  | json
  deriving DecidableEq

inductive LogLevel
  | error
  | warn
  | info
  | debug
  | trace
  deriving DecidableEq

namespace LogFormat

def ofWord? (word : String) : Option LogFormat :=
  let lower := Text.asciiLowercase word
  if lower = "text" ∨ lower = "plain" then some text
  else if lower = "json" then some json
  else none

def name : LogFormat → String
  | text => "text"
  | json => "json"

end LogFormat

namespace LogLevel

def ofWord? (word : String) : Option LogLevel :=
  let lower := Text.asciiLowercase word
  if lower = "error" ∨ lower = "err" then some error
  else if lower = "warn" ∨ lower = "warning" then some warn
  else if lower = "info" then some info
  else if lower = "debug" then some debug
  else if lower = "trace" then some trace
  else none

def name : LogLevel → String
  | error => "error"
  | warn => "warn"
  | info => "info"
  | debug => "debug"
  | trace => "trace"

end LogLevel

structure LogSettings where
  format : Option LogFormat
  level : Option LogLevel
  deriving DecidableEq

structure LogOptions where
  format : LogFormat
  level : LogLevel
  deriving DecidableEq

namespace LogSettings

def ofWords (format level : Option String) : LogSettings :=
  ⟨format.bind LogFormat.ofWord?, level.bind LogLevel.ofWord?⟩

end LogSettings

namespace LogOptions

def default : LogOptions := ⟨.text, .warn⟩

def override (base : LogOptions) (s : LogSettings) : LogOptions :=
  ⟨s.format.getD base.format, s.level.getD base.level⟩

def effective (environment commandLine : LogSettings) : LogOptions :=
  (default.override environment).override commandLine

end LogOptions
end GrammarLayout
