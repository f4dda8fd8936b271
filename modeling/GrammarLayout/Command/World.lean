import GrammarLayout.Command.FileTree
import GrammarLayout.Command.System

/-!
# A system in memory

A world is a state in which a command can run: its files, its standard input, and what has been
written to the other standard streams and been logged. A path may lead to one of those streams.
-/

namespace GrammarLayout

structure World where
  stdin : ByteArray
  files : FileTree
  stdout : String
  stderr : String
  events : List LogEvent

namespace World

/-- A world in which nothing has been written yet. -/
def start (stdin : ByteArray) (files : FileTree) : World := ⟨stdin, files, "", "", []⟩

variable (w : World)

def print (text : String) : World := { w with stdout := w.stdout ++ text }

def complain (text : String) : World := { w with stderr := w.stderr ++ text }

def receive : Device → Except FileError ByteArray
  | .null => .ok .empty
  | .endless | .full => .error .outOfMemory
  | .terminal => .error .noDevice
  | .stream .input => .ok w.stdin
  | .stream .output | .stream .error => .ok .empty

def send (text : String) : Device → Except FileError World
  | .null | .endless | .stream .input => .ok w
  | .full => .error .noSpace
  | .terminal => .error .noDevice
  | .stream .output => .ok (w.print text)
  | .stream .error => .ok (w.complain text)

def read (path : String) : Except FileError ByteArray := do
  match ← w.files.find path with
  | .file bytes => return bytes
  | .device d => w.receive d
  | .directory => throw .isDirectory
  | .absent => throw .notFound

def save (path text : String) : Except FileError World := do
  match ← w.files.target path with
  | .file place => return { w with files := w.files.put place text.toUTF8 }
  | .device d => w.send text d

/-- The actions of a world. Its standard streams take all that is written to them. -/
def system : System (StateM World) where
  readInput := do return .ok (← get).stdin
  readFile path := do return (← get).read path
  writeFile path text := do
    match (← get).save path text with
    | .ok saved =>
      set saved
      return .ok ()
    | .error e => return .error e
  print text := do
    modify fun w => w.print text
    return .ok ()
  complain text := do
    modify fun w => w.complain text
    return .ok ()
  report message := modify fun w => w.complain message
  log _ event := modify fun w => { w with events := w.events ++ [event] }

end World
end GrammarLayout
