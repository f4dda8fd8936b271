import GrammarLayout.Command.Device
import GrammarLayout.Command.FileError
import GrammarLayout.OrderedMap

/-!
# Files

A tree of files is given by the places and contents of its files; directories are the beginnings
of their places. A path is followed from the top of the tree or from the root, component by
component. Around the tree there is what the machine has.
-/

namespace GrammarLayout

structure FileTree where
  machine : Machine
  files : OrderedMap Place ByteArray

namespace FileTree

/-- The components of a path. Repeated separators count once. -/
def components (path : String) : List String :=
  ((path.toList.splitOn '/').map String.ofList).filter (· ≠ "")

variable (tree : FileTree)

/-- The files below the top of the tree. -/
def own : List (Place × ByteArray) := tree.files.entries.filter fun e => e.1.head? ≠ some "/"

inductive Entry
  | file (bytes : ByteArray)
  | device (d : Device)
  | directory
  | absent

/-- Whether a place is the top of the tree, has files below it, or is a directory anyway. -/
def isDirectory (place : Place) : Bool :=
  place = [] || tree.machine.directories.contains place ||
    tree.files.keys.any fun p => place.isPrefixOf p

def entry (place : Place) : Entry :=
  match tree.files.get? place, tree.machine.device? place with
  | some bytes, _ => .file bytes
  | none, some d => .device d
  | none, none => if tree.isDirectory place then .directory else .absent

def descend (place : Place) (component : String) : Place :=
  if component = "." then place
  else if component = ".." then tree.machine.parent place
  else tree.machine.target (place ++ [component])

/-- The place where some components lead; everything on the way has to be a directory. -/
def follow (place : Place) : List String → Except FileError Place
  | [] => .ok place
  | c :: rest =>
    match tree.entry place with
    | .directory =>
      if 255 < c.utf8ByteSize then .error .nameTooLong else follow (tree.descend place c) rest
    | .file _ | .device _ => .error .notDirectory
    | .absent => .error .notFound

def locate (path : String) (components : List String) : Except FileError Place :=
  if '\x00' ∈ path.toList then .error .zeroByte
  else if path = "" then .error .notFound
  else if 4095 < path.utf8ByteSize then .error .nameTooLong
  else tree.follow (if path.toList.head? = some '/' then ["/"] else []) components

/-- Whether a path ends with a separator, so that it can only be a directory. -/
def namesDirectory (path : String) : Bool := path.toList.getLast? = some '/'

def find (path : String) : Except FileError Entry := do
  let cs := components path
  let place ← tree.locate path (if namesDirectory path then cs ++ ["."] else cs)
  return tree.entry place

inductive Target
  | file (place : Place)
  | device (d : Device)

/-- What is written to when a path is opened as a file, which is new or replaced. Its directory has
to be there before its own name is looked at. -/
def target (path : String) : Except FileError Target := do
  let cs := components path
  let parent ← tree.locate path (cs.dropLast ++ ["."])
  if namesDirectory path then throw .isDirectory
  let place ← tree.follow parent cs.getLast?.toList
  match tree.entry place with
  | .file _ => return .file place
  | .device d => return .device d
  | .directory => throw .isDirectory
  | .absent => if tree.machine.isSealed place then throw .notFound else return .file place

def put (place : Place) (bytes : ByteArray) : FileTree :=
  { tree with files := tree.files.insert place bytes }

end FileTree
end GrammarLayout
