/-!
# Devices and the places of a machine

A machine has places of its own beside the files that are kept on it: its standard directories, its
devices, and names that stand for other places. A device keeps nothing of what is written to it.
The standard streams of a program are among the devices.
-/

namespace GrammarLayout

/-- The names on the way to a file. The way starts at the root, which is then the first name, or
at the top of a tree of files. -/
abbrev Place := List String

inductive StandardStream
  | input
  | output
  | error
  deriving DecidableEq

inductive Device
  /-- Nothing is read from it, and what is written to it is gone. -/
  | null
  /-- What is read from it never ends, and what is written to it is gone. -/
  | endless
  /-- What is read from it never ends, and there is no room for what is written to it. -/
  | full
  /-- The terminal that controls the program, when there is none. -/
  | terminal
  | stream (s : StandardStream)
  deriving DecidableEq

/-- What a machine has whatever files are kept on it. -/
structure Machine where
  /-- The directory that the top of the tree of files lies in. -/
  home : Place
  directories : List Place
  devices : List (Place × Device)
  /-- Places that stand for other places. None of those does so itself. -/
  links : List (Place × Place)
  /-- Directories to which no file can be added, nor to those below them. -/
  sealed : List Place

namespace Machine

def bare : Machine := ⟨["/"], [["/"]], [], [], []⟩

variable (machine : Machine) (place : Place)

def device? : Option Device := machine.devices.lookup place

/-- The place that is meant by a place. -/
def target : Place := (machine.links.lookup place).getD place

/-- The directory around a place. The root is the directory around itself. -/
def parent : Place :=
  if place = [] then machine.home else if place = ["/"] then place else place.dropLast

def isSealed : Bool := machine.sealed.any fun p => p.isPrefixOf place

end Machine
end GrammarLayout
