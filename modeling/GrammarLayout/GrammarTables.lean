import GrammarLayout.Grammar

/-!
# Grammars that are declared in place

While declarations are made, the handle of a name is kept in a table beside the interfaces and
classes. A handle is a word of 32 bits; declaring changes the tables one after the other.
-/

namespace GrammarLayout

/-- The handle of the interface at a position, of which only the lower 32 bits are kept. -/
def InterfaceId.ofPosition (position : Nat) : InterfaceId := ⟨(UInt32.ofNat position).toNat⟩

def ClassId.ofPosition (position : Nat) : ClassId := ⟨(UInt32.ofNat position).toNat⟩

structure GrammarTables extends Grammar where
  interfaceIds : OrderedMap String InterfaceId
  classIds : OrderedMap String ClassId
  deriving DecidableEq

namespace GrammarTables

def empty : GrammarTables := ⟨.empty, .empty, .empty⟩

variable (t : GrammarTables)

def interfaceByName? (name : String) : Option InterfaceId := t.interfaceIds.get? name

def classByName? (name : String) : Option ClassId := t.classIds.get? name

/-- A step that changes the tables and may be refused. What it has changed by then stays changed. -/
abbrev Step (α : Type) := ExceptT DeclarationError (StateM GrammarTables) α

namespace Step

def ensureInterface (id : InterfaceId) : Step Unit := do
  match (← get).interface? id with
  | some _ => return
  | none => throw (.foreign (.interface id))

def addInterface (i : Interface) : Step InterfaceId := do
  if (← get).interfaceIds.contains i.name then throw (.duplicateInterface i.name)
  let id := .ofPosition (← get).interfaces.length
  modify fun t => { t with interfaceIds := t.interfaceIds.insert i.name id }
  modify fun t => { t with interfaces := t.interfaces ++ [i] }
  return id

/-- Declares a class. Its name is looked at first, then its interface and those of its children. -/
def addClass (c : Class) : Step ClassId := do
  if (← get).classIds.contains c.name then throw (.duplicateClass c.name)
  (c.interface :: c.children.values).forM ensureInterface
  let id := .ofPosition (← get).classes.length
  modify fun t => { t with classIds := t.classIds.insert c.name id }
  modify fun t => { t with classes := t.classes ++ [c] }
  return id

end Step

/-- The handle of a new interface, and the tables that the declaration leaves behind. -/
def addInterface (i : Interface) : Except DeclarationError InterfaceId × GrammarTables :=
  (Step.addInterface i).run.run t

def addClass (c : Class) : Except DeclarationError ClassId × GrammarTables :=
  (Step.addClass c).run.run t

def declare : Declaration → GrammarTables
  | .interface i => (t.addInterface i).2
  | .ofClass c => (t.addClass c).2

/-- The tables that some declarations lead to, one after the other. -/
def declared (ds : List Declaration) : GrammarTables := ds.foldl declare .empty

end GrammarTables
end GrammarLayout
