import GrammarLayout.OrderedMap

/-!
# Attribute grammars

A grammar declares interfaces, and classes that implement one interface each. Both are known by
handles, which count them in the order of their declaration, and by names, which are unique among
interfaces and among classes. A handle may come from another grammar and belong to nothing here.
-/

namespace GrammarLayout

/-- The declared type of an attribute, field or input, as written; `maybe` marks an optional
value. -/
structure Property where
  type : String
  maybe : Bool
  deriving DecidableEq

abbrev Properties := OrderedMap String Property

/-- The handle of an interface, read as a number. -/
structure InterfaceId where
  index : Nat
  deriving DecidableEq

structure ClassId where
  index : Nat
  deriving DecidableEq

/-- What classes have in common: inputs, public attributes and public fields. -/
structure Interface where
  name : String
  inputs : Properties := .empty
  attributes : Properties := .empty
  fields : Properties := .empty
  deriving DecidableEq

/-- A kind of node: private fields and attributes, and for each child role the interface that the
child must have. -/
structure Class where
  name : String
  interface : InterfaceId
  fields : Properties := .empty
  attributes : Properties := .empty
  children : OrderedMap String InterfaceId := .empty
  deriving DecidableEq

/-- A declared property is looked for among inputs, attributes and fields, in this order. -/
def Interface.property? (i : Interface) (name : String) : Option Property :=
  i.inputs.get? name <|> i.attributes.get? name <|> i.fields.get? name

/-- A declared property is looked for among fields and attributes, in this order. -/
def Class.property? (c : Class) (name : String) : Option Property :=
  c.fields.get? name <|> c.attributes.get? name

def Class.child? (c : Class) (role : String) : Option InterfaceId := c.children.get? role

/-- Whom a datum belongs to. Universal data exist on every node. -/
inductive Owner
  | universal
  | ofInterface (id : InterfaceId)
  | ofClass (id : ClassId)
  deriving DecidableEq

inductive ForeignHandle
  | interface (id : InterfaceId)
  | ofClass (id : ClassId)
  deriving DecidableEq

def ForeignHandle.message : ForeignHandle → String
  | interface id =>
    s!"Grammar: interface id {id.index} not found (handles must come from the same grammar)"
  | ofClass id =>
    s!"Grammar: class id {id.index} not found (handles must come from the same grammar)"

inductive DeclarationError
  | duplicateInterface (name : String)
  | duplicateClass (name : String)
  | foreign (handle : ForeignHandle)
  deriving DecidableEq

def DeclarationError.message : DeclarationError → String
  | duplicateInterface name => s!"interface `{name}` is declared more than once"
  | duplicateClass name => s!"class `{name}` is declared more than once"
  | foreign handle => handle.message

inductive Declaration
  | interface (i : Interface)
  | ofClass (c : Class)
  deriving DecidableEq

/-- Interfaces and classes in the order of their declaration. -/
structure Grammar where
  interfaces : List Interface
  classes : List Class
  deriving DecidableEq

namespace Grammar

def empty : Grammar := ⟨[], []⟩

variable (g : Grammar)

def interface? (id : InterfaceId) : Option Interface := g.interfaces[id.index]?

def class? (id : ClassId) : Option Class := g.classes[id.index]?

def interfaceByName? (name : String) : Option InterfaceId :=
  (g.interfaces.findIdx? fun i => i.name = name).map InterfaceId.mk

def classByName? (name : String) : Option ClassId :=
  (g.classes.findIdx? fun c => c.name = name).map ClassId.mk

def interfaceEntries : List (InterfaceId × Interface) :=
  g.interfaces.zipIdx.map fun e => (⟨e.2⟩, e.1)

def classEntries : List (ClassId × Class) := g.classes.zipIdx.map fun e => (⟨e.2⟩, e.1)

def requireInterface (id : InterfaceId) : Except ForeignHandle Interface :=
  match g.interface? id with
  | some i => .ok i
  | none => .error (.interface id)

def requireClass (id : ClassId) : Except ForeignHandle Class :=
  match g.class? id with
  | some c => .ok c
  | none => .error (.ofClass id)

def addInterface (i : Interface) : Except DeclarationError (InterfaceId × Grammar) :=
  if (g.interfaceByName? i.name).isSome then .error (.duplicateInterface i.name)
  else .ok (⟨g.interfaces.length⟩, { g with interfaces := g.interfaces ++ [i] })

/-- The first handle of the class that is no interface of the grammar. -/
def foreignInterface? (c : Class) : Option InterfaceId :=
  (c.interface :: c.children.values).find? fun id => (g.interface? id).isNone

/-- Declares a class. Its name is looked at first, then its interface and those of its children. -/
def addClass (c : Class) : Except DeclarationError (ClassId × Grammar) :=
  if (g.classByName? c.name).isSome then .error (.duplicateClass c.name)
  else
    match g.foreignInterface? c with
    | some id => .error (.foreign (.interface id))
    | none => .ok (⟨g.classes.length⟩, { g with classes := g.classes ++ [c] })

def ownerName : Owner → Except ForeignHandle (Option String)
  | .universal => .ok none
  | .ofInterface id => (g.requireInterface id).map fun i => some i.name
  | .ofClass id => (g.requireClass id).map fun c => some c.name

def interfaceOf : Owner → Except ForeignHandle (Option InterfaceId)
  | .ofClass id => (g.requireClass id).map fun c => some c.interface
  | .universal | .ofInterface _ => .ok none

def property (owner : Owner) (name : String) : Except ForeignHandle (Option Property) :=
  match owner with
  | .universal => .ok none
  | .ofInterface id => (g.requireInterface id).map fun i => i.property? name
  | .ofClass id => (g.requireClass id).map fun c => c.property? name

theorem requireInterface_eq_ok {id : InterfaceId} {i : Interface} :
    g.requireInterface id = .ok i ↔ g.interface? id = some i := by
  unfold requireInterface
  split <;> simp_all

theorem requireClass_eq_ok {id : ClassId} {c : Class} :
    g.requireClass id = .ok c ↔ g.class? id = some c := by
  unfold requireClass
  split <;> simp_all

end Grammar
end GrammarLayout
