import GrammarLayout.Model.Document

/-!
# Models

A model is a grammar with a schedule. It comes from a document by looking up every name: first
all interfaces are declared, then the classes one by one, then the schedule is filled.
-/

namespace GrammarLayout
namespace Model

inductive ModelError
  | json (error : Json.TextError)
  | unknownInterface (className : String) (name : String)
  | unknownChildInterface (className : String) (role : String) (name : String)
  | unknownScheduledClass (name : String)
  | declaration (error : DeclarationError)
  deriving DecidableEq

def ModelError.message : ModelError → String
  | json e => s!"JSON parse error: {e.message}"
  | unknownInterface c name => s!"class `{c}` implements unknown interface `{name}`"
  | unknownChildInterface c role name =>
    s!"child role `{role}` of class `{c}` requires unknown interface `{name}`"
  | unknownScheduledClass name => s!"schedule refers to unknown class `{name}`"
  | declaration error => error.message

end Model

structure Model where
  grammar : Grammar
  schedule : Schedule
  deriving DecidableEq

namespace Model

def declareInterface (g : Grammar) (i : Interface) : Except ModelError Grammar :=
  match g.addInterface i with
  | .ok r => .ok r.2
  | .error e => .error (.declaration e)

/-- The child roles of a class with the handles of their interfaces. -/
def resolveChildren (g : Grammar) (className : String) :
    List (String × String) → Except ModelError (List (String × InterfaceId))
  | [] => .ok []
  | (role, name) :: rest =>
    match g.interfaceByName? name with
    | none => .error (.unknownChildInterface className role name)
    | some id => (resolveChildren g className rest).map fun es => (role, id) :: es

/-- Declares a class of a document. Its interface is looked up first, then those of its children;
only then is its own name looked at. -/
def declareClass (g : Grammar) (c : ClassDeclaration) : Except ModelError Grammar :=
  match g.interfaceByName? c.interface with
  | none => .error (.unknownInterface c.name c.interface)
  | some interface =>
    match resolveChildren g c.name c.children.entries with
    | .error e => .error e
    | .ok children =>
      match g.addClass ⟨c.name, interface, c.fields, c.attributes, .ofList children⟩ with
      | .ok r => .ok r.2
      | .error e => .error (.declaration e)

def scheduleClass (g : Grammar) (s : Schedule) (entry : String × List String) :
    Except ModelError Schedule :=
  match g.classByName? entry.1 with
  | none => .error (.unknownScheduledClass entry.1)
  | some id => .ok (s.insert id (entry.2.map SinkRef.parse))

/-- The model that a document means. -/
def Document.resolve (d : Document) : Except ModelError Model := do
  let g ← d.interfaces.foldlM declareInterface Grammar.empty
  let g ← d.classes.foldlM declareClass g
  let s ← d.schedule.entries.foldlM (scheduleClass g) Schedule.empty
  return ⟨g, s⟩

def ofJson (json : String) : Except ModelError Model :=
  match Document.ofJson json with
  | .ok d => d.resolve
  | .error e => .error (.json e)

end Model
end GrammarLayout
