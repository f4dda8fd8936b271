import GrammarLayout.Grammar
import GrammarLayout.Storage

/-!
# Why a layout cannot be planned
-/

namespace GrammarLayout

inductive NamedOwner
  | universal
  | ofInterface (name : String)
  | ofClass (name : String)
  deriving DecidableEq

def NamedOwner.describe : NamedOwner → String
  | universal => "universal data"
  | ofInterface name => s!"interface `{name}`"
  | ofClass name => s!"class `{name}`"

inductive PlanError
  /-- The declared type cannot be stored. -/
  | unsupportedType (owner : NamedOwner) (property : String) (type : String) (reason : TypeError)
  /-- The declared value is optional. -/
  | maybeValue (ident : String)
  /-- Neither the owner nor, for a class, its interface declares the property. -/
  | unresolvedProperty (owner : NamedOwner) (interface : Option String) (property : String)
  | unknownChildRole (className : String) (role : String)
  /-- The request came with a handle of another grammar. -/
  | foreign (handle : ForeignHandle)
  deriving DecidableEq

namespace PlanError

def message : PlanError → String
  | unsupportedType owner property type reason =>
    s!"type `{type}` of property `{property}` on {owner.describe}: {reason.message}"
  | maybeValue ident =>
    s!"field `{ident}` is a 'maybe' type; optional values cannot be stored"
  | unresolvedProperty owner none property =>
    s!"property `{property}` is not declared on {owner.describe}"
  | unresolvedProperty owner (some interface) property =>
    s!"property `{property}` is not declared on {owner.describe} or its interface `{interface}`"
  | unknownChildRole c role => s!"class `{c}` has no child role `{role}`"
  | foreign handle => handle.message

/-- The outcome of a step that a foreign handle may stop. -/
def ofForeign {α : Type} : Except ForeignHandle α → Except PlanError α
  | .ok a => .ok a
  | .error handle => .error (.foreign handle)

end PlanError

/-- What stops the program in place of an answer. -/
inductive Panic
  | foreign (handle : ForeignHandle)
  /-- A number has no successor among the words that it is counted with. -/
  | overflow
  /-- A column is wider than what can be padded. -/
  | width
  deriving DecidableEq

def Panic.message : Panic → String
  | foreign handle => handle.message
  | overflow => "attempt to add with overflow"
  | width => "Formatting argument out of range"

def Grammar.named (g : Grammar) : Owner → Except ForeignHandle NamedOwner
  | .universal => .ok .universal
  | .ofInterface id => (g.requireInterface id).map fun i => .ofInterface i.name
  | .ofClass id => (g.requireClass id).map fun c => .ofClass c.name

end GrammarLayout
