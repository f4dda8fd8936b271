import GrammarLayout.Layout.Error
import GrammarLayout.Layout.Index

/-!
# Layouts

A layout is the list of all fields created so far, in that order, with the buffers they are in.
A field is only ever added, and only if none answers the request yet, so that what once was
answered is answered the same way from then on. Positions, offsets and counts are numbers here; a
registry keeps them as words and is read as a layout when it is finished.
-/

namespace GrammarLayout

/-- The fields for a grammar, their index by key, and their buffers. -/
structure Layout where
  grammar : Grammar
  fields : List Field
  index : FieldIndex
  buffers : Buffers
  deriving DecidableEq

/-- The property of a declaration, looked for on the owner and then on the interface that the
owner implements. -/
def Grammar.declared? (g : Grammar) (owner : Owner) (property : String) :
    Except ForeignHandle (Option Property) := do
  match ← g.property owner property with
  | some p => return some p
  | none =>
    match ← g.interfaceOf owner with
    | some id => g.property (.ofInterface id) property
    | none => return none

def Grammar.interfaceName? (g : Grammar) (owner : Owner) :
    Except ForeignHandle (Option String) := do
  match ← g.interfaceOf owner with
  | some id => g.ownerName (.ofInterface id)
  | none => return none

def Grammar.storageType (g : Grammar) (owner : Owner) (property : String) :
    Except PlanError StorageType := do
  match ← PlanError.ofForeign (g.declared? owner property) with
  | some declared =>
    match StorageType.ofName declared.type with
    | .ok type => return type
    | .error reason =>
      let named ← PlanError.ofForeign (g.named owner)
      throw (.unsupportedType named property declared.type reason)
  | none =>
    let named ← PlanError.ofForeign (g.named owner)
    let interface ← PlanError.ofForeign (g.interfaceName? owner)
    throw (.unresolvedProperty named interface property)

namespace Layout

def empty (g : Grammar) : Layout := ⟨g, [], .empty, []⟩

variable (l : Layout)

/-- The position of the field that answers a request. -/
def find? (owner : Owner) (property : String) : Except ForeignHandle (Option Nat) :=
  firstMatch l.grammar l.fields owner (l.index.candidates (Naming.propertyKey property))

def field? (owner : Owner) (property : String) : Except ForeignHandle (Option Field) :=
  (l.find? owner property).map fun position => position.bind fun i => l.fields[i]?

def add (d : Draft) : Layout :=
  let placed := l.buffers.place d
  { l with
    fields := l.fields ++ [placed.1]
    index := l.index.insert (Naming.propertyKey d.property) l.fields.length
    buffers := placed.2 }

/-- The type of a new field: the one given, or else the declared one. -/
def typeOf (owner : Owner) (property : String) (given : Option StorageType) :
    Except PlanError StorageType :=
  match given with
  | some type => .ok type
  | none => l.grammar.storageType owner property

/-- The field that answers a request, with the layout in which it does. A field that exists is
taken as it is; otherwise one is added, if it has a type and is not optional. -/
def request (owner : Owner) (property : String) (given : Option StorageType) :
    Except PlanError (Nat × Layout) := do
  match ← PlanError.ofForeign (l.find? owner property) with
  | some position => return (position, l)
  | none =>
    let type ← l.typeOf owner property given
    let ownerName ← PlanError.ofForeign (l.grammar.ownerName owner)
    let draft := Draft.named owner ownerName property type
    let declared ← PlanError.ofForeign (l.grammar.property owner property)
    if (declared.map Property.maybe).getD false then throw (.maybeValue draft.ident)
    else return (l.fields.length, l.add draft)

/-- Placed fields sort by identifier, exempt ones before all others. -/
def sortKey (f : Field) : String :=
  match f.slot with
  | some _ => f.ident
  | none => ""

/-- The fields in the order in which generated code declares them. -/
def sortedFields : List Field :=
  l.fields.mergeSort fun a b => decide (sortKey a ≤ sortKey b)

/-- The fields in a buffer, in the order of their offsets. -/
def fieldsIn (buffer : String) : List Field :=
  l.fields.filter fun f => f.buffer? = some buffer

/-- The name of a field's owner; none for universal data. -/
def ownerNameOf (f : Field) : Option String := ((l.grammar.ownerName f.owner).toOption).join

end Layout
end GrammarLayout
