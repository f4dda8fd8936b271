import GrammarLayout.Layout.Plan

/-!
# Registries

A registry is the state of one planning pass: fields, index and buffers, which requests change in
place, one part after the other. Field numbers, offsets and buffer lengths are words of 32 bits
here. A finished registry is a layout, in which the words are read as numbers.
-/

namespace GrammarLayout

def Grammar.typeFor (g : Grammar) (owner : Owner) (property : String) :
    Option StorageType → Except PlanError StorageType
  | some type => .ok type
  | none => g.storageType owner property

/-- The draft of a new field, if it has a type and is not optional. -/
def Grammar.draftFor (g : Grammar) (owner : Owner) (property : String)
    (given : Option StorageType) : Except PlanError Draft := do
  let type ← g.typeFor owner property given
  let ownerName ← PlanError.ofForeign (g.ownerName owner)
  let draft := Draft.named owner ownerName property type
  let declared ← PlanError.ofForeign (g.property owner property)
  if (declared.map Property.maybe).getD false then throw (.maybeValue draft.ident)
  else return draft

/-- What becomes of one more than the largest word. A program is built for one or for the other. -/
inductive Overflow
  | wraps
  | stops
  deriving DecidableEq

structure FieldId where
  word : UInt32
  deriving DecidableEq

namespace FieldId

/-- The number of the field at a position, of which only the lower 32 bits are kept. -/
def ofPosition (position : Nat) : FieldId := ⟨.ofNat position⟩

def position (id : FieldId) : Nat := id.word.toNat

end FieldId

namespace Registry

structure Slot where
  buffer : String
  offset : UInt32
  deriving DecidableEq

structure Field extends Draft where
  slot : Option Slot
  deriving DecidableEq

def Field.key (f : Field) : String := Naming.propertyKey f.property

structure Buffer where
  name : String
  element : StorageType
  length : UInt32
  deriving DecidableEq

inductive Failure
  | refused (e : PlanError)
  /-- A buffer has no word left to count with, and the program stops. -/
  | overflow
  deriving DecidableEq

/-- The length has no successor among the words. -/
def Buffer.isFull (b : Buffer) : Bool := b.length.toNat + 1 = UInt32.size

def Buffer.push (overflow : Overflow) (b : Buffer) : Except Failure (UInt32 × Buffer) :=
  if overflow = .stops ∧ b.isFull then .error .overflow
  else .ok (b.length, { b with length := b.length + 1 })

/-- Buffers by name, in the order in which they were opened. -/
abbrev Buffers := OrderedMap String Buffer

namespace Buffers

variable (bs : Buffers)

/-- Finds the buffer with a name, which is opened for the type if there is none. -/
def openFor (name : String) (type : StorageType) : Buffer × Buffers :=
  match bs.get? name with
  | some b => (b, bs)
  | none => (⟨name, type, 0⟩, bs.insert name ⟨name, type, 0⟩)

/-- Places a draft, and leaves the buffers as they are then, also where it cannot be placed. -/
def place (overflow : Overflow) (d : Draft) : Except Failure Field × Buffers :=
  if d.type.isExempt then (.ok ⟨d, none⟩, bs)
  else
    let name := Naming.bufferName d.type
    let opened := bs.openFor name d.type
    match opened.1.push overflow with
    | .ok (offset, b) => (.ok ⟨d, some ⟨b.name, offset⟩⟩, opened.2.insert name b)
    | .error e => (.error e, opened.2)

end Buffers
end Registry

/-- The fields for a grammar, their numbers by key, and their buffers. -/
structure Registry where
  grammar : Grammar
  fields : List Registry.Field
  index : OrderedMap String (List FieldId)
  buffers : Registry.Buffers
  deriving DecidableEq

namespace Registry

def empty (g : Grammar) : Registry := ⟨g, [], .empty, .empty⟩

/-- The first of some fields that is compatible with the owner. The index of a registry lists the
numbers of fields only, so that none is passed over. -/
def firstMatch (g : Grammar) (fields : List Field) (owner : Owner) :
    List FieldId → Except ForeignHandle (Option FieldId)
  | [] => .ok none
  | id :: rest =>
    match fields[id.position]? with
    | none => firstMatch g fields owner rest
    | some f =>
      match g.ownersMatch f.owner owner with
      | .error handle => .error handle
      | .ok true => .ok (some id)
      | .ok false => firstMatch g fields owner rest

variable (r : Registry)

def candidates (key : String) : List FieldId := (r.index.get? key).getD []

/-- The number of the field that answers a request. -/
def find? (owner : Owner) (property : String) : Except ForeignHandle (Option FieldId) :=
  firstMatch r.grammar r.fields owner (r.candidates (Naming.propertyKey property))

def fieldAt? (id : FieldId) : Option Field := r.fields[id.position]?

def field? (owner : Owner) (property : String) : Except ForeignHandle (Option Field) :=
  (r.find? owner property).map fun found => found.bind r.fieldAt?

/-- A step that changes the registry and may fail. What it has changed by then stays changed. -/
abbrev Step (α : Type) := ExceptT Failure (StateM Registry) α

namespace Step

def ofPlan {α : Type} : Except PlanError α → Step α
  | .ok a => pure a
  | .error e => throw (.refused e)

def place (overflow : Overflow) (d : Draft) : Step Field := do
  let r ← get
  let placed := r.buffers.place overflow d
  set { r with buffers := placed.2 }
  liftM placed.1

/-- Puts a field behind all others. -/
def append (f : Field) : Step FieldId := do
  let r ← get
  set { r with fields := r.fields ++ [f] }
  return .ofPosition r.fields.length

def list (key : String) (id : FieldId) : Step Unit :=
  modify fun r => { r with index := r.index.insert key (r.candidates key ++ [id]) }

def add (overflow : Overflow) (d : Draft) : Step FieldId := do
  let f ← place overflow d
  let id ← append f
  list (Naming.propertyKey d.property) id
  return id

/-- Answers a request by a field that exists, or else by a new one. -/
def request (overflow : Overflow) (owner : Owner) (property : String)
    (given : Option StorageType) : Step FieldId := do
  let r ← get
  match ← ofPlan (PlanError.ofForeign (r.find? owner property)) with
  | some id => return id
  | none =>
    let d ← ofPlan (r.grammar.draftFor owner property given)
    add overflow d

def fulfil (overflow : Overflow) (q : Request) : Step Unit := do
  let given ←
    match q.origin with
    | .known type => pure (some type)
    | .declared => pure none
    | .snapshot id sink => do
      let type ← ofPlan ((← get).grammar.sinkType id sink)
      pure (some type)
  discard (request overflow q.owner q.property given)

end Step

/-- What a request answers, and the registry that it leaves behind. -/
def perform (overflow : Overflow) (owner : Owner) (property : String)
    (given : Option StorageType) : Except Failure FieldId × Registry :=
  (Step.request overflow owner property given).run.run r

/-- Meets requests one after the other, up to the first that fails. -/
def performAll (overflow : Overflow) (qs : List Request) : Except Failure Unit × Registry :=
  (qs.forM (Step.fulfil overflow)).run.run r

def universal (overflow : Overflow) (g : Grammar) : Except Failure Registry :=
  let performed := (empty g).performAll overflow Layout.universalRequests
  performed.1.map fun _ => performed.2

def Slot.numbered (s : Slot) : GrammarLayout.Slot := ⟨s.buffer, s.offset.toNat⟩

def Field.numbered (f : Field) : GrammarLayout.Field := ⟨f.toDraft, f.slot.map Slot.numbered⟩

def Buffer.numbered (b : Buffer) : GrammarLayout.Buffer := ⟨b.element, b.length.toNat⟩

def Buffers.numbered (bs : Buffers) : GrammarLayout.Buffers := bs.values.map Buffer.numbered

/-- The layout that the registry has become. -/
def finish : Layout where
  grammar := r.grammar
  fields := r.fields.map Field.numbered
  index := ⟨r.index.map (List.map FieldId.position)⟩
  buffers := r.buffers.numbered

def plan (overflow : Overflow) (g : Grammar) (s : Schedule) : Except Failure Layout :=
  let performed := (empty g).performAll overflow (Layout.requests g s)
  performed.1.map fun _ => performed.2.finish

end Registry
end GrammarLayout
