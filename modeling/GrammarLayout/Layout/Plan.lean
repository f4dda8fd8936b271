import GrammarLayout.Layout.Basic
import GrammarLayout.Sink

/-!
# Planning

Everything that a grammar and a schedule need is asked for, one request after the other, and the
first request that cannot be met ends the planning. The order of the requests fixes the order of
the fields and with it all offsets.
-/

namespace GrammarLayout

inductive TypeOrigin
  /-- The type is known. -/
  | known (type : StorageType)
  /-- The property is declared. -/
  | declared
  /-- The field keeps a value of a sink of the class, and has the type of the sink. -/
  | snapshot (id : ClassId) (sink : SinkRef)
  deriving DecidableEq

structure Request where
  owner : Owner
  property : String
  origin : TypeOrigin
  deriving DecidableEq

/-- The type of a sink. A child's property is declared by the interface that the child must
have. -/
def Grammar.sinkType (g : Grammar) (id : ClassId) (sink : SinkRef) : Except PlanError StorageType :=
  match sink with
  | .own property => g.storageType (.ofClass id) property
  | .selfRef property => g.storageType (.ofClass id) property
  | .child role property => do
    let c ← PlanError.ofForeign (g.requireClass id)
    match c.child? role with
    | some interface => g.storageType (.ofInterface interface) property
    | none => throw (.unknownChildRole c.name role)

namespace Layout

def fulfil (l : Layout) (r : Request) : Except PlanError Layout := do
  let given ←
    match r.origin with
    | .known type => pure (some type)
    | .declared => pure none
    | .snapshot id sink => (l.grammar.sinkType id sink).map some
  let answer ← l.request r.owner r.property given
  return answer.2

/-- The fields that every node has. -/
def universalRequests : List Request := [
  ⟨.universal, "display", .known .grammarTokens⟩,
  ⟨.universal, "refname", .known .grammarTokens⟩,
  ⟨.universal, "right_siblings", .known .nodeIndex⟩,
  ⟨.universal, "left_siblings", .known .nodeIndex⟩,
  ⟨.universal, "parent", .known .nodeIndex⟩,
  ⟨.universal, "id", .known .nodeIndex⟩]

def interfaceRequests (id : InterfaceId) (i : Interface) : List Request :=
  (i.inputs.keys ++ i.attributes.keys ++ i.fields.keys).map fun p =>
    ⟨.ofInterface id, p, .declared⟩

def memberRequests (id : ClassId) (c : Class) : List Request :=
  (c.fields.keys ++ c.attributes.keys).map fun p => ⟨.ofClass id, p, .declared⟩

/-- The links from a node to its children in each role. -/
def linkRequests (id : ClassId) (c : Class) : List Request :=
  c.children.keys.flatMap fun role => [
    ⟨.ofClass id, "child_" ++ role ++ "_leftmost_child", .known .nodeIndex⟩,
    ⟨.ofClass id, "child_" ++ role ++ "_count", .known .nodeIndex⟩]

/-- The first and the last value of each sink. -/
def sinkRequests (s : Schedule) (id : ClassId) : List Request :=
  (s.sinks id).flatMap fun sink => [
    ⟨.ofClass id, sink.stem ++ "_init", .snapshot id sink⟩,
    ⟨.ofClass id, sink.stem ++ "_last", .snapshot id sink⟩]

/-- All requests of a grammar and a schedule, in order. -/
def requests (g : Grammar) (s : Schedule) : List Request :=
  universalRequests ++
    (g.interfaceEntries.flatMap fun e => interfaceRequests e.1 e.2) ++
    (g.classEntries.flatMap fun e => memberRequests e.1 e.2) ++
    (g.classEntries.flatMap fun e => linkRequests e.1 e.2) ++
    (g.classEntries.flatMap fun e => sinkRequests s e.1)

def universal (g : Grammar) : Except PlanError Layout :=
  universalRequests.foldlM fulfil (empty g)

def plan (g : Grammar) (s : Schedule) : Except PlanError Layout :=
  (requests g s).foldlM fulfil (empty g)

end Layout
end GrammarLayout
