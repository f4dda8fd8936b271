import GrammarLayout.Layout.Json
import GrammarLayout.Listing
import GrammarLayout.Proofs.Built
import GrammarLayout.Proofs.RequestList
import GrammarLayout.Proofs.Scan

/-!
# Foreign handles

A handle of another grammar gets into no layout: whoever owns a field has a name in the grammar.
Since the handles in the classes of a grammar belong to it as well, what starts from a handle of the
grammar never meets a foreign one.
-/

namespace GrammarLayout

namespace Grammar

def declare (g : Grammar) : Declaration → Grammar
  | .interface i =>
    match g.addInterface i with
    | .ok answer => answer.2
    | .error _ => g
  | .ofClass c =>
    match g.addClass c with
    | .ok answer => answer.2
    | .error _ => g

def declared (ds : List Declaration) : Grammar := ds.foldl declare .empty

variable {g : Grammar} {owner : Owner} {property : String}

theorem Built.declare (h : g.Built) (d : Declaration) : (g.declare d).Built := by
  cases d with
  | interface i =>
    rw [Grammar.declare]
    split
    · next answer hi =>
      obtain ⟨id, g'⟩ := answer
      exact h.addInterface hi
    · exact h
  | ofClass c =>
    rw [Grammar.declare]
    split
    · next answer hc =>
      obtain ⟨id, g'⟩ := answer
      exact h.addClass hc
    · exact h

theorem built_declared (ds : List Declaration) : (declared ds).Built := by
  induction ds using List.reverseRecOn with
  | nil => exact .empty
  | append_singleton ds d ih =>
    rw [declared, List.foldl_append]
    exact ih.declare d

theorem WellFormed.knows_of_mem (h : g.WellFormed) {id : ClassId} {c : Class}
    (hc : g.class? id = some c) {i : InterfaceId} (hi : i ∈ c.interface :: c.children.values) :
    g.Knows (.ofInterface i) := by
  have hlt := h.handles c (List.mem_of_getElem? hc) i hi
  exact Option.isSome_iff_exists.mpr ⟨_, List.getElem?_eq_getElem hlt⟩

theorem WellFormed.knows_interfaceOf (h : g.WellFormed) {i : InterfaceId}
    (hi : g.interfaceOf owner = .ok (some i)) : g.Knows (.ofInterface i) := by
  obtain ⟨id, c, _, hc, rfl⟩ := interfaceOf_eq_ok_some.mp hi
  exact h.knows_of_mem hc List.mem_cons_self

theorem WellFormed.knows_child (h : g.WellFormed) {id : ClassId} {c : Class}
    (hc : g.class? id = some c) {role : String} {i : InterfaceId} (hi : c.child? role = some i) :
    g.Knows (.ofInterface i) := by
  rw [Class.child?, OrderedMap.get?_eq_find?] at hi
  obtain ⟨e, he, rfl⟩ := Option.map_eq_some_iff.mp hi
  exact h.knows_of_mem hc
    (List.mem_cons_of_mem _ (List.mem_map_of_mem (List.mem_of_find?_eq_some he)))

theorem knows_of_ownerName {name : Option String} (h : g.ownerName owner = .ok name) :
    g.Knows owner := by
  cases owner with
  | universal => trivial
  | ofInterface id =>
    cases hi : g.interface? id with
    | none => simp [ownerName, requireInterface, hi, Except.map] at h
    | some i => exact knows_ofInterface hi
  | ofClass id =>
    cases hc : g.class? id with
    | none => simp [ownerName, requireClass, hc, Except.map] at h
    | some c => exact knows_ofClass hc

theorem named_of_knows (h : g.Knows owner) : ∃ name, g.named owner = .ok name := by
  cases owner with
  | universal => exact ⟨.universal, rfl⟩
  | ofInterface id =>
    obtain ⟨i, hi⟩ := Option.isSome_iff_exists.mp h
    exact ⟨.ofInterface i.name, by simp [named, (g.requireInterface_eq_ok).mpr hi, Except.map]⟩
  | ofClass id =>
    obtain ⟨c, hc⟩ := Option.isSome_iff_exists.mp h
    exact ⟨.ofClass c.name, by simp [named, (g.requireClass_eq_ok).mpr hc, Except.map]⟩

theorem WellFormed.declared?_of_knows (h : g.WellFormed) (ho : g.Knows owner)
    (property : String) : ∃ d, g.declared? owner property = .ok d := by
  obtain ⟨own, hown⟩ := property_of_knows ho property
  obtain ⟨id?, hid⟩ := interfaceOf_of_knows ho
  rw [declared?, hown]
  cases own with
  | some d => exact ⟨some d, rfl⟩
  | none =>
    cases id? with
    | none => exact ⟨none, by simp [hid, bind, Except.bind, pure, Except.pure]⟩
    | some id =>
      obtain ⟨d, hd⟩ := property_of_knows (h.knows_interfaceOf hid) property
      exact ⟨d, by simp [hid, hd, bind, Except.bind]⟩

theorem WellFormed.interfaceName?_of_knows (h : g.WellFormed) (ho : g.Knows owner) :
    ∃ name, g.interfaceName? owner = .ok name := by
  obtain ⟨id?, hid⟩ := interfaceOf_of_knows ho
  rw [interfaceName?, hid]
  cases id? with
  | none => exact ⟨none, rfl⟩
  | some id => exact ownerName_of_knows (h.knows_interfaceOf hid)

end Grammar

/-- Whatever the outcome is, no foreign handle has stopped the step. -/
def NoForeign {α : Type} (x : Except PlanError α) : Prop :=
  ∀ handle, x ≠ .error (.foreign handle)

namespace NoForeign

variable {α β : Type}

theorem ok (a : α) : NoForeign (.ok a : Except PlanError α) := nofun

theorem throw {e : PlanError} (h : ∀ handle, e ≠ .foreign handle) :
    NoForeign (.error e : Except PlanError α) :=
  fun handle he => h handle (Except.error.inj he)

theorem bind {x : Except PlanError α} {k : α → Except PlanError β} (hx : NoForeign x)
    (hk : ∀ a, x = .ok a → NoForeign (k a)) : NoForeign (x >>= k) := by
  cases x with
  | ok a => exact hk a rfl
  | error e => exact fun handle he => hx handle (congrArg Except.error (Except.error.inj he))

theorem ofForeign_bind {x : Except ForeignHandle α} {k : α → Except PlanError β}
    (hx : ∃ a, x = .ok a) (hk : ∀ a, x = .ok a → NoForeign (k a)) :
    NoForeign (PlanError.ofForeign x >>= k) := by
  obtain ⟨a, rfl⟩ := hx
  exact hk a rfl

theorem map {x : Except PlanError α} (hx : NoForeign x) (f : α → β) : NoForeign (x.map f) := by
  cases x with
  | ok a => exact ok (f a)
  | error e => exact fun handle he => hx handle (congrArg Except.error (Except.error.inj he))

end NoForeign

/-- The request is for an owner of the grammar, and so is the sink whose type it takes. -/
structure Request.Known (g : Grammar) (r : Request) : Prop where
  owner : g.Knows r.owner
  snapshot : ∀ id sink, r.origin = .snapshot id sink → ∃ c, g.class? id = some c

section Steps

variable {g : Grammar} {owner : Owner}

theorem noForeign_storageType (hg : g.WellFormed) (ho : g.Knows owner) (property : String) :
    NoForeign (g.storageType owner property) := by
  unfold Grammar.storageType
  apply NoForeign.ofForeign_bind (hg.declared?_of_knows ho property)
  intro declared _
  have hnamed := Grammar.named_of_knows ho
  cases declared with
  | none =>
    apply NoForeign.ofForeign_bind hnamed
    intro named _
    apply NoForeign.ofForeign_bind (hg.interfaceName?_of_knows ho)
    intro interface _
    exact .throw nofun
  | some d =>
    simp only
    split
    · exact .ok _
    · apply NoForeign.ofForeign_bind hnamed
      intro named _
      exact .throw nofun

theorem noForeign_sinkType (hg : g.WellFormed) {id : ClassId} {c : Class}
    (hc : g.class? id = some c) (sink : SinkRef) : NoForeign (g.sinkType id sink) := by
  have hclass := Grammar.knows_ofClass hc
  unfold Grammar.sinkType
  cases sink with
  | own property => exact noForeign_storageType hg hclass property
  | selfRef property => exact noForeign_storageType hg hclass property
  | child role property =>
    apply NoForeign.ofForeign_bind ⟨c, g.requireClass_eq_ok.mpr hc⟩
    intro c' hc'
    have hclass' := g.requireClass_eq_ok.mp hc'
    cases hi : c'.child? role with
    | none => exact .throw nofun
    | some i => exact noForeign_storageType hg (hg.knows_child hclass' hi) property

namespace Layout

variable {l l' : Layout} {r : Request} {s : Schedule}

theorem known_of_mem_requests (h : r ∈ requests g s) : Request.Known g r where
  owner := knows_of_mem_requests h
  snapshot _ _ ho := (exists_snapshot_request.mp ⟨r, h, ho⟩).1

theorem noForeign_given? (hg : g.WellFormed) (hr : Request.Known g r) :
    NoForeign (given? g r) := by
  unfold given?
  split
  · exact .ok _
  · exact .ok _
  · next id sink ho =>
    obtain ⟨c, hc⟩ := hr.snapshot id sink ho
    exact (noForeign_sinkType hg hc sink).map some

theorem mem_fields_after {owner : Owner} {property : String} {given : Option StorageType}
    {f : Field} (hf : f ∈ (l.after owner property given).fields) :
    f ∈ l.fields ∨ f.owner = owner ∧ ∃ name, l.grammar.ownerName owner = .ok name := by
  unfold after at hf
  split at hf
  · next answer hr =>
    rcases request_cases hr with ⟨_, hl⟩ | ⟨_, _, type, name, _, hname, _, hl⟩
    · rw [hl] at hf
      exact .inl hf
    · rw [hl, fields_add] at hf
      rcases List.mem_append.mp hf with hf | hf
      · exact .inl hf
      · rw [List.mem_singleton.mp hf, Buffers.draft_place]
        exact .inr ⟨rfl, name, hname⟩
  · exact .inl hf

theorem Reachable.knows_owner (h : Reachable g l) : ∀ f ∈ l.fields, l.grammar.Knows f.owner := by
  refine h.invariant (P := fun l => ∀ f ∈ l.fields, l.grammar.Knows f.owner)
    (by simp [Layout.empty]) ?_
  intro l owner property given hl f hf
  rw [grammar_after]
  rcases mem_fields_after hf with hf | ⟨rfl, name, hname⟩
  · exact hl f hf
  · exact Grammar.knows_of_ownerName hname

theorem ownerName_eq {f : Field} (h : l.grammar.Knows f.owner) :
    l.grammar.ownerName f.owner = .ok (l.ownerNameOf f) := by
  obtain ⟨name, hname⟩ := Grammar.ownerName_of_knows h
  rw [ownerNameOf, hname]
  rfl

theorem Reachable.ownerName_eq (h : Reachable g l) {f : Field} (hf : f ∈ l.fields) :
    l.grammar.ownerName f.owner = .ok (l.ownerNameOf f) :=
  Layout.ownerName_eq (h.knows_owner f hf)

theorem toJson?_eq (h : ∀ f ∈ l.fields, l.grammar.Knows f.owner) : l.toJson? = .ok l.toJson := by
  have hfields : l.fields.mapM l.fieldToJson? = .ok (l.fields.map l.fieldToJson) := by
    apply mapM_eq_ok
    intro f hf
    rw [fieldToJson?, ownerName_eq (h f hf)]
  rw [toJson?, hfields]
  rfl

end Layout
end Steps
end GrammarLayout
