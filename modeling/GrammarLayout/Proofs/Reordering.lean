import GrammarLayout.Proofs.Planning
import GrammarLayout.Proofs.Seen

/-!
# The order of declarations

Interfaces and classes may be listed in any order. Their handles then change, and with them the
order of the requests, but every owner sees the same requests in the same order as before. So the
same ones are kept for it, and only the places of the fields differ.
-/

namespace GrammarLayout

def Class.rename (σ : InterfaceId → InterfaceId) (c : Class) : Class :=
  { c with interface := σ c.interface, children := c.children.map σ }

/-- The second grammar lists the interfaces and classes of the first in another order. -/
structure Reordering (g g' : Grammar) where
  interface : Equiv.Perm InterfaceId
  ofClass : Equiv.Perm ClassId
  interface?_eq : ∀ id, g'.interface? (interface id) = g.interface? id
  class?_eq : ∀ id, g'.class? (ofClass id) = (g.class? id).map (Class.rename interface)

theorem exists_perm_getElem? {α : Type} {xs ys : List α} (h : xs.Perm ys) :
    ∃ σ : Equiv.Perm Nat, ∀ n, ys[σ n]? = xs[n]? := by
  induction h with
  | nil => exact ⟨1, fun n => rfl⟩
  | cons x _ ih =>
    -- Past the common head, positions are one higher.
    obtain ⟨σ, h⟩ := ih
    refine ⟨Equiv.natEquivNatSumPUnit.{0}.symm.permCongr (σ.sumCongr 1), fun n => ?_⟩
    cases n with
    | zero => rfl
    | succ n => exact h n
  | swap x y xs =>
    refine ⟨Equiv.swap 0 1, fun n => ?_⟩
    match n with
    | 0 => rfl
    | 1 => rfl
    | n + 2 =>
      rw [Equiv.swap_apply_of_ne_of_ne (by omega) (by omega)]
      rfl
  | trans _ _ ih ih' =>
    obtain ⟨σ, hσ⟩ := ih
    obtain ⟨τ, hτ⟩ := ih'
    exact ⟨σ.trans τ, fun n => (hτ (σ n)).trans (hσ n)⟩

def InterfaceId.equivNat : InterfaceId ≃ Nat :=
  ⟨InterfaceId.index, InterfaceId.mk, fun _ => rfl, fun _ => rfl⟩

def ClassId.equivNat : ClassId ≃ Nat :=
  ⟨ClassId.index, ClassId.mk, fun _ => rfl, fun _ => rfl⟩

namespace Reordering

open Layout

/-- The interfaces and classes of a grammar can be listed in any other order. -/
theorem exists_of_perm (g : Grammar) {is : List Interface} {cs : List Class}
    (hi : g.interfaces.Perm is) (hc : g.classes.Perm cs) :
    ∃ (σ : Equiv.Perm InterfaceId) (ρ : Reordering g ⟨is, cs.map (Class.rename σ)⟩),
      ρ.interface = σ := by
  obtain ⟨σ, hσ⟩ := exists_perm_getElem? hi
  obtain ⟨τ, hτ⟩ := exists_perm_getElem? hc
  refine ⟨InterfaceId.equivNat.symm.permCongr σ, ⟨InterfaceId.equivNat.symm.permCongr σ,
    ClassId.equivNat.symm.permCongr τ, fun id => hσ id.index, ?_⟩, rfl⟩
  intro id
  exact List.getElem?_map.trans (congrArg _ (hτ id.index))

variable {g g' : Grammar} (ρ : Reordering g g') {s s' : Schedule} {a b : Owner} {name : String}
  {r : Request} {type : StorageType}

def owner : Owner → Owner
  | .universal => .universal
  | .ofInterface id => .ofInterface (ρ.interface id)
  | .ofClass id => .ofClass (ρ.ofClass id)

def origin : TypeOrigin → TypeOrigin
  | .known type => .known type
  | .declared => .declared
  | .snapshot id sink => .snapshot (ρ.ofClass id) sink

def request (r : Request) : Request := ⟨ρ.owner r.owner, r.property, ρ.origin r.origin⟩

theorem owner_injective : Function.Injective ρ.owner := by
  intro a b h
  cases a <;> cases b <;> simp_all [owner]

theorem owner_surjective : Function.Surjective ρ.owner := by
  intro a
  cases a with
  | universal => exact ⟨.universal, rfl⟩
  | ofInterface id => exact ⟨.ofInterface (ρ.interface.symm id), by simp [owner]⟩
  | ofClass id => exact ⟨.ofClass (ρ.ofClass.symm id), by simp [owner]⟩

@[simp] theorem owner_eq_universal : ρ.owner a = .universal ↔ a = .universal := by
  cases a <;> simp [owner]

theorem knows_iff : g'.Knows (ρ.owner a) ↔ g.Knows a := by
  cases a with
  | universal => rfl
  | ofInterface id => simp only [owner, Grammar.Knows, ρ.interface?_eq]
  | ofClass id => simp only [owner, Grammar.Knows, ρ.class?_eq, Option.isSome_map]

theorem named_eq (h : g.Knows a) : g'.named (ρ.owner a) = g.named a := by
  cases a with
  | universal => rfl
  | ofInterface id =>
    obtain ⟨i, hi⟩ := Option.isSome_iff_exists.mp h
    simp only [owner, Grammar.named, Grammar.requireInterface, ρ.interface?_eq, hi]
  | ofClass id =>
    obtain ⟨c, hc⟩ := Option.isSome_iff_exists.mp h
    simp only [owner, Grammar.named, Grammar.requireClass, ρ.class?_eq, hc]
    rfl

theorem ownerName_eq_ok {n : Option String} :
    g'.ownerName (ρ.owner a) = .ok n ↔ g.ownerName a = .ok n := by
  cases a with
  | universal => rfl
  | ofInterface id =>
    simp only [owner, Grammar.ownerName, Grammar.requireInterface, ρ.interface?_eq]
    cases g.interface? id <;> simp [Except.map]
  | ofClass id =>
    simp only [owner, Grammar.ownerName, Grammar.requireClass, ρ.class?_eq]
    cases g.class? id <;> simp [Except.map, Class.rename]

theorem property_eq_ok {d : Option Property} :
    g'.property (ρ.owner a) name = .ok d ↔ g.property a name = .ok d := by
  cases a with
  | universal => rfl
  | ofInterface id =>
    simp only [owner, Grammar.property, Grammar.requireInterface, ρ.interface?_eq]
    cases g.interface? id <;> simp [Except.map]
  | ofClass id =>
    simp only [owner, Grammar.property, Grammar.requireClass, ρ.class?_eq]
    cases g.class? id <;> simp [Except.map, Class.rename, Class.property?]

theorem interfaceOf_eq_ok {id : InterfaceId} :
    g'.interfaceOf (ρ.owner a) = .ok (some (ρ.interface id)) ↔ g.interfaceOf a = .ok (some id) := by
  cases a with
  | universal => simp [owner, Grammar.interfaceOf]
  | ofInterface id => simp [owner, Grammar.interfaceOf]
  | ofClass id =>
    simp only [owner, Grammar.interfaceOf, Grammar.requireClass, ρ.class?_eq]
    cases g.class? id <;> simp [Except.map, Class.rename]

theorem answers_iff : g'.Answers (ρ.owner a) (ρ.owner b) ↔ g.Answers a b := by
  have hinterface : (∃ id, ρ.owner a = .ofInterface id ∧
        g'.interfaceOf (ρ.owner b) = .ok (some id)) ↔
      ∃ id, a = .ofInterface id ∧ g.interfaceOf b = .ok (some id) := by
    rw [ρ.interface.surjective.exists]
    refine exists_congr fun id => and_congr ?_ ρ.interfaceOf_eq_ok
    exact ρ.owner_injective.eq_iff (b := .ofInterface id)
  rw [Grammar.answers_iff, Grammar.answers_iff, hinterface, ρ.owner_injective.eq_iff,
    ρ.owner_eq_universal, ρ.owner_eq_universal]

theorem declares_iff : g'.Declares (ρ.owner a) name type ↔ g.Declares a name type := by
  simp only [Grammar.Declares, ρ.property_eq_ok]

theorem resolves_iff : g'.Resolves (ρ.owner a) name type ↔ g.Resolves a name type := by
  have hinterface : (∃ id, g'.interfaceOf (ρ.owner a) = .ok (some id) ∧
        g'.Declares (.ofInterface id) name type) ↔
      ∃ id, g.interfaceOf a = .ok (some id) ∧ g.Declares (.ofInterface id) name type := by
    rw [ρ.interface.surjective.exists]
    exact exists_congr fun id => and_congr ρ.interfaceOf_eq_ok
      (ρ.declares_iff (a := .ofInterface id))
  rw [Grammar.Resolves, Grammar.Resolves, ρ.declares_iff, ρ.property_eq_ok, hinterface]

theorem child?_rename (c : Class) (role : String) :
    (c.rename ρ.interface).child? role = (c.child? role).map ρ.interface :=
  OrderedMap.get?_map _ _ _

theorem sinkHasType_iff {id : ClassId} {sink : SinkRef} :
    g'.SinkHasType (ρ.ofClass id) sink type ↔ g.SinkHasType id sink type := by
  cases sink with
  | own property => exact ρ.resolves_iff (a := .ofClass id)
  | selfRef property => exact ρ.resolves_iff (a := .ofClass id)
  | child role property =>
    unfold Grammar.SinkHasType
    constructor
    · rintro ⟨c', i', hc, hi, hd⟩
      rw [ρ.class?_eq] at hc
      obtain ⟨c, hclass, rfl⟩ := Option.map_eq_some_iff.mp hc
      rw [ρ.child?_rename] at hi
      obtain ⟨i, hchild, rfl⟩ := Option.map_eq_some_iff.mp hi
      exact ⟨c, i, hclass, hchild, (ρ.declares_iff (a := .ofInterface i)).mp hd⟩
    · rintro ⟨c, i, hc, hi, hd⟩
      refine ⟨c.rename ρ.interface, ρ.interface i, ?_, ?_,
        (ρ.declares_iff (a := .ofInterface i)).mpr hd⟩
      · rw [ρ.class?_eq, hc, Option.map_some]
      · rw [ρ.child?_rename, hi, Option.map_some]

theorem hasType_iff : (ρ.request r).HasType g' type ↔ r.HasType g type := by
  obtain ⟨a, property, o⟩ := r
  cases o with
  | known given => rfl
  | declared => exact ρ.declares_iff
  | snapshot id sink => exact ρ.sinkHasType_iff

theorem covered_iff {rs : List Request} :
    g'.Covered (rs.map ρ.request) (ρ.request r) ↔ g.Covered rs r := by
  constructor
  · rintro ⟨_, hr, hk, ha⟩
    obtain ⟨r', hr', rfl⟩ := List.mem_map.mp hr
    exact ⟨r', hr', hk, ρ.answers_iff.mp ha⟩
  · rintro ⟨r', hr', hk, ha⟩
    exact ⟨ρ.request r', List.mem_map_of_mem hr', hk, ρ.answers_iff.mpr ha⟩

theorem kept_map (rs : List Request) :
    kept g' (rs.map ρ.request) = (kept g rs).map ρ.request := by
  induction rs using List.reverseRecOn with
  | nil => rfl
  | append_singleton rs r ih =>
    rw [List.map_append, List.map_singleton, kept_concat, kept_concat, List.map_append, ih]
    by_cases hc : g.Covered rs r
    · rw [if_pos hc, if_pos (ρ.covered_iff.mpr hc), List.map_nil]
    · rw [if_neg hc, if_neg (mt ρ.covered_iff.mp hc), List.map_singleton]

theorem ownedBy_map (rs : List Request) (a : Owner) :
    ownedBy (ρ.owner a) (rs.map ρ.request) = (ownedBy a rs).map ρ.request := by
  rw [ownedBy, ownedBy, List.filter_map]
  congr 2
  funext r
  exact decide_eq_decide.mpr (ρ.owner_injective.eq_iff (a := r.owner))

def SameSinks (s s' : Schedule) : Prop :=
  ∀ id c, g.class? id = some c → s'.sinks (ρ.ofClass id) = s.sinks id

/-- The entries of a schedule can be in any order. -/
theorem sameSinks_of_perm (h : s'.entries.entries.Perm
    (s.entries.entries.map fun e => (ρ.ofClass e.1, e.2))) : ρ.SameSinks s s' := by
  intro id c _
  have hget : s'.entries.get? (ρ.ofClass id) = s.entries.get? id := by
    ext sinks
    rw [OrderedMap.get?_eq_some_iff, OrderedMap.get?_eq_some_iff, h.mem_iff, List.mem_map]
    constructor
    · rintro ⟨e, he, heq⟩
      obtain ⟨hid, hsinks⟩ := Prod.mk.inj heq
      rwa [← ρ.ofClass.injective hid, ← hsinks]
    · intro he
      exact ⟨(id, sinks), he, rfl⟩
  rw [Schedule.sinks, Schedule.sinks, hget]

theorem interfaceRequests_rename (id : InterfaceId) (i : Interface) :
    interfaceRequests (ρ.interface id) i = (interfaceRequests id i).map ρ.request := by
  rw [interfaceRequests, interfaceRequests, List.map_map]
  rfl

theorem memberRequests_rename (id : ClassId) (c : Class) :
    memberRequests (ρ.ofClass id) (c.rename ρ.interface) = (memberRequests id c).map ρ.request := by
  rw [memberRequests, memberRequests, List.map_map]
  rfl

theorem linkRequests_rename (id : ClassId) (c : Class) :
    linkRequests (ρ.ofClass id) (c.rename ρ.interface) = (linkRequests id c).map ρ.request := by
  rw [linkRequests, linkRequests, List.map_flatMap, Class.rename, OrderedMap.keys_map]
  rfl

theorem sinkRequests_rename {id : ClassId} (h : s'.sinks (ρ.ofClass id) = s.sinks id) :
    sinkRequests s' (ρ.ofClass id) = (sinkRequests s id).map ρ.request := by
  rw [sinkRequests, sinkRequests, List.map_flatMap, h]
  rfl

theorem declaredBy_rename (id : InterfaceId) :
    (g'.interface? (ρ.interface id)).elim [] (interfaceRequests (ρ.interface id)) =
      ((g.interface? id).elim [] (interfaceRequests id)).map ρ.request := by
  rw [ρ.interface?_eq]
  cases g.interface? id with
  | none => rfl
  | some i => exact ρ.interfaceRequests_rename id i

/-- An owner sees the same requests, under the new handles. -/
theorem visible_owner (h : ρ.SameSinks s s') (a : Owner) :
    visible g' s' (ρ.owner a) = (visible g s a).map ρ.request := by
  have huniversal : universalRequests = universalRequests.map ρ.request := rfl
  cases a with
  | universal => exact huniversal
  | ofInterface id =>
    simp only [owner, visible, List.map_append]
    rw [← huniversal, ρ.declaredBy_rename]
  | ofClass id =>
    simp only [owner, visible, List.map_append]
    rw [← huniversal, ρ.class?_eq]
    cases hc : g.class? id with
    | none => rfl
    | some c =>
      simp only [Option.map_some, Option.elim_some, List.map_append]
      rw [ρ.memberRequests_rename, ρ.linkRequests_rename, ρ.sinkRequests_rename (h id c hc),
        ← ρ.declaredBy_rename]
      rfl

theorem kept_requests (h : ρ.SameSinks s s') :
    (kept g' (requests g' s')).Perm ((kept g (requests g s)).map ρ.request) := by
  apply perm_of_ownedBy
  intro o
  obtain ⟨a, rfl⟩ := ρ.owner_surjective o
  rw [ownedBy_map, ownedBy_kept_requests, ownedBy_kept_requests, ρ.visible_owner h, ρ.kept_map,
    ownedBy_map]

theorem origin_eq_declared {o : TypeOrigin} : ρ.origin o = .declared ↔ o = .declared := by
  cases o <;> simp [origin]

theorem forall_kept_iff (h : ρ.SameSinks s s') {P : Request → Prop} :
    (∀ r ∈ kept g' (requests g' s'), P r) ↔ ∀ r ∈ kept g (requests g s), P (ρ.request r) := by
  simp only [(ρ.kept_requests h).mem_iff, List.forall_mem_map]

theorem sinks_typed_iff (h : ρ.SameSinks s s') :
    (∀ id c, g'.class? id = some c → ∀ sink ∈ s'.sinks id, ∃ type, g'.SinkHasType id sink type) ↔
      ∀ id c, g.class? id = some c → ∀ sink ∈ s.sinks id, ∃ type, g.SinkHasType id sink type := by
  constructor
  · intro hs id c hc sink hsink
    have hc' : g'.class? (ρ.ofClass id) = some (c.rename ρ.interface) := by
      rw [ρ.class?_eq, hc, Option.map_some]
    rw [← h id c hc] at hsink
    obtain ⟨type, ht⟩ := hs _ _ hc' sink hsink
    exact ⟨type, ρ.sinkHasType_iff.mp ht⟩
  · intro hs id' c' hc' sink hsink
    obtain ⟨id, rfl⟩ := ρ.ofClass.surjective id'
    rw [ρ.class?_eq] at hc'
    obtain ⟨c, hc, _⟩ := Option.map_eq_some_iff.mp hc'
    rw [h id c hc] at hsink
    obtain ⟨type, ht⟩ := hs id c hc sink hsink
    exact ⟨type, ρ.sinkHasType_iff.mpr ht⟩

/-- What can be planned does not depend on the order of the declarations. -/
theorem plannable_iff (h : ρ.SameSinks s s') : Plannable g' s' ↔ Plannable g s := by
  have hstored : (∀ r ∈ kept g' (requests g' s'), r.origin = .declared →
        ∃ type, g'.Declares r.owner r.property type) ↔
      ∀ r ∈ kept g (requests g s), r.origin = .declared →
        ∃ type, g.Declares r.owner r.property type := by
    rw [ρ.forall_kept_iff h]
    simp only [request, ρ.origin_eq_declared, ρ.declares_iff]
  have hpresent : (∀ r ∈ kept g' (requests g' s'), ∀ d,
        g'.property r.owner r.property = .ok (some d) → d.maybe = false) ↔
      ∀ r ∈ kept g (requests g s), ∀ d,
        g.property r.owner r.property = .ok (some d) → d.maybe = false := by
    rw [ρ.forall_kept_iff h]
    simp only [request, ρ.property_eq_ok]
  have hsinks := ρ.sinks_typed_iff h
  constructor
  · rintro ⟨ht, hp, hs⟩
    exact ⟨hstored.mp ht, hpresent.mp hp, hsinks.mp hs⟩
  · rintro ⟨ht, hp, hs⟩
    exact ⟨hstored.mpr ht, hpresent.mpr hp, hsinks.mpr hs⟩

end Reordering
end GrammarLayout
