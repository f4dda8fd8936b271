import GrammarLayout.Proofs.Built
import GrammarLayout.Proofs.Planning

/-!
# Declarations and their fields

Declarations of one key that are visible together share a field. What the field is like is decided
by the first of them alone: by a universal datum, then by the interface, then by the class itself.
The others are answered by that field, whatever type they have.
-/

namespace GrammarLayout

/-- With one entry under a handle, only that entry can give a result. -/
theorem findSome?_entries {ι α β : Type} {xs : List (ι × α)} {id : ι} {a? : Option α}
    {f : ι × α → Option β} (hmem : ∀ a, (id, a) ∈ xs ↔ a? = some a)
    (hf : ∀ x ∈ xs, x.1 ≠ id → f x = none) :
    xs.findSome? f = a?.bind fun a => f (id, a) := by
  have hnone : ∀ x ∈ xs, (∀ a, a? = some a → f (id, a) = none) → f x = none := by
    intro x hx ha
    by_cases hid : x.1 = id
    · obtain ⟨j, a⟩ := x
      obtain rfl := hid
      exact ha a ((hmem a).mp hx)
    · exact hf x hx hid
  cases hb : a?.bind fun a => f (id, a) with
  | none =>
    rw [Option.bind_eq_none_iff] at hb
    exact List.findSome?_eq_none_iff.mpr fun x hx => hnone x hx hb
  | some b =>
    obtain ⟨a, ha, hb⟩ := Option.bind_eq_some_iff.mp hb
    have hsome : (xs.findSome? f).isSome := by
      rw [List.findSome?_isSome_iff]
      exact ⟨(id, a), (hmem a).mpr ha, by simp [hb]⟩
    obtain ⟨b', hb'⟩ := Option.isSome_iff_exists.mp hsome
    obtain ⟨⟨j, a'⟩, hx, hfx⟩ := List.exists_of_findSome?_eq_some hb'
    have hid : j = id := by
      by_contra hne
      rw [hf _ hx hne] at hfx
      cases hfx
    obtain rfl := hid
    have haa : a' = a := Option.some.inj (((hmem a').mp hx).symm.trans ha)
    rw [hb', ← hfx, haa, hb]

theorem find?_eq_some_of_imp {α : Type} {p q : α → Bool} {xs : List α} {a : α}
    (h : xs.find? p = some a) (hq : q a) (himp : ∀ x, q x → p x) : xs.find? q = some a := by
  obtain ⟨_, before, rest, rfl, hbefore⟩ := List.find?_eq_some_iff_append.mp h
  refine List.find?_eq_some_iff_append.mpr ⟨hq, before, rest, rfl, fun x hx => ?_⟩
  have hp := hbefore x hx
  cases hqx : q x with
  | false => rfl
  | true => simp [himp x hqx] at hp

namespace Grammar

variable {g : Grammar} {owner : Owner} {key : String}

/-- The owners whose declarations an owner sees: its interface's and its own. -/
def sources (g : Grammar) : Owner → List Owner
  | .universal => []
  | .ofInterface id => [.ofInterface id]
  | .ofClass id => (g.class? id).elim [] fun c => [.ofInterface c.interface, .ofClass id]

/-- The first declaration of an owner under a key. -/
def firstDeclared? (g : Grammar) (key : String) (owner : Owner) :
    Option (Owner × String × Property) :=
  ((g.declarations owner).find? fun e => Naming.propertyKey e.1 = key).map (Prod.mk owner)

/-- The first declaration under a key that an owner sees, and who declares it. -/
def governing? (g : Grammar) (owner : Owner) (key : String) : Option (Owner × String × Property) :=
  (g.sources owner).findSome? (g.firstDeclared? key)

theorem governing?_ofInterface (g : Grammar) (id : InterfaceId) (key : String) :
    g.governing? (.ofInterface id) key = g.firstDeclared? key (.ofInterface id) := by
  simp [governing?, sources]

/-- What the interface declares goes before what the class itself declares. -/
theorem governing?_ofClass {id : ClassId} {c : Class} (hc : g.class? id = some c) (key : String) :
    g.governing? (.ofClass id) key =
      (g.firstDeclared? key (.ofInterface c.interface)).or
        (g.firstDeclared? key (.ofClass id)) := by
  simp only [governing?, sources, hc, Option.elim_some, List.findSome?_cons, List.findSome?_nil]
  cases g.firstDeclared? key (.ofInterface c.interface) with
  | some v => rfl
  | none => cases g.firstDeclared? key (.ofClass id) <;> rfl

theorem property_of_governing {v : Owner × String × Property}
    (h : g.governing? owner key = some v) :
    g.property v.1 v.2.1 = .ok (some v.2.2) ∧ Naming.propertyKey v.2.1 = key := by
  obtain ⟨source, _, h⟩ := List.exists_of_findSome?_eq_some h
  obtain ⟨e, he, rfl⟩ := Option.map_eq_some_iff.mp h
  have hk : Naming.propertyKey e.1 = key := by simpa using List.find?_some he
  have hname : (g.declarations source).find? (fun e' => e'.1 = e.1) = some e := by
    refine find?_eq_some_of_imp he (by simp) fun x hx => ?_
    rw [decide_eq_true_iff] at hx ⊢
    rw [hx, hk]
  have hsource := knows_of_mem_declarations (List.mem_of_find?_eq_some he)
  refine ⟨?_, hk⟩
  rw [property_eq_find? hsource, hname]
  rfl

theorem exists_governing {e : String × Property} (he : e ∈ g.declarations owner) :
    ∃ v, g.governing? owner (Naming.propertyKey e.1) = some v := by
  have hsource : owner ∈ g.sources owner := by
    have hk := knows_of_mem_declarations he
    cases owner with
    | universal => cases he
    | ofInterface id => simp [sources]
    | ofClass id =>
      obtain ⟨c, hc⟩ := Option.isSome_iff_exists.mp hk
      simp [sources, hc]
  apply Option.isSome_iff_exists.mp
  rw [governing?, List.findSome?_isSome_iff]
  refine ⟨owner, hsource, ?_⟩
  rw [firstDeclared?, Option.isSome_map, List.find?_isSome]
  exact ⟨e, he, by simp⟩

end Grammar

namespace Layout

variable {g : Grammar} {s : Schedule} {l : Layout} {owner : Owner} {key : String}

def ofDeclaration (v : Owner × String × Property) : Request := ⟨v.1, v.2.1, .declared⟩

theorem find?_declared {source : Owner} (h : g.Answers source owner)
    (es : List (String × Property)) :
    (es.map fun e => (⟨source, e.1, .declared⟩ : Request)).find?
        (fun r => g.Covers r owner key) =
      ((es.find? fun e => Naming.propertyKey e.1 = key).map (Prod.mk source)).map
        ofDeclaration := by
  rw [List.find?_map, Option.map_map]
  congr 2
  funext e
  simp [Grammar.Covers, Request.key, h]

theorem find?_declared_eq_none {source : Owner} (h : ¬ g.Answers source owner)
    (rs : List Request) (hrs : ∀ r ∈ rs, r.owner = source) :
    rs.find? (fun r => g.Covers r owner key) = none := by
  rw [List.find?_eq_none]
  intro r hr
  simp [Grammar.Covers, hrs r hr, h]

theorem find?_interfaceRequests (id : InterfaceId)
    (h : ∀ j, g.Answers (.ofInterface j) owner ↔ j = id) :
    (g.interfaceEntries.flatMap fun e => interfaceRequests e.1 e.2).find?
        (fun r => g.Covers r owner key) =
      (g.firstDeclared? key (.ofInterface id)).map ofDeclaration := by
  rw [List.find?_flatMap, findSome?_entries fun _ => g.mem_interfaceEntries]
  · cases hi : g.interface? id with
    | none => simp [Grammar.firstDeclared?, Grammar.declarations, hi]
    | some i =>
      simp only [Option.bind_some, interfaceRequests_eq, find?_declared ((h id).mpr rfl),
        Grammar.firstDeclared?, Grammar.declarations, hi, Option.elim_some]
  · intro e _ hne
    exact find?_declared_eq_none (fun ha => hne ((h e.1).mp ha)) _
      fun r hr => (of_mem_interfaceRequests hr).1

theorem find?_memberRequests {id : ClassId} :
    (g.classEntries.flatMap fun e => memberRequests e.1 e.2).find?
        (fun r => g.Covers r (.ofClass id) key) =
      (g.firstDeclared? key (.ofClass id)).map ofDeclaration := by
  rw [List.find?_flatMap, findSome?_entries fun _ => g.mem_classEntries]
  · cases hc : g.class? id with
    | none => simp [Grammar.firstDeclared?, Grammar.declarations, hc]
    | some c =>
      simp only [Option.bind_some, memberRequests_eq, find?_declared (g.answers_self _),
        Grammar.firstDeclared?, Grammar.declarations, hc, Option.elim_some]
  · intro e _ hne
    refine find?_declared_eq_none (fun ha => hne ?_) _ fun r hr => (of_mem_memberRequests hr).1
    simpa [Grammar.answers_iff] using ha

theorem find?_universalRequests (g : Grammar) (owner : Owner) (key : String) :
    universalRequests.find? (fun r => g.Covers r owner key) =
      universalRequests.find? fun r => r.key = key := by
  apply List.find?_congr
  intro r hr
  simp [Grammar.Covers, (of_mem_universalRequests hr).1, g.universal_answers]

/-- Among the requests for declared data the first that answers is for what governs. -/
theorem find?_declaredRequests {v : Owner × String × Property}
    (h : g.governing? owner key = some v) :
    ((g.interfaceEntries.flatMap fun e => interfaceRequests e.1 e.2).find?
        (fun r => g.Covers r owner key)).or
      ((g.classEntries.flatMap fun e => memberRequests e.1 e.2).find?
        (fun r => g.Covers r owner key)) = some (ofDeclaration v) := by
  cases owner with
  | universal => cases h
  | ofInterface id =>
    rw [Grammar.governing?_ofInterface] at h
    rw [find?_interfaceRequests id (by simp [Grammar.answers_ofInterface]), h]
    rfl
  | ofClass id =>
    cases hc : g.class? id with
    | none => simp [Grammar.governing?, Grammar.sources, hc] at h
    | some c =>
      rw [Grammar.governing?_ofClass hc] at h
      rw [find?_interfaceRequests c.interface (by simp [Grammar.answers_ofClass hc]),
        find?_memberRequests, ← Option.map_or, h]
      rfl

/-- The first request that answers for a declaration is for a universal datum or for the
declaration that governs. -/
theorem find?_requests {v : Owner × String × Property} (h : g.governing? owner key = some v) :
    (requests g s).find? (fun r => g.Covers r owner key) =
      ((universalRequests.find? fun r => r.key = key) <|> some (ofDeclaration v)) := by
  simp only [requests, List.find?_append, find?_universalRequests]
  cases universalRequests.find? fun r => r.key = key with
  | some r => rfl
  | none =>
    simp only [Option.none_or, find?_declaredRequests h]
    rfl

/-- The declaration is not optional, and the field has the type that it stands for. -/
structure StoredAs (d : Property) (f : Field) : Prop where
  present : d.maybe = false
  type : StorageType.ofName d.type = .ok f.type

def UniversalUnder (key : String) (f : Field) : Prop :=
  ∃ r ∈ universalRequests, r.key = key ∧
    f.owner = .universal ∧ f.property = r.property ∧ r.origin = .known f.type

theorem storedAs_of_meets (h : plan g s = .ok l) {v : Owner × String × Property} {f : Field}
    (hd : g.property v.1 v.2.1 = .ok (some v.2.2))
    (hkept : ofDeclaration v ∈ kept g (requests g s)) (hm : Meets g (ofDeclaration v) f) :
    StoredAs v.2.2 f := by
  have hfeasible := (exists_foldlM_iff (wellPosed_requests g s)).mp ⟨l, h⟩
  obtain ⟨declared, hd', hp⟩ := hfeasible.present _ hkept
  obtain ⟨d, hd'', ht⟩ := hm.type
  constructor
  · exact hp v.2.2 (Except.ok.inj (hd'.symm.trans hd))
  · rw [Option.some.inj (Except.ok.inj (hd.symm.trans hd''))]
    exact ht

/-- Every declaration has a field, which is as the governing declaration says unless the key is that
of a universal datum. -/
theorem declaration_governed (h : plan g s = .ok l) {e : String × Property}
    (he : e ∈ g.declarations owner) :
    ∃ f, l.field? owner e.1 = .ok (some f) ∧
      (UniversalUnder (Naming.propertyKey e.1) f ∨
        (∀ r ∈ universalRequests, r.key ≠ Naming.propertyKey e.1) ∧
          ∃ v, g.governing? owner (Naming.propertyKey e.1) = some v ∧
            f.owner = v.1 ∧ f.property = v.2.1 ∧ StoredAs v.2.2 f) := by
  have hw := wellPosed_requests g s
  have hk := Grammar.knows_of_mem_declarations he
  obtain ⟨v, hv⟩ := Grammar.exists_governing he
  obtain ⟨f?, hf, hrel⟩ := (follows_of_plan h).field? hw hk e.1
  have hfirst := find?_requests (s := s) hv
  rw [hfirst] at hrel
  cases hu : universalRequests.find? fun r => r.key = Naming.propertyKey e.1 with
  | some r =>
    rw [hu] at hrel
    have hr := List.mem_of_find?_eq_some hu
    have hkey : r.key = Naming.propertyKey e.1 := by simpa using List.find?_some hu
    cases hrel with
    | @some _ f hm =>
      refine ⟨f, hf, .inl ⟨r, hr, hkey, ?_, hm.property, origin_of_universal hr hm.type⟩⟩
      rw [hm.owner, (of_mem_universalRequests hr).1]
  | none =>
    rw [hu] at hrel hfirst
    rw [← find?_kept hw.universalFirst] at hfirst
    have hkept : ofDeclaration v ∈ kept g (requests g s) := List.mem_of_find?_eq_some hfirst
    obtain ⟨hd, _⟩ := Grammar.property_of_governing hv
    cases hrel with
    | @some _ f hm =>
      have hnone : ∀ r ∈ universalRequests, r.key ≠ Naming.propertyKey e.1 := by
        simpa using List.find?_eq_none.mp hu
      exact ⟨f, hf, .inr ⟨hnone, v, hv, hm.owner, hm.property, storedAs_of_meets h hd hkept hm⟩⟩

def redeclaring : Grammar where
  interfaces := [{ name := "Node", attributes := ⟨[("total", ⟨"int", false⟩)], by simp⟩ }]
  classes := [⟨"Leaf", ⟨0⟩, .empty, ⟨[("total", ⟨"int", true⟩)], by simp⟩, .empty⟩]

theorem built_redeclaring : redeclaring.Built :=
  Grammar.WellFormed.built (by decide)

theorem redeclared_answered_by_interface :
    ∃ l, plan redeclaring .empty = .ok l ∧
      ∃ f, l.field? (.ofClass ⟨0⟩) "total" = .ok (some f) ∧
        f.owner = .ofInterface ⟨0⟩ ∧ f.type = .int := by
  obtain ⟨l, hl⟩ := exists_plan (g := redeclaring) (s := .empty) (by decide +kernel)
  have he : ("total", ⟨"int", true⟩) ∈ redeclaring.declarations (.ofClass ⟨0⟩) := by
    decide +kernel
  obtain ⟨f, hf, hu | ⟨_, v, hv, ho, _, hs⟩⟩ := declaration_governed hl he
  · obtain ⟨r, hr, hk, _⟩ := hu
    exact absurd hk ((by decide +kernel :
      ∀ r ∈ universalRequests, r.key ≠ Naming.propertyKey "total") r hr)
  · have hg : redeclaring.governing? (.ofClass ⟨0⟩) (Naming.propertyKey "total") =
        some (.ofInterface ⟨0⟩, "total", ⟨"int", false⟩) := by
      decide +kernel
    obtain rfl := Option.some.inj (hg.symm.trans hv)
    have ht : StorageType.ofName "int" = .ok .int := by decide +kernel
    exact ⟨l, hl, f, hf, ho, Except.ok.inj (hs.type.symm.trans ht)⟩

/-- Declarations that do not govern may be optional, and planning does not refuse them. -/
theorem not_all_declarations_stored :
    ¬ ∀ g s l, g.Built → plan g s = .ok l → ∀ owner, ∀ e ∈ g.declarations owner,
      ∃ f, l.field? owner e.1 = .ok (some f) ∧ StoredAs e.2 f := by
  intro h
  obtain ⟨l, hl⟩ := exists_plan (g := redeclaring) (s := .empty) (by decide +kernel)
  have he : ("total", ⟨"int", true⟩) ∈ redeclaring.declarations (.ofClass ⟨0⟩) := by
    decide +kernel
  obtain ⟨f, _, hs⟩ := h _ _ _ built_redeclaring hl _ _ he
  cases hs.present

end Layout
end GrammarLayout
