import GrammarLayout.Proofs.Kept

/-!
# The requests of a grammar and a schedule

Every request is for an owner of the grammar, universal data come first, and a request without a
type is for a property that its owner declares.
-/

namespace GrammarLayout

theorem OrderedMap.get?_eq_find? {κ α : Type} [DecidableEq κ] (m : OrderedMap κ α) (k : κ) :
    m.get? k = (m.entries.find? fun e => e.1 = k).map Prod.snd := by
  obtain ⟨es, h⟩ := m
  simp only [get?]
  clear h
  induction es with
  | nil => rfl
  | cons e es ih => by_cases h : e.1 = k <;> simp [lookup, h, ih]

theorem OrderedMap.get?_eq_some_iff {κ α : Type} [DecidableEq κ] {m : OrderedMap κ α} {k : κ}
    {a : α} : m.get? k = some a ↔ (k, a) ∈ m.entries := by
  obtain ⟨es, h⟩ := m
  simp only [get?]
  induction es with
  | nil => simp [lookup]
  | cons e es ih =>
    obtain ⟨k', a'⟩ := e
    rw [List.map_cons, List.nodup_cons] at h
    rw [List.mem_cons, Prod.mk.injEq]
    by_cases hk : k' = k
    · subst hk
      have hnot : (k', a) ∉ es := fun hm => h.1 (List.mem_map.mpr ⟨_, hm, rfl⟩)
      simp [lookup, hnot, eq_comm]
    · simp [lookup, hk, Ne.symm hk, ih h.2]

def Interface.declarations (i : Interface) : List (String × Property) :=
  i.inputs.entries ++ i.attributes.entries ++ i.fields.entries

def Class.declarations (c : Class) : List (String × Property) :=
  c.fields.entries ++ c.attributes.entries

theorem Interface.property?_eq (i : Interface) (name : String) :
    i.property? name = (i.declarations.find? fun e => e.1 = name).map Prod.snd := by
  simp only [property?, declarations, OrderedMap.get?_eq_find?, List.find?_append]
  cases i.inputs.entries.find? _ <;> cases i.attributes.entries.find? _ <;> rfl

theorem Class.property?_eq (c : Class) (name : String) :
    c.property? name = (c.declarations.find? fun e => e.1 = name).map Prod.snd := by
  simp only [property?, declarations, OrderedMap.get?_eq_find?, List.find?_append]
  cases c.fields.entries.find? _ <;> rfl

namespace Grammar

variable {g : Grammar}

def declarations (g : Grammar) : Owner → List (String × Property)
  | .universal => []
  | .ofInterface id => (g.interface? id).elim [] Interface.declarations
  | .ofClass id => (g.class? id).elim [] Class.declarations

theorem property_eq_find? {owner : Owner} (h : g.Knows owner) (name : String) :
    g.property owner name =
      .ok (((g.declarations owner).find? fun e => e.1 = name).map Prod.snd) := by
  cases owner with
  | universal => rfl
  | ofInterface id =>
    obtain ⟨i, hi⟩ := Option.isSome_iff_exists.mp h
    simp [property, declarations, hi, (g.requireInterface_eq_ok).mpr hi, Except.map,
      Interface.property?_eq]
  | ofClass id =>
    obtain ⟨c, hc⟩ := Option.isSome_iff_exists.mp h
    simp [property, declarations, hc, (g.requireClass_eq_ok).mpr hc, Except.map,
      Class.property?_eq]

theorem exists_property_of_mem {owner : Owner} (h : g.Knows owner) {e : String × Property}
    (he : e ∈ g.declarations owner) : ∃ d, g.property owner e.1 = .ok (some d) := by
  obtain ⟨e', _, _, he'⟩ := exists_first (p := fun e' => e'.1 = e.1) he (by simp)
  exact ⟨e'.2, by rw [property_eq_find? h, he']; rfl⟩

theorem knows_of_mem_declarations {owner : Owner} {e : String × Property}
    (he : e ∈ g.declarations owner) : g.Knows owner := by
  cases owner with
  | universal => trivial
  | ofInterface id => cases h : g.interface? id <;> simp_all [declarations, Knows]
  | ofClass id => cases h : g.class? id <;> simp_all [declarations, Knows]

theorem mem_interfaceEntries {id : InterfaceId} {i : Interface} :
    (id, i) ∈ g.interfaceEntries ↔ g.interface? id = some i := by
  obtain ⟨n⟩ := id
  simp [interfaceEntries, interface?, List.mem_zipIdx_iff_getElem?]

theorem mem_classEntries {id : ClassId} {c : Class} :
    (id, c) ∈ g.classEntries ↔ g.class? id = some c := by
  obtain ⟨n⟩ := id
  simp [classEntries, class?, List.mem_zipIdx_iff_getElem?]

end Grammar

namespace Layout

variable {g : Grammar} {s : Schedule} {r : Request}

theorem interfaceRequests_eq (id : InterfaceId) (i : Interface) :
    interfaceRequests id i = i.declarations.map fun e => ⟨.ofInterface id, e.1, .declared⟩ := by
  simp [interfaceRequests, Interface.declarations, OrderedMap.keys, Function.comp_def]

theorem memberRequests_eq (id : ClassId) (c : Class) :
    memberRequests id c = c.declarations.map fun e => ⟨.ofClass id, e.1, .declared⟩ := by
  simp [memberRequests, Class.declarations, OrderedMap.keys, Function.comp_def]

/-- The requests for declared data, links and sinks. -/
def derivedRequests (g : Grammar) (s : Schedule) : List Request :=
  (g.interfaceEntries.flatMap fun e => interfaceRequests e.1 e.2) ++
    (g.classEntries.flatMap fun e => memberRequests e.1 e.2) ++
    (g.classEntries.flatMap fun e => linkRequests e.1 e.2) ++
    (g.classEntries.flatMap fun e => sinkRequests s e.1)

theorem requests_eq (g : Grammar) (s : Schedule) :
    requests g s = universalRequests ++ derivedRequests g s := by
  simp only [requests, derivedRequests, List.append_assoc]

theorem mem_derivedRequests :
    r ∈ derivedRequests g s ↔
      (∃ id i, g.interface? id = some i ∧ r ∈ interfaceRequests id i) ∨
      ∃ id c, g.class? id = some c ∧
        (r ∈ memberRequests id c ∨ r ∈ linkRequests id c ∨ r ∈ sinkRequests s id) := by
  simp only [derivedRequests, List.mem_append, List.mem_flatMap, Prod.exists,
    g.mem_interfaceEntries, g.mem_classEntries]
  constructor
  · rintro (((h | ⟨id, c, hc, h⟩) | ⟨id, c, hc, h⟩) | ⟨id, c, hc, h⟩)
    · exact .inl h
    · exact .inr ⟨id, c, hc, .inl h⟩
    · exact .inr ⟨id, c, hc, .inr (.inl h)⟩
    · exact .inr ⟨id, c, hc, .inr (.inr h)⟩
  · rintro (h | ⟨id, c, hc, h | h | h⟩)
    · exact .inl (.inl (.inl h))
    · exact .inl (.inl (.inr ⟨id, c, hc, h⟩))
    · exact .inl (.inr ⟨id, c, hc, h⟩)
    · exact .inr ⟨id, c, hc, h⟩

theorem of_mem_universalRequests (h : r ∈ universalRequests) :
    r.owner = .universal ∧
      ∃ type ∈ [StorageType.grammarTokens, .nodeIndex], r.origin = .known type := by
  simp only [universalRequests, List.mem_cons, List.not_mem_nil, or_false] at h
  rcases h with rfl | rfl | rfl | rfl | rfl | rfl <;> simp

theorem of_mem_interfaceRequests {id : InterfaceId} {i : Interface}
    (h : r ∈ interfaceRequests id i) :
    r.owner = .ofInterface id ∧ r.origin = .declared ∧ ∃ e ∈ i.declarations, r.property = e.1 := by
  rw [interfaceRequests_eq] at h
  obtain ⟨e, he, rfl⟩ := List.mem_map.mp h
  exact ⟨rfl, rfl, e, he, rfl⟩

theorem of_mem_memberRequests {id : ClassId} {c : Class} (h : r ∈ memberRequests id c) :
    r.owner = .ofClass id ∧ r.origin = .declared ∧ ∃ e ∈ c.declarations, r.property = e.1 := by
  rw [memberRequests_eq] at h
  obtain ⟨e, he, rfl⟩ := List.mem_map.mp h
  exact ⟨rfl, rfl, e, he, rfl⟩

theorem of_mem_linkRequests {id : ClassId} {c : Class} (h : r ∈ linkRequests id c) :
    r.owner = .ofClass id ∧ r.origin = .known .nodeIndex := by
  obtain ⟨role, _, h⟩ := List.mem_flatMap.mp h
  simp only [List.mem_cons, List.not_mem_nil, or_false] at h
  rcases h with rfl | rfl <;> exact ⟨rfl, rfl⟩

theorem of_mem_sinkRequests {id : ClassId} (h : r ∈ sinkRequests s id) :
    r.owner = .ofClass id ∧ ∃ sink ∈ s.sinks id, r.origin = .snapshot id sink := by
  obtain ⟨sink, hs, h⟩ := List.mem_flatMap.mp h
  simp only [List.mem_cons, List.not_mem_nil, or_false] at h
  rcases h with rfl | rfl <;> exact ⟨rfl, sink, hs, rfl⟩

theorem mem_linkRequests (id : ClassId) {c : Class} {role : String}
    (h : role ∈ c.children.keys) :
    ⟨.ofClass id, "child_" ++ role ++ "_leftmost_child", .known .nodeIndex⟩ ∈ linkRequests id c ∧
      ⟨.ofClass id, "child_" ++ role ++ "_count", .known .nodeIndex⟩ ∈ linkRequests id c :=
  ⟨List.mem_flatMap.mpr ⟨role, h, List.mem_cons_self⟩,
    List.mem_flatMap.mpr ⟨role, h, List.mem_cons_of_mem _ List.mem_cons_self⟩⟩

theorem mem_sinkRequests {id : ClassId} {sink : SinkRef} (h : sink ∈ s.sinks id) :
    ⟨.ofClass id, sink.stem ++ "_init", .snapshot id sink⟩ ∈ sinkRequests s id ∧
      ⟨.ofClass id, sink.stem ++ "_last", .snapshot id sink⟩ ∈ sinkRequests s id :=
  ⟨List.mem_flatMap.mpr ⟨sink, h, List.mem_cons_self⟩,
    List.mem_flatMap.mpr ⟨sink, h, List.mem_cons_of_mem _ List.mem_cons_self⟩⟩

/-- The owner of a request that is not universal, which the grammar knows. -/
theorem owner_of_mem_derivedRequests (h : r ∈ derivedRequests g s) :
    r.owner ≠ .universal ∧ g.Knows r.owner := by
  rcases mem_derivedRequests.mp h with ⟨id, i, hi, h⟩ | ⟨id, c, hc, h⟩
  · rw [(of_mem_interfaceRequests h).1]
    exact ⟨nofun, Grammar.knows_ofInterface hi⟩
  · have ho : r.owner = .ofClass id := by
      rcases h with h | h | h
      · exact (of_mem_memberRequests h).1
      · exact (of_mem_linkRequests h).1
      · exact (of_mem_sinkRequests h).1
    rw [ho]
    exact ⟨nofun, Grammar.knows_ofClass hc⟩

theorem mem_universalRequests_of_owner (h : r ∈ requests g s) (ho : r.owner = .universal) :
    r ∈ universalRequests := by
  rw [requests_eq] at h
  rcases List.mem_append.mp h with h | h
  · exact h
  · exact absurd ho (owner_of_mem_derivedRequests h).1

theorem knows_of_mem_requests (h : r ∈ requests g s) : g.Knows r.owner := by
  rw [requests_eq] at h
  rcases List.mem_append.mp h with h | h
  · rw [(of_mem_universalRequests h).1]
    trivial
  · exact (owner_of_mem_derivedRequests h).2

/-- Universal data are asked for before all others. -/
theorem universalFirst_requests (g : Grammar) (s : Schedule) :
    UniversalFirst (requests g s) := by
  rw [requests_eq]
  refine List.pairwise_append.mpr ⟨?_, ?_, ?_⟩
  · exact List.pairwise_of_forall_mem_list fun r hr _ _ _ => (of_mem_universalRequests hr).1
  · exact List.pairwise_of_forall_mem_list fun _ _ r hr hu =>
      absurd hu (owner_of_mem_derivedRequests hr).1
  · exact fun r hr _ _ _ => (of_mem_universalRequests hr).1

/-- Requests without a type are for properties that their owners declare. -/
theorem declares_of_mem_requests (h : r ∈ requests g s) (ho : r.origin = .declared) :
    ∃ d, g.property r.owner r.property = .ok (some d) := by
  have hk := knows_of_mem_requests h
  have hdeclared : ∃ e ∈ g.declarations r.owner, r.property = e.1 := by
    rw [requests_eq] at h
    rcases List.mem_append.mp h with h | h
    · obtain ⟨_, type, _, hknown⟩ := of_mem_universalRequests h
      rw [ho] at hknown
      cases hknown
    · rcases mem_derivedRequests.mp h with ⟨id, i, hi, h⟩ | ⟨id, c, hc, h | h | h⟩
      · obtain ⟨howner, _, e, he, hp⟩ := of_mem_interfaceRequests h
        exact ⟨e, by simpa [howner, Grammar.declarations, hi] using he, hp⟩
      · obtain ⟨howner, _, e, he, hp⟩ := of_mem_memberRequests h
        exact ⟨e, by simpa [howner, Grammar.declarations, hc] using he, hp⟩
      · have hknown := (of_mem_linkRequests h).2
        rw [ho] at hknown
        cases hknown
      · obtain ⟨_, sink, _, hsnapshot⟩ := of_mem_sinkRequests h
        rw [ho] at hsnapshot
        cases hsnapshot
  obtain ⟨e, he, hp⟩ := hdeclared
  rw [hp]
  exact g.exists_property_of_mem hk he

theorem exists_snapshot_request {id : ClassId} {sink : SinkRef} :
    (∃ r ∈ requests g s, r.origin = .snapshot id sink) ↔
      (∃ c, g.class? id = some c) ∧ sink ∈ s.sinks id := by
  constructor
  · rintro ⟨r, h, ho⟩
    rw [requests_eq] at h
    rcases List.mem_append.mp h with h | h
    · obtain ⟨_, type, _, hknown⟩ := of_mem_universalRequests h
      rw [ho] at hknown
      cases hknown
    · rcases mem_derivedRequests.mp h with ⟨k, i, _, h⟩ | ⟨k, c, hc, h | h | h⟩
      · cases ho.symm.trans (of_mem_interfaceRequests h).2.1
      · cases ho.symm.trans (of_mem_memberRequests h).2.1
      · cases ho.symm.trans (of_mem_linkRequests h).2
      · obtain ⟨_, sink', hs, hsnapshot⟩ := of_mem_sinkRequests h
        cases ho.symm.trans hsnapshot
        exact ⟨⟨c, hc⟩, hs⟩
  · rintro ⟨⟨c, hc⟩, hs⟩
    refine ⟨⟨.ofClass id, sink.stem ++ "_init", .snapshot id sink⟩, ?_, rfl⟩
    have hsink := (mem_sinkRequests hs).1
    rw [requests_eq]
    exact List.mem_append_right _ (mem_derivedRequests.mpr (.inr ⟨id, c, hc, .inr (.inr hsink)⟩))

end Layout
end GrammarLayout
