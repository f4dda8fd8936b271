import GrammarLayout.Proofs.Packing
import GrammarLayout.Proofs.Typing

/-!
# Planning as a selection of requests

A plan asks for one field after the other and looks for each in what it has so far. The fields that
come out are those of the kept requests, and planning fails only where a kept request cannot be met
or a sink has no type. The invariant says that the fields are those of the requests that were kept
among the ones met so far.
-/

namespace GrammarLayout

theorem rel_find? {α β : Type} {R : α → β → Prop} {xs : List α} {ys : List β}
    {p : α → Bool} {q : β → Bool} (h : List.Forall₂ R xs ys) (hpq : ∀ x y, R x y → p x = q y) :
    Option.Rel R (xs.find? p) (ys.find? q) := by
  induction h with
  | nil => exact .none
  | @cons x y xs ys hxy _ ih =>
    cases hx : p x with
    | true =>
      have hy : q y = true := hpq x y hxy ▸ hx
      rw [List.find?_cons_of_pos hx, List.find?_cons_of_pos hy]
      exact .some hxy
    | false =>
      have hy : ¬ q y = true := by simp [← hpq x y hxy, hx]
      rw [List.find?_cons_of_neg (by simp [hx]), List.find?_cons_of_neg hy]
      exact ih

theorem getElem?_of_forall₂ {α β : Type} {R : α → β → Prop} {xs : List α} {ys : List β}
    (h : List.Forall₂ R xs ys) {i : Nat} {y : β} (hy : ys[i]? = some y) :
    ∃ x, xs[i]? = some x ∧ R x y := by
  induction h generalizing i with
  | nil => simp at hy
  | @cons a b as bs hab _ ih =>
    cases i with
    | zero =>
      obtain rfl := Option.some.inj hy
      exact ⟨a, rfl, hab⟩
    | succ i => exact ih hy

namespace Layout

/-- The field is the one that the request asks for. -/
structure Meets (g : Grammar) (r : Request) (f : Field) : Prop where
  owner : f.owner = r.owner
  property : f.property = r.property
  type : r.HasType g f.type
  ident : ∃ name, g.ownerName r.owner = .ok name ∧
    f.ident = Naming.fieldIdent name r.property f.type

/-- Requests as a grammar gives rise to them. -/
structure WellPosed (g : Grammar) (rs : List Request) : Prop where
  known : ∀ r ∈ rs, g.Knows r.owner
  declared : ∀ r ∈ rs, r.origin = .declared → ∃ d, g.property r.owner r.property = .ok (some d)
  universalFirst : UniversalFirst rs

/-- The layout holds the fields of the kept requests and nothing else. -/
structure Follows (g : Grammar) (rs : List Request) (l : Layout) : Prop where
  grammar_eq : l.grammar = g
  indexed : l.Indexed
  fields : List.Forall₂ (Meets g) (kept g rs) l.fields

/-- All requests can be met: the kept ones by new fields, and all sinks have types. -/
structure Feasible (g : Grammar) (rs : List Request) : Prop where
  typed : ∀ r ∈ kept g rs, ∃ type, r.HasType g type
  present : ∀ r ∈ kept g rs, g.Present r.owner r.property
  sinks : ∀ r ∈ rs, ∀ id sink, r.origin = .snapshot id sink → ∃ type, g.SinkHasType id sink type

variable {g : Grammar} {s : Schedule} {rs : List Request} {r : Request} {f : Field} {l l' : Layout}

theorem wellPosed_requests (g : Grammar) (s : Schedule) : WellPosed g (requests g s) :=
  ⟨fun _ => knows_of_mem_requests, fun _ => declares_of_mem_requests, universalFirst_requests g s⟩

theorem WellPosed.init (h : WellPosed g (rs ++ [r])) : WellPosed g rs :=
  ⟨fun r' hr => h.known r' (List.mem_append_left _ hr),
    fun r' hr => h.declared r' (List.mem_append_left _ hr),
    (List.pairwise_append.mp h.universalFirst).1⟩

theorem Meets.answering (h : Meets g r f) (owner : Owner) (key : String) :
    answering g owner key f = decide (g.Covers r owner key) := by
  rw [Bool.eq_iff_iff, decide_eq_true_iff]
  simp [Layout.answering, Grammar.Covers, Request.key, Field.key, h.owner, h.property]

namespace Follows

theorem rel_answering (h : Follows g rs l) (hw : WellPosed g rs) (owner : Owner) (key : String) :
    Option.Rel (Meets g) (rs.find? fun r => g.Covers r owner key)
      (l.fields.find? (answering g owner key)) := by
  rw [← find?_kept hw.universalFirst]
  exact rel_find? h.fields fun r f hf => (hf.answering owner key).symm

/-- A look-up finds the field of the first request that answers, be that one kept or not. -/
theorem field? (h : Follows g rs l) (hw : WellPosed g rs) {owner : Owner} (ho : g.Knows owner)
    (property : String) : ∃ f?, l.field? owner property = .ok f? ∧ Option.Rel (Meets g)
      (rs.find? fun r => g.Covers r owner (Naming.propertyKey property)) f? := by
  have hrel := h.rel_answering hw owner (Naming.propertyKey property)
  obtain rfl := h.grammar_eq
  exact ⟨_, h.indexed.field?_eq ho property, hrel⟩

theorem field?_of_first (h : Follows g rs l) (hw : WellPosed g rs) {owner : Owner}
    (ho : g.Knows owner) {property : String} {first : Request}
    (hfirst : rs.find? (fun r => g.Covers r owner (Naming.propertyKey property)) = some first) :
    ∃ f, l.field? owner property = .ok (some f) ∧ Meets g first f := by
  obtain ⟨f?, hf, hrel⟩ := h.field? hw ho property
  rw [hfirst] at hrel
  cases hrel with
  | @some _ f hm => exact ⟨f, hf, hm⟩

theorem any_answering (h : Follows g rs l) (hw : WellPosed g rs) (r : Request) :
    l.fields.any (answering g r.owner r.key) = decide (g.Covered rs r) := by
  have hrel := h.rel_answering hw r.owner r.key
  have hsome : (rs.find? fun r' => g.Covers r' r.owner r.key).isSome ↔ g.Covered rs r := by
    simp [List.find?_isSome, Grammar.Covered]
  rw [Bool.eq_iff_iff, ← List.isSome_find?, decide_eq_true_iff, ← hsome]
  generalize rs.find? _ = first at hrel
  generalize l.fields.find? _ = found at hrel ⊢
  cases hrel <;> simp

theorem find?_of_covered (h : Follows g rs l) (hw : WellPosed g rs) (hr : g.Knows r.owner)
    (hc : g.Covered rs r) : ∃ n, l.find? r.owner r.property = .ok (some n) := by
  have ha := h.any_answering hw r
  obtain rfl := h.grammar_eq
  rw [← List.findIdx?_isSome, decide_eq_true hc] at ha
  obtain ⟨n, hn⟩ := Option.isSome_iff_exists.mp ha
  exact ⟨n, by rw [h.indexed.find?_eq hr, ← hn]; rfl⟩

theorem find?_of_not_covered (h : Follows g rs l) (hw : WellPosed g rs) (hr : g.Knows r.owner)
    (hc : ¬ g.Covered rs r) : l.find? r.owner r.property = .ok none := by
  have ha := h.any_answering hw r
  obtain rfl := h.grammar_eq
  rw [← List.findIdx?_isSome, decide_eq_false hc, Option.isSome_eq_false_iff,
    Option.isNone_iff_eq_none] at ha
  rw [h.indexed.find?_eq hr, ← ha]
  rfl

theorem of_pairwise (h : Follows g rs l) {R : Request → Request → Prop}
    (hR : (kept g rs).Pairwise R) {i j : Nat} (hij : i < j) {f f' : Field}
    (hf : l.fields[i]? = some f) (hf' : l.fields[j]? = some f') :
    ∃ r r', Meets g r f ∧ Meets g r' f' ∧ R r r' := by
  obtain ⟨r, hr, hm⟩ := getElem?_of_forall₂ h.fields hf
  obtain ⟨r', hr', hm'⟩ := getElem?_of_forall₂ h.fields hf'
  obtain ⟨hi, rfl⟩ := List.getElem?_eq_some_iff.mp hr
  obtain ⟨hj, rfl⟩ := List.getElem?_eq_some_iff.mp hr'
  exact ⟨_, _, hm, hm', List.pairwise_iff_getElem.mp hR i j hi hj hij⟩

theorem not_answers (h : Follows g rs l) {i j : Nat} (hij : i < j) {f f' : Field}
    (hf : l.fields[i]? = some f) (hf' : l.fields[j]? = some f') (hk : f.key = f'.key) :
    ¬ g.Answers f.owner f'.owner := by
  obtain ⟨r, r', hm, hm', hc⟩ := h.of_pairwise (kept_pairwise g rs) hij hf hf'
  rw [Field.key, Field.key, hm.property, hm'.property] at hk
  rw [hm.owner, hm'.owner]
  exact fun ha => hc ⟨hk, ha⟩

/-- A request that an earlier one answers changes nothing; only a sink can make it fail. -/
theorem fulfil_of_covered (h : Follows g rs l) (hw : WellPosed g rs) (hr : g.Knows r.owner)
    (hc : g.Covered rs r) :
    l.fulfil r = .ok l' ↔ (∃ given, given? g r = .ok given) ∧ l' = l := by
  obtain ⟨n, hn⟩ := h.find?_of_covered hw hr hc
  rw [fulfil_eq_ok, h.grammar_eq]
  constructor
  · rintro ⟨given, hg, m, hm⟩
    rw [request_of_found hn] at hm
    cases hm
    exact ⟨⟨given, hg⟩, rfl⟩
  · rintro ⟨⟨given, hg⟩, rfl⟩
    exact ⟨given, hg, n, request_of_found hn⟩

/-- A request that no earlier one answers adds its field, or fails if it has no type or asks for an
optional value. -/
theorem fulfil_of_not_covered (h : Follows g rs l) (hw : WellPosed g (rs ++ [r]))
    (hc : ¬ g.Covered rs r) :
    l.fulfil r = .ok l' ↔ ∃ type name, r.HasType g type ∧ g.ownerName r.owner = .ok name ∧
      g.Present r.owner r.property ∧ l' = l.add (.named r.owner name r.property type) := by
  have hr := hw.known r (by simp)
  have hn := h.find?_of_not_covered hw.init hr hc
  obtain rfl := h.grammar_eq
  have ht := fun type => exists_typeOf_iff type (hw.declared r (by simp))
  rw [fulfil_eq_ok]
  constructor
  · rintro ⟨given, hg, n, hreq⟩
    rcases request_cases hreq with ⟨hf, _⟩ | ⟨_, _, type, name, htype, hname, hp, hl⟩
    · rw [hn] at hf
      cases hf
    · exact ⟨type, name, (ht type).mp ⟨given, hg, htype⟩, hname, hp, hl⟩
  · rintro ⟨type, name, htype, hname, hp, rfl⟩
    obtain ⟨given, hg, htype⟩ := (ht type).mpr htype
    exact ⟨given, hg, _, request_of_missing hn htype hname hp⟩

/-- One request keeps the layout in step with the requests. -/
theorem fulfil (h : Follows g rs l) (hw : WellPosed g (rs ++ [r])) (hl : l.fulfil r = .ok l') :
    Follows g (rs ++ [r]) l' := by
  have hr := hw.known r (by simp)
  by_cases hc : g.Covered rs r
  · obtain ⟨_, rfl⟩ := (h.fulfil_of_covered hw.init hr hc).mp hl
    refine ⟨h.grammar_eq, h.indexed, ?_⟩
    rw [kept_concat, if_pos hc, List.append_nil]
    exact h.fields
  · obtain ⟨type, name, ht, hn, _, rfl⟩ := (h.fulfil_of_not_covered hw hc).mp hl
    refine ⟨h.grammar_eq, h.indexed.add _, ?_⟩
    rw [kept_concat, if_neg hc, fields_add]
    have hd := l.buffers.draft_place (.named r.owner name r.property type)
    have hm : Meets g r (l.buffers.place (.named r.owner name r.property type)).1 := by
      constructor
      · rw [hd]
        rfl
      · rw [hd]
        rfl
      · rw [hd]
        exact ht
      · rw [hd]
        exact ⟨name, hn, rfl⟩
    exact List.rel_append h.fields (.cons hm .nil)

/-- Whether one more request can be met. -/
theorem exists_fulfil_iff (h : Follows g rs l) (hw : WellPosed g (rs ++ [r])) :
    (∃ l', l.fulfil r = .ok l') ↔
      (∀ id sink, r.origin = .snapshot id sink → ∃ type, g.SinkHasType id sink type) ∧
      (g.Covered rs r ∨ (∃ type, r.HasType g type) ∧ g.Present r.owner r.property) := by
  have hr := hw.known r (by simp)
  by_cases hc : g.Covered rs r
  · simp [h.fulfil_of_covered hw.init hr hc, exists_given?_iff, hc]
  · obtain ⟨name, hn⟩ := g.ownerName_of_knows hr
    simp only [h.fulfil_of_not_covered hw hc, hc, false_or]
    constructor
    · rintro ⟨_, type, _, ht, _, hp, _⟩
      refine ⟨?_, ⟨type, ht⟩, hp⟩
      intro id sink ho
      simp only [Request.HasType, ho] at ht
      exact ⟨type, ht⟩
    · rintro ⟨_, ⟨type, ht⟩, hp⟩
      exact ⟨_, type, name, ht, hn, hp, rfl⟩

end Follows

theorem feasible_concat :
    Feasible g (rs ++ [r]) ↔ Feasible g rs ∧
      (∀ id sink, r.origin = .snapshot id sink → ∃ type, g.SinkHasType id sink type) ∧
      (g.Covered rs r ∨ (∃ type, r.HasType g type) ∧ g.Present r.owner r.property) := by
  have hk : ∀ P : Request → Prop, (∀ r' ∈ kept g (rs ++ [r]), P r') ↔
      (∀ r' ∈ kept g rs, P r') ∧ (g.Covered rs r ∨ P r) := by
    intro P
    rw [kept_concat]
    by_cases hc : g.Covered rs r <;> simp [hc, or_imp, forall_and]
  constructor
  · rintro ⟨ht, hp, hs⟩
    rw [hk] at ht hp
    refine ⟨⟨ht.1, hp.1, fun r' hr => hs r' (List.mem_append_left _ hr)⟩, hs r (by simp), ?_⟩
    rcases ht.2 with hc | ht'
    · exact .inl hc
    · exact hp.2.imp_right fun hp' => ⟨ht', hp'⟩
  · rintro ⟨⟨ht, hp, hs⟩, hr, hc⟩
    refine ⟨(hk _).mpr ⟨ht, hc.imp_right And.left⟩, (hk _).mpr ⟨hp, hc.imp_right And.right⟩, ?_⟩
    intro r' hr'
    rcases List.mem_append.mp hr' with hr' | hr'
    · exact hs r' hr'
    · rw [List.mem_singleton.mp hr']
      exact hr

theorem follows_nil (g : Grammar) : Follows g [] (empty g) := ⟨rfl, indexed_empty g, .nil⟩

/-- Meeting all requests leads to the layout of the kept ones. -/
theorem follows_of_foldlM (hw : WellPosed g rs) (h : rs.foldlM fulfil (empty g) = .ok l) :
    Follows g rs l := by
  induction rs using List.reverseRecOn generalizing l with
  | nil =>
    cases h
    exact follows_nil g
  | append_singleton rs r ih =>
    rw [List.foldlM_append] at h
    obtain ⟨m, hm, h⟩ := bind_eq_ok.mp h
    rw [List.foldlM_cons] at h
    obtain ⟨l', hl, h⟩ := bind_eq_ok.mp h
    cases h
    exact (ih hw.init hm).fulfil hw hl

theorem exists_foldlM_iff (hw : WellPosed g rs) :
    (∃ l, rs.foldlM fulfil (empty g) = .ok l) ↔ Feasible g rs := by
  induction rs using List.reverseRecOn with
  | nil =>
    have hf : Feasible g [] := ⟨by simp, by simp, by simp⟩
    exact iff_of_true ⟨empty g, rfl⟩ hf
  | append_singleton rs r ih =>
    rw [feasible_concat, ← ih hw.init]
    have hstep : ∀ l, rs.foldlM fulfil (empty g) = .ok l → ((∃ l', l.fulfil r = .ok l') ↔
        (∀ id sink, r.origin = .snapshot id sink → ∃ type, g.SinkHasType id sink type) ∧
        (g.Covered rs r ∨ (∃ type, r.HasType g type) ∧ g.Present r.owner r.property)) :=
      fun l hl => (follows_of_foldlM hw.init hl).exists_fulfil_iff hw
    constructor
    · rintro ⟨l', h⟩
      rw [List.foldlM_append] at h
      obtain ⟨l, hl, h⟩ := bind_eq_ok.mp h
      rw [List.foldlM_cons] at h
      obtain ⟨l'', hr, _⟩ := bind_eq_ok.mp h
      exact ⟨⟨l, hl⟩, (hstep l hl).mp ⟨l'', hr⟩⟩
    · rintro ⟨⟨l, hl⟩, h⟩
      obtain ⟨l', hr⟩ := (hstep l hl).mpr h
      refine ⟨l', ?_⟩
      rw [List.foldlM_append]
      refine bind_eq_ok.mpr ⟨l, hl, ?_⟩
      rw [List.foldlM_cons]
      exact bind_eq_ok.mpr ⟨l', hr, rfl⟩

theorem exists_plan (h : (plan g s).toOption.isSome) : ∃ l, plan g s = .ok l := by
  cases hp : plan g s with
  | ok l => exact ⟨l, rfl⟩
  | error e => simp [hp, Except.toOption] at h

theorem exists_field_of_type (owner : Owner) (property : String) {type : StorageType}
    (h : ((plan g s).toOption.bind fun l =>
      (l.field? owner property).toOption.join.map fun f => f.type) = some type) :
    ∃ l f, plan g s = .ok l ∧ l.field? owner property = .ok (some f) ∧ f.type = type := by
  cases hl : plan g s with
  | error e => simp [hl, Except.toOption] at h
  | ok l =>
    cases hf : l.field? owner property with
    | error handle => simp [hl, hf, Except.toOption] at h
    | ok f? =>
      simp only [hl, hf, Except.toOption, Option.bind_some, Option.join_some] at h
      obtain ⟨f, rfl, ht⟩ := Option.map_eq_some_iff.mp h
      exact ⟨l, f, rfl, hf, ht⟩

theorem follows_of_plan (h : plan g s = .ok l) : Follows g (requests g s) l :=
  follows_of_foldlM (wellPosed_requests g s) h

/-- What it takes to plan a grammar and a schedule: the kept requests for declared data can be
stored and are not optional where they are declared, and all sinks have types, also those whose
values need no new field. -/
structure Plannable (g : Grammar) (s : Schedule) : Prop where
  stored : ∀ r ∈ kept g (requests g s), r.origin = .declared →
    ∃ type, g.Declares r.owner r.property type
  present : ∀ r ∈ kept g (requests g s), ∀ d,
    g.property r.owner r.property = .ok (some d) → d.maybe = false
  sinks : ∀ id c, g.class? id = some c → ∀ sink ∈ s.sinks id, ∃ type, g.SinkHasType id sink type

theorem plannable_iff : Plannable g s ↔ Feasible g (requests g s) := by
  have hpresent : ∀ r ∈ kept g (requests g s), (g.Present r.owner r.property ↔
      ∀ d, g.property r.owner r.property = .ok (some d) → d.maybe = false) :=
    fun r hr => g.present_iff (knows_of_mem_requests (mem_of_mem_kept hr))
  have hsinks : (∀ r ∈ requests g s, ∀ id sink, r.origin = .snapshot id sink →
        ∃ type, g.SinkHasType id sink type) ↔
      ∀ id c, g.class? id = some c → ∀ sink ∈ s.sinks id, ∃ type, g.SinkHasType id sink type := by
    constructor
    · intro h id c hc sink hs
      obtain ⟨r, hr, ho⟩ := exists_snapshot_request.mpr ⟨⟨c, hc⟩, hs⟩
      exact h r hr id sink ho
    · intro h r hr id sink ho
      obtain ⟨⟨c, hc⟩, hs⟩ := exists_snapshot_request.mp ⟨r, hr, ho⟩
      exact h id c hc sink hs
  constructor
  · rintro ⟨ht, hp, hs⟩
    refine ⟨fun r hr => ?_, fun r hr => (hpresent r hr).mpr (hp r hr), hsinks.mpr hs⟩
    unfold Request.HasType
    cases ho : r.origin with
    | known type => exact ⟨type, rfl⟩
    | declared => exact ht r hr ho
    | snapshot id sink => exact hsinks.mpr hs r (mem_of_mem_kept hr) id sink ho
  · rintro ⟨ht, hp, hs⟩
    refine ⟨fun r hr ho => ?_, fun r hr => (hpresent r hr).mp (hp r hr), hsinks.mp hs⟩
    simpa only [Request.HasType, ho] using ht r hr

theorem exists_plan_iff : (∃ l, plan g s = .ok l) ↔ Plannable g s :=
  (exists_foldlM_iff (wellPosed_requests g s)).trans plannable_iff.symm

/-- Planning succeeds exactly for what can be planned. The fields are those of the kept requests in
their order, each placed after the earlier fields of its type. -/
theorem plan_selects (g : Grammar) (s : Schedule) :
    ((∃ l, plan g s = .ok l) ↔ Plannable g s) ∧
      ∀ l, plan g s = .ok l →
        List.Forall₂ (Meets g) (kept g (requests g s)) l.fields ∧
        ∀ i f, l.fields[i]? = some f → f.slot = Buffers.slotAfter (l.fields.take i) f.type := by
  refine ⟨exists_plan_iff, fun l hl => ⟨?_, fun i f hf => ?_⟩⟩
  · exact (follows_of_plan hl).fields
  · exact (reachable_of_plan hl).holds.slot_eq hf

end Layout
end GrammarLayout
