import GrammarLayout.Proofs.Lookup

/-!
# What a request comes to

A request is answered by a field that is there, adds one field, or fails and leaves the layout as
it is. Everything that holds of all layouts is proved from these three outcomes.
-/

namespace GrammarLayout

theorem bind_eq_ok {ε α β : Type} {x : Except ε α} {k : α → Except ε β} {b : β} :
    x >>= k = .ok b ↔ ∃ a, x = .ok a ∧ k a = .ok b := by
  cases x <;> simp [bind, Except.bind]

theorem foldlM_invariant {ε α β : Type} {P : β → Prop} {step : β → α → Except ε β}
    (hstep : ∀ b a b', P b → step b a = .ok b' → P b') {as : List α} {b b' : β} (hb : P b)
    (h : as.foldlM step b = .ok b') : P b' := by
  induction as generalizing b with
  | nil =>
    cases h
    exact hb
  | cons a as ih =>
    rw [List.foldlM_cons] at h
    obtain ⟨c, ha, h⟩ := bind_eq_ok.mp h
    exact ih (hstep b a c hb ha) h

/-- A step goes on in the state that the one before it has left behind. -/
theorem run_bind {ε σ α β : Type} (step : ExceptT ε (StateM σ) α)
    (k : α → ExceptT ε (StateM σ) β) (s : σ) :
    (step >>= k).run.run s =
      match step.run.run s with
      | (.ok a, s') => (k a).run.run s'
      | (.error e, s') => (.error e, s') := by
  change (match step s with | (a, s') => ExceptT.bindCont k a s') = _
  change _ = match step s with
    | (.ok a, s') => (k a).run.run s'
    | (.error e, s') => (.error e, s')
  rcases step s with ⟨_ | _, _⟩ <;> rfl

theorem mapM_eq_ok {ε α β : Type} {k : α → Except ε β} {view : α → β} {xs : List α}
    (h : ∀ x ∈ xs, k x = .ok (view x)) : xs.mapM k = .ok (xs.map view) := by
  induction xs with
  | nil => rfl
  | cons x xs ih =>
    have hxs := ih fun y hy => h y (List.mem_cons_of_mem x hy)
    rw [List.mapM_cons, h x List.mem_cons_self, hxs]
    rfl

/-- If there is only one way to fail, it does not matter where that is. -/
theorem mapM_eq_error {ε α β : Type} {k : α → Except ε β} {v : α → β} {e : ε} {xs : List α}
    (hone : ∃ x ∈ xs, k x = .error e) (hall : ∀ x ∈ xs, k x = .ok (v x) ∨ k x = .error e) :
    xs.mapM k = .error e := by
  induction xs with
  | nil => simp at hone
  | cons x xs ih =>
    rw [List.mapM_cons]
    rcases hall x List.mem_cons_self with hx | hx
    · have hxs : ∃ y ∈ xs, k y = .error e := by
        obtain ⟨y, hy, he⟩ := hone
        rcases List.mem_cons.mp hy with rfl | hy
        · cases hx.symm.trans he
        · exact ⟨y, hy, he⟩
      rw [hx, ih hxs fun y hy => hall y (List.mem_cons_of_mem x hy)]
      rfl
    · rw [hx]
      rfl

theorem PlanError.ofForeign_eq_ok {α : Type} {x : Except ForeignHandle α} {a : α} :
    PlanError.ofForeign x = .ok a ↔ x = .ok a := by
  cases x <;> simp [PlanError.ofForeign]

namespace Grammar

def Present (g : Grammar) (owner : Owner) (property : String) : Prop :=
  ∃ declared, g.property owner property = .ok declared ∧ ∀ d, declared = some d → d.maybe = false

theorem present_iff {g : Grammar} {owner : Owner} (h : g.Knows owner) {property : String} :
    g.Present owner property ↔
      ∀ d, g.property owner property = .ok (some d) → d.maybe = false := by
  obtain ⟨declared, hd⟩ := g.property_of_knows h property
  simp [Present, hd]

end Grammar

namespace Layout

variable {l l' : Layout} {owner : Owner} {property : String} {given : Option StorageType} {n : Nat}

/-- The outcomes of a request that does not fail. -/
theorem request_cases (h : l.request owner property given = .ok (n, l')) :
    (l.find? owner property = .ok (some n) ∧ l' = l) ∨
      (l.find? owner property = .ok none ∧ n = l.fields.length ∧
        ∃ type name, l.typeOf owner property given = .ok type ∧
          l.grammar.ownerName owner = .ok name ∧ l.grammar.Present owner property ∧
          l' = l.add (.named owner name property type)) := by
  unfold request at h
  obtain ⟨found, hf, h⟩ := bind_eq_ok.mp h
  rw [PlanError.ofForeign_eq_ok] at hf
  cases found with
  | some position =>
    cases h
    exact .inl ⟨hf, rfl⟩
  | none =>
    obtain ⟨type, ht, h⟩ := bind_eq_ok.mp h
    obtain ⟨name, hn, h⟩ := bind_eq_ok.mp h
    obtain ⟨declared, hd, h⟩ := bind_eq_ok.mp h
    rw [PlanError.ofForeign_eq_ok] at hn hd
    split at h
    · cases h
    · next hm =>
      cases h
      refine .inr ⟨hf, rfl, type, name, ht, hn, ⟨declared, hd, ?_⟩, rfl⟩
      rintro d rfl
      simpa using hm

theorem request_of_found (h : l.find? owner property = .ok (some n)) :
    l.request owner property given = .ok (n, l) := by
  simp [request, h, PlanError.ofForeign, bind, Except.bind, pure, Except.pure]

theorem request_of_missing {type : StorageType} {name : Option String}
    (h : l.find? owner property = .ok none) (ht : l.typeOf owner property given = .ok type)
    (hn : l.grammar.ownerName owner = .ok name) (hp : l.grammar.Present owner property) :
    l.request owner property given =
      .ok (l.fields.length, l.add (.named owner name property type)) := by
  obtain ⟨declared, hd, hm⟩ := hp
  have hb : (declared.map Property.maybe).getD false = false := by
    cases declared with
    | none => rfl
    | some d => exact hm d rfl
  simp [request, h, ht, hn, hd, hb, PlanError.ofForeign, bind, Except.bind, pure, Except.pure]

/-- The layout after a request; one that fails leaves it as it is. -/
def after (l : Layout) (owner : Owner) (property : String) (given : Option StorageType) : Layout :=
  match l.request owner property given with
  | .ok answer => answer.2
  | .error _ => l

theorem after_cases (l : Layout) (owner : Owner) (property : String) (given : Option StorageType) :
    l.after owner property given = l ∨
      ∃ type name, l.after owner property given = l.add (.named owner name property type) := by
  unfold after
  split
  · next answer h =>
    rcases request_cases h with ⟨_, hl⟩ | ⟨_, _, type, name, _, _, _, hl⟩
    · exact .inl hl
    · exact .inr ⟨type, name, hl⟩
  · exact .inl rfl

theorem after_of_request (h : l.request owner property given = .ok (n, l')) :
    l.after owner property given = l' := by
  simp [after, h]

@[simp] theorem grammar_after (l : Layout) (owner : Owner) (property : String)
    (given : Option StorageType) : (l.after owner property given).grammar = l.grammar := by
  rcases after_cases l owner property given with ha | ⟨type, name, ha⟩
  · rw [ha]
  · rw [ha, grammar_add]

/-- Layouts for a grammar that come about by requests of any kind, those that fail included, from
the layout without fields or from the one with the fields that every node has. -/
inductive Reachable (g : Grammar) : Layout → Prop
  | empty : Reachable g (empty g)
  | universal {l : Layout} (h : universal g = .ok l) : Reachable g l
  | request {l : Layout} (h : Reachable g l) (owner : Owner) (property : String)
      (given : Option StorageType) : Reachable g (l.after owner property given)

/-- The type that comes with a request, if it does not have to be looked up. -/
def given? (g : Grammar) (r : Request) : Except PlanError (Option StorageType) :=
  match r.origin with
  | .known type => .ok (some type)
  | .declared => .ok none
  | .snapshot id sink => (g.sinkType id sink).map some

theorem fulfil_eq (l : Layout) (r : Request) :
    l.fulfil r = given? l.grammar r >>= fun given =>
      l.request r.owner r.property given >>= fun answer => .ok answer.2 := by
  unfold fulfil given?
  cases r.origin <;> rfl

theorem fulfil_eq_ok {r : Request} :
    l.fulfil r = .ok l' ↔ ∃ given, given? l.grammar r = .ok given ∧
      ∃ n, l.request r.owner r.property given = .ok (n, l') := by
  rw [fulfil_eq, bind_eq_ok]
  refine exists_congr fun given => and_congr_right fun _ => ?_
  rw [bind_eq_ok]
  constructor
  · rintro ⟨answer, ha, hl⟩
    cases hl
    exact ⟨answer.1, ha⟩
  · rintro ⟨n, hn⟩
    exact ⟨(n, l'), hn, rfl⟩

theorem grammar_fulfil {r : Request} (h : l.fulfil r = .ok l') : l'.grammar = l.grammar := by
  obtain ⟨given, _, n, hn⟩ := fulfil_eq_ok.mp h
  rw [← after_of_request hn, grammar_after]

/-- What every request keeps is kept by a list of requests that are all met. -/
theorem foldlM_fulfil_invariant {P : Layout → Prop}
    (step : ∀ l owner property given, P l → P (l.after owner property given))
    {rs : List Request} (hl : P l) (h : rs.foldlM fulfil l = .ok l') : P l' := by
  refine foldlM_invariant (fun m r m' hm hr => ?_) hl h
  obtain ⟨given, _, n, hn⟩ := fulfil_eq_ok.mp hr
  exact after_of_request hn ▸ step m _ _ given hm

theorem Reachable.invariant {g : Grammar} {P : Layout → Prop} (h : Reachable g l)
    (empty : P (Layout.empty g))
    (step : ∀ l owner property given, P l → P (l.after owner property given)) : P l := by
  induction h with
  | empty => exact empty
  | universal h => exact foldlM_fulfil_invariant step empty h
  | request _ owner property given ih => exact step _ owner property given ih

theorem reachable_of_plan {g : Grammar} {s : Schedule} (h : plan g s = .ok l) : Reachable g l :=
  foldlM_fulfil_invariant (P := Reachable g) (fun _ o p given hl => hl.request o p given) .empty h

theorem Indexed.after (h : l.Indexed) (owner : Owner) (property : String)
    (given : Option StorageType) : (l.after owner property given).Indexed := by
  rcases after_cases l owner property given with ha | ⟨type, name, ha⟩
  · rw [ha]
    exact h
  · rw [ha]
    exact h.add _

theorem Reachable.indexed {g : Grammar} (h : Reachable g l) : l.Indexed :=
  h.invariant (indexed_empty g) fun _ owner property given hl => hl.after owner property given

theorem Reachable.grammar_eq {g : Grammar} (h : Reachable g l) : l.grammar = g := by
  refine h.invariant (P := fun l => l.grammar = g) rfl ?_
  intro l owner property given hl
  rw [grammar_after, hl]

end Layout
end GrammarLayout
