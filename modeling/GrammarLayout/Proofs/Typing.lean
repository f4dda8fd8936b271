import GrammarLayout.Proofs.Request
import GrammarLayout.Proofs.RequestList

/-!
# The types of requested fields

A declaration gives a storage type if its type name stands for one. A class is typed by its own
declaration of a property and, only where it has none, by that of its interface.
-/

namespace GrammarLayout

theorem PlanError.ofForeign_bind_eq_ok {α β : Type} {x : Except ForeignHandle α}
    {k : α → Except PlanError β} {b : β} :
    (PlanError.ofForeign x >>= k) = .ok b ↔ ∃ a, x = .ok a ∧ k a = .ok b := by
  simp only [bind_eq_ok, PlanError.ofForeign_eq_ok]

namespace Grammar

variable {g : Grammar} {owner : Owner} {property : String} {type : StorageType}

def Declares (g : Grammar) (owner : Owner) (property : String) (type : StorageType) : Prop :=
  ∃ d, g.property owner property = .ok (some d) ∧ StorageType.ofName d.type = .ok type

/-- The owner declares the property, or does not and its interface does. -/
def Resolves (g : Grammar) (owner : Owner) (property : String) (type : StorageType) : Prop :=
  g.Declares owner property type ∨
    g.property owner property = .ok none ∧
      ∃ id, g.interfaceOf owner = .ok (some id) ∧ g.Declares (.ofInterface id) property type

/-- The type of a sink. One with a role takes it from the interface that the child must have. -/
def SinkHasType (g : Grammar) (id : ClassId) (sink : SinkRef) (type : StorageType) : Prop :=
  match sink with
  | .own property | .selfRef property => g.Resolves (.ofClass id) property type
  | .child role property => ∃ c i, g.class? id = some c ∧ c.child? role = some i ∧
      g.Declares (.ofInterface i) property type

theorem declared?_eq_ok_some {d : Property} :
    g.declared? owner property = .ok (some d) ↔
      g.property owner property = .ok (some d) ∨
        g.property owner property = .ok none ∧
          ∃ id, g.interfaceOf owner = .ok (some id) ∧
            g.property (.ofInterface id) property = .ok (some d) := by
  unfold declared?
  cases hp : g.property owner property with
  | error handle => simp [bind, Except.bind]
  | ok own =>
    cases own with
    | some d' => simp [bind, Except.bind, pure, Except.pure]
    | none =>
      cases hi : g.interfaceOf owner with
      | error handle => simp [bind, Except.bind]
      | ok id? => cases id? <;> simp [bind, Except.bind, pure, Except.pure]

theorem storageType_eq_ok_iff :
    g.storageType owner property = .ok type ↔
      ∃ d, g.declared? owner property = .ok (some d) ∧ StorageType.ofName d.type = .ok type := by
  unfold storageType
  rw [PlanError.ofForeign_bind_eq_ok]
  constructor
  · rintro ⟨declared, hd, h⟩
    cases declared with
    | none =>
      obtain ⟨_, _, h⟩ := bind_eq_ok.mp h
      obtain ⟨_, _, h⟩ := bind_eq_ok.mp h
      cases h
    | some d =>
      refine ⟨d, hd, ?_⟩
      cases ht : StorageType.ofName d.type with
      | ok t =>
        simp only [ht] at h
        cases h
        rfl
      | error reason =>
        simp only [ht] at h
        obtain ⟨_, _, h⟩ := bind_eq_ok.mp h
        cases h
  · rintro ⟨d, hd, ht⟩
    exact ⟨some d, hd, by simp only [ht]; rfl⟩

theorem storageType_eq_ok :
    g.storageType owner property = .ok type ↔ g.Resolves owner property type := by
  simp only [storageType_eq_ok_iff, declared?_eq_ok_some, Resolves, Declares]
  constructor
  · rintro ⟨d, h | ⟨hn, id, hi, h⟩, ht⟩
    · exact .inl ⟨d, h, ht⟩
    · exact .inr ⟨hn, id, hi, d, h, ht⟩
  · rintro (⟨d, h, ht⟩ | ⟨hn, id, hi, d, h, ht⟩)
    · exact ⟨d, .inl h, ht⟩
    · exact ⟨d, .inr ⟨hn, id, hi, h⟩, ht⟩

/-- What the owner declares itself decides alone. -/
theorem resolves_iff_declares {d : Property} (h : g.property owner property = .ok (some d)) :
    g.Resolves owner property type ↔ g.Declares owner property type := by
  simp [Resolves, h]

theorem resolves_ofInterface {id : InterfaceId} :
    g.Resolves (.ofInterface id) property type ↔ g.Declares (.ofInterface id) property type := by
  simp [Resolves, interfaceOf]

theorem sinkType_eq_ok {id : ClassId} {sink : SinkRef} :
    g.sinkType id sink = .ok type ↔ g.SinkHasType id sink type := by
  cases sink with
  | own property => exact storageType_eq_ok
  | selfRef property => exact storageType_eq_ok
  | child role property =>
    unfold sinkType SinkHasType
    rw [PlanError.ofForeign_bind_eq_ok]
    refine exists_congr fun c => ?_
    rw [requireClass_eq_ok]
    cases hc : c.child? role with
    | none => simp [throw, throwThe, MonadExceptOf.throw]
    | some i => simp [storageType_eq_ok, resolves_ofInterface]

end Grammar

def Request.HasType (g : Grammar) (r : Request) (type : StorageType) : Prop :=
  match r.origin with
  | .known given => type = given
  | .declared => g.Declares r.owner r.property type
  | .snapshot id sink => g.SinkHasType id sink type

theorem Grammar.Declares.unique {g : Grammar} {owner : Owner} {property : String}
    {t t' : StorageType} (h : g.Declares owner property t) (h' : g.Declares owner property t') :
    t = t' := by
  obtain ⟨d, hd, ht⟩ := h
  obtain ⟨d', hd', ht'⟩ := h'
  obtain rfl : d = d' := Option.some.inj (Except.ok.inj (hd.symm.trans hd'))
  exact Except.ok.inj (ht.symm.trans ht')

theorem Request.HasType.unique {g : Grammar} {r : Request} {t t' : StorageType}
    (h : r.HasType g t) (h' : r.HasType g t') : t = t' := by
  unfold Request.HasType at h h'
  cases ho : r.origin with
  | known given =>
    simp only [ho] at h h'
    exact h.trans h'.symm
  | declared =>
    simp only [ho] at h h'
    exact h.unique h'
  | snapshot id sink =>
    simp only [ho, ← Grammar.sinkType_eq_ok] at h h'
    exact Except.ok.inj (h.symm.trans h')

namespace Layout

variable {l : Layout} {r : Request}

theorem origin_of_universal {g : Grammar} {type : StorageType} (h : r ∈ universalRequests)
    (ht : r.HasType g type) : r.origin = .known type := by
  obtain ⟨_, given, _, ho⟩ := of_mem_universalRequests h
  simp only [Request.HasType, ho] at ht
  rw [ho, ht]

theorem exists_given?_iff {g : Grammar} :
    (∃ given, given? g r = .ok given) ↔
      ∀ id sink, r.origin = .snapshot id sink → ∃ type, g.SinkHasType id sink type := by
  unfold given?
  cases ho : r.origin with
  | known type => simp
  | declared => simp
  | snapshot id sink =>
    simp only [TypeOrigin.snapshot.injEq, ← Grammar.sinkType_eq_ok]
    cases ht : g.sinkType id sink with
    | ok type =>
      simp only [Except.map, Except.ok.injEq, exists_eq', true_iff]
      rintro _ _ ⟨rfl, rfl⟩
      exact ⟨type, ht⟩
    | error e =>
      simp only [Except.map, reduceCtorEq, exists_false, false_iff]
      intro h
      obtain ⟨type, h⟩ := h id sink ⟨rfl, rfl⟩
      rw [ht] at h
      cases h

/-- The type that a request comes with, or else that of the declaration, is the requested one. -/
theorem exists_typeOf_iff (type : StorageType)
    (hd : r.origin = .declared → ∃ d, l.grammar.property r.owner r.property = .ok (some d)) :
    (∃ given, given? l.grammar r = .ok given ∧ l.typeOf r.owner r.property given = .ok type) ↔
      r.HasType l.grammar type := by
  unfold given? Request.HasType
  cases ho : r.origin with
  | known given => simp [typeOf, eq_comm]
  | declared =>
    obtain ⟨d, hd⟩ := hd ho
    simp [typeOf, Grammar.storageType_eq_ok, Grammar.resolves_iff_declares hd]
  | snapshot id sink =>
    simp only [← Grammar.sinkType_eq_ok]
    cases l.grammar.sinkType id sink <;> simp [Except.map, typeOf]

end Layout
end GrammarLayout
