import GrammarLayout.Proofs.Effect
import GrammarLayout.Proofs.Handles
import GrammarLayout.Proofs.Registry.Scan
import GrammarLayout.Proofs.Typing

/-!
# What a request changes

A request of a known owner has one of three effects. A field answers it, and nothing changes; or
nothing answers, and one field is added; or there is a reason to refuse it, the first one that
applies is given, and nothing changes.
-/

namespace GrammarLayout

section Refusal

variable {g : Grammar} {owner : Owner} {property : String} {given : Option StorageType}

def HasTypeFor (g : Grammar) (owner : Owner) (property : String) (given : Option StorageType)
    (type : StorageType) : Prop :=
  given = some type ∨ given = none ∧ g.Resolves owner property type

/-- Why a request is refused that no field answers. Every reason leaves out the ones before it. -/
inductive Refusal (g : Grammar) (owner : Owner) (property : String) (given : Option StorageType) :
    PlanError → Prop
  /-- There is no type, and neither the owner nor its interface declares the property. -/
  | undeclared {named : NamedOwner} {interface : Option String} (hgiven : given = none)
      (hd : g.declared? owner property = .ok none) (hn : g.named owner = .ok named)
      (hi : g.interfaceName? owner = .ok interface) :
      Refusal g owner property given (.unresolvedProperty named interface property)
  /-- The declared type cannot be stored. -/
  | unsupported {named : NamedOwner} {d : Property} {reason : TypeError} (hgiven : given = none)
      (hd : g.declared? owner property = .ok (some d))
      (ht : StorageType.ofName d.type = .error reason) (hn : g.named owner = .ok named) :
      Refusal g owner property given (.unsupportedType named property d.type reason)
  /-- There is a type, and the owner itself declares the property as optional. -/
  | optional {type : StorageType} {d : Property} {name : Option String}
      (ht : HasTypeFor g owner property given type)
      (hd : g.property owner property = .ok (some d)) (hm : d.maybe = true)
      (hn : g.ownerName owner = .ok name) :
      Refusal g owner property given (.maybeValue (Naming.fieldIdent name property type))

theorem typeFor_eq_ok {type : StorageType} :
    g.typeFor owner property given = .ok type ↔ HasTypeFor g owner property given type := by
  unfold Grammar.typeFor HasTypeFor
  cases given with
  | some t => simp
  | none => simp [Grammar.storageType_eq_ok]

theorem HasTypeFor.unique {t t' : StorageType} (h : HasTypeFor g owner property given t)
    (h' : HasTypeFor g owner property given t') : t = t' :=
  Except.ok.inj ((typeFor_eq_ok.mpr h).symm.trans (typeFor_eq_ok.mpr h'))

theorem refusal_of_typeFor (hg : g.WellFormed) (ho : g.Knows owner) {e : PlanError}
    (h : g.typeFor owner property given = .error e) : Refusal g owner property given e := by
  cases given with
  | some type => cases h
  | none =>
    obtain ⟨declared, hd⟩ := hg.declared?_of_knows ho property
    obtain ⟨named, hn⟩ := Grammar.named_of_knows ho
    obtain ⟨interface, hi⟩ := hg.interfaceName?_of_knows ho
    rw [Grammar.typeFor, Grammar.storageType, hd, hn, hi] at h
    cases declared with
    | none =>
      cases h
      exact .undeclared rfl hd hn hi
    | some d =>
      cases ht : StorageType.ofName d.type with
      | ok type =>
        simp only [PlanError.ofForeign, bind, Except.bind, ht] at h
        cases h
      | error reason =>
        simp only [PlanError.ofForeign, bind, Except.bind, ht] at h
        cases h
        exact .unsupported rfl hd ht hn

/-- What a new field of a known owner is, or why there is none. -/
theorem draftFor_cases (hg : g.WellFormed) (ho : g.Knows owner) (property : String)
    (given : Option StorageType) :
    (∃ type name, g.draftFor owner property given = .ok (.named owner name property type) ∧
      HasTypeFor g owner property given type ∧ g.ownerName owner = .ok name ∧
      ∀ d, g.property owner property = .ok (some d) → d.maybe = false) ∨
    ∃ e, g.draftFor owner property given = .error e ∧ Refusal g owner property given e := by
  obtain ⟨name, hn⟩ := Grammar.ownerName_of_knows ho
  obtain ⟨declared, hd⟩ := Grammar.property_of_knows ho property
  unfold Grammar.draftFor
  rw [hn, hd]
  cases ht : g.typeFor owner property given with
  | error e => exact .inr ⟨e, rfl, refusal_of_typeFor hg ho ht⟩
  | ok type =>
    have htype := typeFor_eq_ok.mp ht
    dsimp only [PlanError.ofForeign, bind, Except.bind]
    cases hm : (declared.map Property.maybe).getD false with
    | true =>
      obtain ⟨d, rfl⟩ : ∃ d, declared = some d := by
        cases declared with
        | none => cases hm
        | some d => exact ⟨d, rfl⟩
      exact .inr ⟨_, rfl, .optional htype hd hm hn⟩
    | false =>
      refine .inl ⟨type, name, rfl, htype, rfl, ?_⟩
      rintro d hd'
      cases hd'
      exact hm

end Refusal

namespace Registry

variable {overflow : Overflow} {g : Grammar} {r : Registry} {owner : Owner} {property : String}
  {given : Option StorageType}

inductive Effect
  | found (id : FieldId)
  | added (type : StorageType)
  | refused (e : PlanError)
  deriving DecidableEq

/-- The effect is the one that a request has on a registry. -/
inductive Effect.Of (overflow : Overflow) (r : Registry) (owner : Owner) (property : String)
    (given : Option StorageType) : Effect → Prop
  /-- The first field that answers is taken, and everything stays. -/
  | found {id : FieldId} (hscan : r.scan? owner (Naming.propertyKey property) = some id.position)
      (hperform : r.perform overflow owner property given = (.ok id, r)) :
      Of overflow r owner property given (.found id)
  /-- No field answers and there is no reason to refuse, so that one field is added, under the
  number of fields that there were. -/
  | added {type : StorageType} {name : Option String} {f : Field} {id : FieldId} {r' : Registry}
      (hscan : r.scan? owner (Naming.propertyKey property) = none)
      (htype : HasTypeFor r.grammar owner property given type)
      (hpresent : ∀ d, r.grammar.property owner property = .ok (some d) → d.maybe = false)
      (hname : r.grammar.ownerName owner = .ok name)
      (hfield : f.toDraft = .named owner name property type)
      (hperform : r.perform overflow owner property given = (.ok id, r'))
      (hid : id.position = r.fields.length)
      (hgrown : Layout.Grown r.finish f.numbered r'.finish) :
      Of overflow r owner property given (.added type)
  /-- No field answers and there is a reason to refuse, so that everything stays. -/
  | refused {e : PlanError} (hscan : r.scan? owner (Naming.propertyKey property) = none)
      (hreason : Refusal r.grammar owner property given e)
      (hperform : r.perform overflow owner property given = (.error (.refused e), r)) :
      Of overflow r owner property given (.refused e)

theorem Effect.Of.unique {effect effect' : Effect}
    (h : effect.Of overflow r owner property given)
    (h' : effect'.Of overflow r owner property given) : effect = effect' := by
  cases h with
  | found hscan hperform =>
    cases h' with
    | found _ hperform' => cases hperform.symm.trans hperform'; rfl
    | added hscan' => cases hscan.symm.trans hscan'
    | refused hscan' => cases hscan.symm.trans hscan'
  | added hscan htype _ _ _ hperform =>
    cases h' with
    | found hscan' => cases hscan'.symm.trans hscan
    | added _ htype' => rw [htype.unique htype']
    | refused _ _ hperform' => cases hperform.symm.trans hperform'
  | refused hscan _ hperform =>
    cases h' with
    | found hscan' => cases hscan'.symm.trans hscan
    | added _ _ _ _ _ hperform' => cases hperform.symm.trans hperform'
    | refused _ _ hperform' => cases hperform.symm.trans hperform'; rfl

theorem Reachable.exists_effect (h : Reachable overflow g r) (hg : g.WellFormed)
    (hlt : r.fields.length + 1 < 2 ^ 32) (ho : g.Knows owner) (property : String)
    (given : Option StorageType) : ∃ effect : Effect, effect.Of overflow r owner property given := by
  obtain rfl := h.grammar_eq
  have hindexed := h.indexed (by omega)
  cases hscan : r.scan? owner (Naming.propertyKey property) with
  | some n =>
    have hlt' : n < r.fields.length := (List.findIdx?_eq_some_iff_getElem.mp hscan).1
    have hword := FieldId.position_ofPosition_of_lt (n := n) (by omega)
    exact ⟨.found (.ofPosition n), .found (by rw [hscan, hword])
      (perform_of_scan hindexed ho hscan overflow given)⟩
  | none =>
    have hnone : r.find? owner property = .ok none := by
      rw [find?_eq_scan hindexed ho, hscan]
      rfl
    rcases draftFor_cases hg ho property given with ⟨type, name, hd, htype, hname, hpresent⟩ |
      ⟨e, hd, hreason⟩
    · have hcounted := h.counted fun _ => by omega
      obtain ⟨f, hf, hplace, r', hperform, hfinish⟩ :=
        hcounted.perform_of_draft hlt hnone hd overflow
      have hgrown := (h.finish (by omega)).grown_add (.named owner name property type)
      rw [← hfinish, ← hplace] at hgrown
      exact ⟨.added type, .added hscan htype hpresent hname hf hperform
        (FieldId.position_ofPosition_of_lt (by omega)) hgrown⟩
    · have hrequest : r.finish.request owner property given = .error e := by
        simp [request_finish, hnone, hd]
      exact ⟨.refused e, .refused hscan hreason (perform_of_refused hrequest overflow)⟩

/-- A request of a known owner has exactly one of the three effects, if there are words left for one
more field. Whoever makes a request that fails, and also if a foreign handle stops it, the registry
stays as it is. -/
theorem one_effect (hg : g.Built) (h : Reachable overflow g r) :
    (r.fields.length + 1 < 2 ^ 32 → ∀ owner, g.Knows owner → ∀ property given,
      ∃! effect : Effect, effect.Of overflow r owner property given) ∧
    ∀ owner property given e, (r.perform overflow owner property given).1 = .error e →
      (r.perform overflow owner property given).2 = r := by
  constructor
  · intro hlt owner ho property given
    obtain ⟨effect, he⟩ := h.exists_effect hg.wellFormed hlt ho property given
    exact ⟨effect, he, fun _ he' => he'.unique he⟩
  · intro owner property given e he
    exact perform_of_error he

def picky : Grammar where
  interfaces := [{ name := "Node", attributes := .ofList [("total", ⟨"int", false⟩)] }]
  classes := [⟨"Leaf", ⟨0⟩, .ofList [("flag", ⟨"bool", true⟩), ("hint", ⟨"px", true⟩)],
    .empty, .empty⟩]

def pickySize : Registry := (empty picky).after .stops (.ofClass ⟨0⟩) "size" (some .int)

/-- The registry has the field asked for first. Of the next, the interface declares the type; the
others are refused, the second of them not for being optional. -/
theorem picky_effects :
    Reachable .stops picky pickySize ∧ pickySize.fields.length + 1 < 2 ^ 32 ∧
      (∀ property ∈ ["SIZE", "total", "gone", "flag", "hint"],
        ∃! effect : Effect, effect.Of .stops pickySize (.ofClass ⟨0⟩) property none) ∧
      ["SIZE", "total"].map (fun p => (pickySize.perform .stops (.ofClass ⟨0⟩) p none).1) =
        [.ok ⟨0⟩, .ok ⟨1⟩] ∧
      ["gone", "flag", "hint"].map
          (fun p => (pickySize.perform .stops (.ofClass ⟨0⟩) p none).1) =
        [.error (.refused (.unresolvedProperty (.ofClass "Leaf") (some "Node") "gone")),
          .error (.refused (.unsupportedType (.ofClass "Leaf") "flag" "bool" .boolean)),
          .error (.refused (.maybeValue "fld_leaf_hint"))] ∧
      (pickySize.perform .stops (.ofClass ⟨7⟩) "total" none).1 =
        .error (.refused (.foreign (.ofClass ⟨7⟩))) ∧
      (pickySize.perform .stops (.ofClass ⟨7⟩) "total" none).2 = pickySize := by
  have hreachable : Reachable .stops picky pickySize := Reachable.empty.request _ _ _
  have hlt : pickySize.fields.length + 1 < 2 ^ 32 := by decide +kernel
  have hbuilt : picky.Built := Grammar.WellFormed.built (by decide +kernel)
  have heffect := one_effect hbuilt hreachable
  have hforeign : (pickySize.perform .stops (.ofClass ⟨7⟩) "total" none).1 =
      .error (.refused (.foreign (.ofClass ⟨7⟩))) := by
    decide +kernel
  refine ⟨hreachable, hlt, ?_, by decide +kernel, by decide +kernel, hforeign,
    heffect.2 _ _ _ _ hforeign⟩
  intro property _
  exact heffect.1 hlt (.ofClass ⟨0⟩) rfl property none

end Registry
end GrammarLayout
