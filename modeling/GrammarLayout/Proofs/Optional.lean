import GrammarLayout.Proofs.Built
import GrammarLayout.Proofs.Typing

/-!
# Optional values

A request without a type goes by a declaration: that of the owner or, where the owner has none,
that of its interface. Whether the value is optional is asked of the owner alone, so that a class
can be given a field by an optional declaration of its interface.
-/

namespace GrammarLayout.Layout

variable {g : Grammar} {l l' : Layout} {owner : Owner} {property : String} {n : Nat}

theorem present_iff_of_declared {d : Property} (hd : g.declared? owner property = .ok (some d)) :
    g.Present owner property ↔ (d.maybe = true → g.property owner property = .ok none) := by
  rcases Grammar.declared?_eq_ok_some.mp hd with hp | ⟨hp, _⟩
  · simp [Grammar.Present, hp]
  · simp [Grammar.Present, hp]

/-- What it takes for a request without a type to add a field. -/
theorem untyped_request_iff (hg : l.grammar = g) (ho : g.Knows owner)
    (hnone : l.find? owner property = .ok none) :
    (∃ n l', l.request owner property none = .ok (n, l')) ↔
      ∃ d type, g.declared? owner property = .ok (some d) ∧ StorageType.ofName d.type = .ok type ∧
        (d.maybe = true → g.property owner property = .ok none) := by
  subst hg
  constructor
  · rintro ⟨n, l', h⟩
    rcases request_cases h with ⟨hn, _⟩ | ⟨_, _, type, name, htype, _, hp, _⟩
    · cases hnone.symm.trans hn
    · obtain ⟨d, hd, hofName⟩ := Grammar.storageType_eq_ok_iff.mp htype
      exact ⟨d, type, hd, hofName, (present_iff_of_declared hd).mp hp⟩
  · rintro ⟨d, type, hd, hofName, hm⟩
    obtain ⟨name, hname⟩ := Grammar.ownerName_of_knows ho
    have htype : l.typeOf owner property none = .ok type :=
      Grammar.storageType_eq_ok_iff.mpr ⟨d, hd, hofName⟩
    exact ⟨_, _, request_of_missing hnone htype hname ((present_iff_of_declared hd).mpr hm)⟩

/-- An optional value is stored exactly where the owner does not declare the property itself and
its interface declares it as an optional value of a type that can be stored. -/
theorem optional_stored_iff (h : Reachable g l) (ho : g.Knows owner)
    (hnone : l.find? owner property = .ok none) :
    (∃ n l' d, l.request owner property none = .ok (n, l') ∧
        g.declared? owner property = .ok (some d) ∧ d.maybe = true) ↔
      g.property owner property = .ok none ∧
        ∃ id d type, g.interfaceOf owner = .ok (some id) ∧
          g.property (.ofInterface id) property = .ok (some d) ∧ d.maybe = true ∧
          StorageType.ofName d.type = .ok type := by
  have hadds := untyped_request_iff h.grammar_eq ho hnone
  constructor
  · rintro ⟨n, l', d, hr, hd, hm⟩
    obtain ⟨d', type, hd', hofName, hown⟩ := hadds.mp ⟨n, l', hr⟩
    obtain rfl : d = d' := Option.some.inj (Except.ok.inj (hd.symm.trans hd'))
    rcases Grammar.declared?_eq_ok_some.mp hd with hp | ⟨hp, id, hi, hinherited⟩
    · cases hp.symm.trans (hown hm)
    · exact ⟨hp, id, d, type, hi, hinherited, hm, hofName⟩
  · rintro ⟨hp, id, d, type, hi, hinherited, hm, hofName⟩
    have hd : g.declared? owner property = .ok (some d) :=
      Grammar.declared?_eq_ok_some.mpr (.inr ⟨hp, id, hi, hinherited⟩)
    obtain ⟨n, l', hr⟩ := hadds.mpr ⟨d, type, hd, hofName, fun _ => hp⟩
    exact ⟨n, l', d, hr, hd, hm⟩

def hinted : Grammar where
  interfaces := [{ name := "Node", attributes := .ofList [("hint", ⟨"int", true⟩)] }]
  classes := [⟨"Leaf", ⟨0⟩, .empty, .empty, .empty⟩]

theorem built_hinted : hinted.Built := Grammar.WellFormed.built (by decide)

theorem knows_hinted : hinted.Knows (.ofClass ⟨0⟩) := rfl

/-- The class gets a field for the hint of its interface. -/
theorem inherited_hint_stored : Reachable hinted (empty hinted) ∧
    (empty hinted).find? (.ofClass ⟨0⟩) "hint" = .ok none ∧
    ∃ n l' d, (empty hinted).request (.ofClass ⟨0⟩) "hint" none = .ok (n, l') ∧
      hinted.declared? (.ofClass ⟨0⟩) "hint" = .ok (some d) ∧ d.maybe = true := by
  have hnone : (empty hinted).find? (.ofClass ⟨0⟩) "hint" = .ok none := by decide +kernel
  have hint : hinted.property (.ofInterface ⟨0⟩) "hint" = .ok (some ⟨"int", true⟩) := by
    decide +kernel
  have htype : StorageType.ofName "int" = .ok .int := by decide +kernel
  exact ⟨.empty, hnone, (optional_stored_iff .empty knows_hinted hnone).mpr
    ⟨by decide +kernel, ⟨0⟩, _, .int, rfl, hint, rfl, htype⟩⟩

/-- A request without a type can store an optional value. -/
theorem not_all_stored_present :
    ¬ ∀ g l owner property n l', g.Built → Reachable g l → g.Knows owner →
      l.find? owner property = .ok none → l.request owner property none = .ok (n, l') →
      ∀ d, g.declared? owner property = .ok (some d) → d.maybe = false := by
  intro h
  have hnone : (empty hinted).find? (.ofClass ⟨0⟩) "hint" = .ok none := by decide +kernel
  have hd : hinted.declared? (.ofClass ⟨0⟩) "hint" = .ok (some ⟨"int", true⟩) := by decide +kernel
  have htype : StorageType.ofName "int" = .ok .int := by decide +kernel
  obtain ⟨n, l', hr⟩ := (untyped_request_iff rfl knows_hinted hnone).mpr
    ⟨_, .int, hd, htype, fun _ => by decide +kernel⟩
  cases h _ _ _ _ n l' built_hinted .empty knows_hinted hnone hr _ hd

end GrammarLayout.Layout
