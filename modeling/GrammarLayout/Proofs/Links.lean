import GrammarLayout.Proofs.Built
import GrammarLayout.Proofs.Derived

/-!
# Links

A class has two links for each child role. Roles are told apart as they are spelled and links by
their keys, so roles that differ in case or in a separator only have their links in common. A
declaration under the key of a link keeps its own type and owner.
-/

namespace GrammarLayout
namespace Layout

open Naming (linkEndings roleKey propertyKey)

variable {g : Grammar} {s : Schedule} {l : Layout} {id : ClassId} {c : Class} {r : Request}
  {role e : String}

theorem mem_endings_of_link (he : e ∈ linkEndings) : e ∈ Naming.endings :=
  List.mem_append_left _ he

theorem exists_of_mem_linkRequests (h : r ∈ linkRequests id c) :
    ∃ role ∈ c.children.keys, ∃ e ∈ linkEndings, r.property = "child_" ++ role ++ e := by
  obtain ⟨role, hrole, h⟩ := List.mem_flatMap.mp h
  simp only [List.mem_cons, List.not_mem_nil, or_false] at h
  rcases h with rfl | rfl
  · exact ⟨role, hrole, "_leftmost_child", by decide, rfl⟩
  · exact ⟨role, hrole, "_count", by decide, rfl⟩

theorem mem_linkRequests_of_ending (id : ClassId) (hrole : role ∈ c.children.keys)
    (he : e ∈ linkEndings) :
    ⟨.ofClass id, "child_" ++ role ++ e, .known .nodeIndex⟩ ∈ linkRequests id c := by
  have hpair := mem_linkRequests id hrole
  simp only [linkEndings, List.mem_cons, List.not_mem_nil, or_false] at he
  rcases he with rfl | rfl
  · exact hpair.1
  · exact hpair.2

/-- Every link of a class is found. It is an index of nodes that the class owns, unless a
declaration under its key governs, and another link is the same field exactly if it has the same
ending and its role the same key. -/
theorem links_of_role (h : plan g s = .ok l) (hc : g.class? id = some c)
    (hrole : role ∈ c.children.keys) (he : e ∈ linkEndings) :
    ∃ f, l.field? (.ofClass id) ("child_" ++ role ++ e) = .ok (some f) ∧
      GovernedOr g (.ofClass id) (propertyKey ("child_" ++ role ++ e)) f
        (f.type = .nodeIndex ∧ f.owner = .ofClass id) ∧
      ∀ role' ∈ c.children.keys, ∀ e' ∈ linkEndings,
        (l.field? (.ofClass id) ("child_" ++ role' ++ e') = .ok (some f) ↔
          e' = e ∧ roleKey role' = roleKey role) := by
  obtain ⟨r, hmem, _, hr⟩ :=
    exists_first (p := fun r => r.key = propertyKey ("child_" ++ role ++ e))
      (mem_linkRequests_of_ending id hrole he) (by simp [Request.key])
  obtain ⟨howner, horigin⟩ := of_mem_linkRequests hmem
  have huniversal := Naming.universal_key_ne (mem_endings_of_link he) ("child_" ++ role)
  obtain ⟨f, hf, hgoverned⟩ :=
    exists_derived_field h hc huniversal (by rw [hr, Option.some_or])
  refine ⟨f, hf, hgoverned.imp fun hm => ⟨?_, hm.owner.trans howner⟩, ?_⟩
  · have htype := hm.type
    simpa only [Request.HasType, horigin] using htype
  · intro role' _ e' he'
    rw [derived_field_eq_iff h hc (mem_endings_of_link he) (mem_endings_of_link he') hf,
      Naming.propertyKey_child, Naming.propertyKey_child, String.append_right_inj]

def twoSided (fields : Properties) : Class :=
  ⟨"Branch", ⟨0⟩, fields, .empty, ⟨[("left", ⟨0⟩), ("LEFT", ⟨0⟩)], by simp⟩⟩

def sides (fields : Properties) : Grammar where
  interfaces := [{ name := "Node" }]
  classes := [twoSided fields]

def countDeclared : Properties := ⟨[("child_left_count", ⟨"int", false⟩)], by simp⟩

/-- The roles share the link to the leftmost child, and the declared property is the count of
both. -/
theorem sides_share_links : ∃ l f f', plan (sides countDeclared) .empty = .ok l ∧
    l.field? (.ofClass ⟨0⟩) "child_LEFT_leftmost_child" = .ok (some f) ∧
    f.type = .nodeIndex ∧ f.owner = .ofClass ⟨0⟩ ∧
    l.field? (.ofClass ⟨0⟩) "child_left_leftmost_child" = .ok (some f) ∧
    l.field? (.ofClass ⟨0⟩) "child_LEFT_count" = .ok (some f') ∧
    f'.property = "child_left_count" ∧ f'.type = .int := by
  obtain ⟨l, hl⟩ := exists_plan (g := sides countDeclared) (s := .empty) (by decide +kernel)
  have hc : (sides countDeclared).class? ⟨0⟩ = some (twoSided countDeclared) := rfl
  have hrole : "LEFT" ∈ (twoSided countDeclared).children.keys := by decide
  obtain ⟨f, hf, hgoverned, hshared⟩ :=
    links_of_role hl hc hrole (e := "_leftmost_child") (by decide)
  obtain ⟨f', hf', hgoverned', _⟩ := links_of_role hl hc hrole (e := "_count") (by decide)
  have hnone : (sides countDeclared).governing? (.ofClass ⟨0⟩)
      (propertyKey ("child_" ++ "LEFT" ++ "_leftmost_child")) = none := by
    decide +kernel
  have hsome : (sides countDeclared).governing? (.ofClass ⟨0⟩)
      (propertyKey ("child_" ++ "LEFT" ++ "_count")) =
        some (.ofClass ⟨0⟩, "child_left_count", ⟨"int", false⟩) := by
    decide +kernel
  have hint : StorageType.ofName "int" = .ok .int := by decide +kernel
  simp only [GovernedOr, hnone, hsome] at hgoverned hgoverned'
  obtain ⟨htype, howner⟩ := hgoverned
  obtain ⟨_, hproperty, hstored⟩ := hgoverned'
  refine ⟨l, f, f', hl, hf, htype, howner, ?_, hf', hproperty,
    Except.ok.inj (hstored.type.symm.trans hint)⟩
  exact (hshared "left" (by decide) "_leftmost_child" (by decide)).mpr ⟨rfl, by decide +kernel⟩

/-- Neither half holds of all roles: a declaration under the key of a link keeps its type, and roles
that differ in case share their links. -/
theorem not_all_links_apart :
    (¬ ∀ g s l, g.Built → s.Built → plan g s = .ok l → ∀ id c, g.class? id = some c →
      ∀ role ∈ c.children.keys, ∀ e ∈ linkEndings,
        ∃ f, l.field? (.ofClass id) ("child_" ++ role ++ e) = .ok (some f) ∧
          f.type = .nodeIndex ∧ f.owner = .ofClass id) ∧
    ¬ ∀ g s l, g.Built → s.Built → plan g s = .ok l → ∀ id c, g.class? id = some c →
      ∀ role ∈ c.children.keys, ∀ e ∈ linkEndings, ∀ role' ∈ c.children.keys, ∀ e' ∈ linkEndings,
        ¬ (role' = role ∧ e' = e) →
        ∃ f f', l.field? (.ofClass id) ("child_" ++ role ++ e) = .ok (some f) ∧
          l.field? (.ofClass id) ("child_" ++ role' ++ e') = .ok (some f') ∧ f ≠ f' := by
  constructor
  · intro h
    obtain ⟨l, f, hl, hf, hint⟩ : ∃ l f, plan (sides countDeclared) .empty = .ok l ∧
        l.field? (.ofClass ⟨0⟩) ("child_" ++ "left" ++ "_count") = .ok (some f) ∧ f.type = .int :=
      exists_field_of_type _ _ (by decide +kernel)
    obtain ⟨f', hf', htype, _⟩ :=
      h _ _ l (Grammar.WellFormed.built (by decide)) .empty hl ⟨0⟩ _ rfl "left" (by decide)
        "_count" (by decide)
    obtain rfl := Option.some.inj (Except.ok.inj (hf.symm.trans hf'))
    rw [htype] at hint
    cases hint
  · intro h
    obtain ⟨l, hl⟩ := exists_plan (g := sides .empty) (s := .empty) (by decide +kernel)
    obtain ⟨f, f', hf, hf', hne⟩ :=
      h _ _ l (Grammar.WellFormed.built (by decide)) .empty hl ⟨0⟩ _ rfl "left" (by decide)
        "_count" (by decide) "LEFT" (by decide) "_count" (by decide) (by decide)
    have hkey : propertyKey ("child_" ++ "left" ++ "_count") =
        propertyKey ("child_" ++ "LEFT" ++ "_count") := by
      decide +kernel
    rw [l.field?_congr _ hkey, hf'] at hf
    exact hne (Option.some.inj (Except.ok.inj hf)).symm

end Layout
end GrammarLayout
