import GrammarLayout.Layout.Plan
import Mathlib.Tactic

/-!
# Owners that answer for one another

Whether a field answers a request depends on the two owners only. The relation is not transitive:
universal data answer for everyone and everyone answers for them, so two classes that have nothing
in common are both related to what is universal. It is transitive as long as nothing that is not
universal stands before something that is.
-/

namespace GrammarLayout
namespace Grammar

variable {g : Grammar} {a b c : Owner}

/-- The owner is universal or its handle belongs to the grammar. -/
def Knows (g : Grammar) : Owner → Prop
  | .universal => True
  | .ofInterface id => (g.interface? id).isSome
  | .ofClass id => (g.class? id).isSome

theorem knows_ofInterface {id : InterfaceId} {i : Interface} (h : g.interface? id = some i) :
    g.Knows (.ofInterface id) :=
  Option.isSome_iff_exists.mpr ⟨i, h⟩

theorem knows_ofClass {id : ClassId} {c : Class} (h : g.class? id = some c) :
    g.Knows (.ofClass id) :=
  Option.isSome_iff_exists.mpr ⟨c, h⟩

/-- A field of the first owner is taken as an answer to a request for the second. -/
def Answers (g : Grammar) (existing queried : Owner) : Prop :=
  g.ownersMatch existing queried = .ok true

instance (g : Grammar) (existing queried : Owner) : Decidable (g.Answers existing queried) :=
  inferInstanceAs (Decidable (_ = _))

theorem ownerName_of_knows (h : g.Knows a) : ∃ name, g.ownerName a = .ok name := by
  cases a with
  | universal => exact ⟨none, rfl⟩
  | ofInterface id =>
    obtain ⟨i, hi⟩ := Option.isSome_iff_exists.mp h
    exact ⟨some i.name, by simp [ownerName, (g.requireInterface_eq_ok).mpr hi, Except.map]⟩
  | ofClass id =>
    obtain ⟨c, hc⟩ := Option.isSome_iff_exists.mp h
    exact ⟨some c.name, by simp [ownerName, (g.requireClass_eq_ok).mpr hc, Except.map]⟩

theorem owner_of_ownerName_none (h : g.ownerName a = .ok none) : a = .universal := by
  cases a with
  | universal => rfl
  | ofInterface id => cases hi : g.requireInterface id <;> simp [ownerName, hi, Except.map] at h
  | ofClass id => cases hc : g.requireClass id <;> simp [ownerName, hc, Except.map] at h

theorem property_of_knows (h : g.Knows a) (name : String) :
    ∃ declared, g.property a name = .ok declared := by
  cases a with
  | universal => exact ⟨none, rfl⟩
  | ofInterface id =>
    obtain ⟨i, hi⟩ := Option.isSome_iff_exists.mp h
    exact ⟨i.property? name, by simp [property, (g.requireInterface_eq_ok).mpr hi, Except.map]⟩
  | ofClass id =>
    obtain ⟨c, hc⟩ := Option.isSome_iff_exists.mp h
    exact ⟨c.property? name, by simp [property, (g.requireClass_eq_ok).mpr hc, Except.map]⟩

theorem interfaceOf_of_knows (h : g.Knows a) : ∃ id?, g.interfaceOf a = .ok id? := by
  cases a with
  | universal => exact ⟨none, rfl⟩
  | ofInterface id => exact ⟨none, rfl⟩
  | ofClass id =>
    obtain ⟨c, hc⟩ := Option.isSome_iff_exists.mp h
    exact ⟨some c.interface, by simp [interfaceOf, (g.requireClass_eq_ok).mpr hc, Except.map]⟩

theorem ownersMatch_of_knows (h : g.Knows b) :
    g.ownersMatch a b = .ok (decide (g.Answers a b)) := by
  have hm : ∃ answer, g.ownersMatch a b = .ok answer := by
    unfold ownersMatch
    split
    · exact ⟨true, rfl⟩
    · split
      · obtain ⟨id?, hi⟩ := interfaceOf_of_knows h
        exact ⟨_, by rw [hi]; rfl⟩
      · exact ⟨false, rfl⟩
  obtain ⟨answer, hm⟩ := hm
  cases answer <;> simp [Answers, hm]

theorem interfaceOf_eq_ok_some {id : InterfaceId} :
    g.interfaceOf a = .ok (some id) ↔
      ∃ k c, a = .ofClass k ∧ g.class? k = some c ∧ c.interface = id := by
  cases a with
  | universal => simp [interfaceOf]
  | ofInterface j => simp [interfaceOf]
  | ofClass k =>
    cases hk : g.class? k with
    | none => simp [interfaceOf, requireClass, hk, Except.map]
    | some c => simp [interfaceOf, requireClass, hk, Except.map]

/-- The four ways to answer. -/
theorem answers_iff :
    g.Answers a b ↔ b = .universal ∨ a = .universal ∨ a = b ∨
      ∃ id, a = .ofInterface id ∧ g.interfaceOf b = .ok (some id) := by
  unfold Answers ownersMatch
  split
  · next h => simp only [true_iff]; tauto
  · next h =>
    have hu : b ≠ .universal ∧ a ≠ .universal ∧ a ≠ b := by tauto
    simp only [hu.1, hu.2.1, hu.2.2, false_or]
    cases a with
    | universal => exact absurd rfl hu.2.1
    | ofClass k => simp
    | ofInterface id => cases g.interfaceOf b <;> simp [Except.map]

theorem answers_universal (g : Grammar) (a : Owner) : g.Answers a .universal :=
  answers_iff.mpr (.inl rfl)

theorem universal_answers (g : Grammar) (a : Owner) : g.Answers .universal a :=
  answers_iff.mpr (.inr (.inl rfl))

theorem answers_self (g : Grammar) (a : Owner) : g.Answers a a :=
  answers_iff.mpr (.inr (.inr (.inl rfl)))

theorem answers_ofInterface {id : InterfaceId} :
    g.Answers a (.ofInterface id) ↔ a = .universal ∨ a = .ofInterface id := by
  simp [answers_iff, interfaceOf]

theorem answers_ofClass {k : ClassId} {c : Class} (h : g.class? k = some c) :
    g.Answers a (.ofClass k) ↔
      a = .universal ∨ a = .ofClass k ∨ a = .ofInterface c.interface := by
  have hi : g.interfaceOf (.ofClass k) = .ok (some c.interface) :=
    interfaceOf_eq_ok_some.mpr ⟨k, c, rfl, h, rfl⟩
  simp [answers_iff, hi]

/-- An owner in the middle can be left out, unless it is the only universal one. -/
theorem Answers.trans (hab : g.Answers a b) (hbc : g.Answers b c)
    (hu : b = .universal → a = .universal) : g.Answers a c := by
  rcases answers_iff.mp hbc with rfl | hb | rfl | ⟨id, rfl, hi⟩
  · exact answers_universal g a
  · rw [hu hb]
    exact universal_answers g c
  · exact hab
  · rcases answers_ofInterface.mp hab with rfl | rfl
    · exact universal_answers g _
    · exact hbc

/-- Of two owners that answer for one that is not universal, the first answers for the second,
unless it is a class and the second its interface. -/
theorem Answers.of_common (ha : g.Answers a c) (hb : g.Answers b c) (hc : c ≠ .universal) :
    g.Answers a b ∨ (∃ k, a = .ofClass k) ∧ ∃ id, b = .ofInterface id := by
  rcases answers_iff.mp hb with hu | rfl | rfl | ⟨id, rfl, hi⟩
  · exact absurd hu hc
  · exact .inl (answers_universal g a)
  · exact .inl ha
  · obtain ⟨k, _, rfl, _, _⟩ := interfaceOf_eq_ok_some.mp hi
    rcases answers_iff.mp ha with hu | rfl | rfl | ⟨id', rfl, hi'⟩
    · exact absurd hu hc
    · exact .inl (universal_answers g _)
    · exact .inr ⟨⟨k, rfl⟩, id, rfl⟩
    · rw [hi] at hi'
      cases hi'
      exact .inl (answers_self g _)

end Grammar
end GrammarLayout
