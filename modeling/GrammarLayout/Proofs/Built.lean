import GrammarLayout.Sink
import Mathlib.Tactic

/-!
# Grammars and schedules that are built

A grammar comes about by declaring one interface or class after the other. What can come about in
this way is told by the grammar itself: names are unique and handles belong to interfaces. A
schedule comes about by insertions.
-/

namespace GrammarLayout
namespace Grammar

variable {g g' : Grammar}

/-- Grammars that come about by declarations that are not refused. -/
inductive Built : Grammar → Prop
  | empty : Built .empty
  | addInterface {g g' : Grammar} {i : Interface} {id : InterfaceId} (h : Built g)
      (hi : g.addInterface i = .ok (id, g')) : Built g'
  | addClass {g g' : Grammar} {c : Class} {id : ClassId} (h : Built g)
      (hc : g.addClass c = .ok (id, g')) : Built g'

/-- The interface of the class and those of its children are among so many. -/
def HandlesBelow (n : Nat) (c : Class) : Prop :=
  ∀ id ∈ c.interface :: c.children.values, id.index < n

instance (n : Nat) (c : Class) : Decidable (HandlesBelow n c) :=
  inferInstanceAs (Decidable (∀ id ∈ _, _))

structure WellFormed (g : Grammar) : Prop where
  interfaces : (g.interfaces.map Interface.name).Nodup
  classes : (g.classes.map Class.name).Nodup
  handles : ∀ c ∈ g.classes, HandlesBelow g.interfaces.length c

instance (g : Grammar) : Decidable g.WellFormed :=
  decidable_of_iff (_ ∧ _ ∧ _) ⟨fun h => ⟨h.1, h.2.1, h.2.2⟩, fun h => ⟨h.1, h.2, h.3⟩⟩

theorem isSome_interfaceByName? (g : Grammar) (name : String) :
    (g.interfaceByName? name).isSome ↔ name ∈ g.interfaces.map Interface.name := by
  simp [interfaceByName?, List.findIdx?_isSome]

theorem isSome_classByName? (g : Grammar) (name : String) :
    (g.classByName? name).isSome ↔ name ∈ g.classes.map Class.name := by
  simp [classByName?, List.findIdx?_isSome]

theorem foreignInterface?_eq_none {c : Class} :
    g.foreignInterface? c = none ↔ HandlesBelow g.interfaces.length c := by
  simp [foreignInterface?, HandlesBelow, interface?, List.find?_eq_none]

theorem addInterface_eq_ok {i : Interface} {id : InterfaceId} :
    g.addInterface i = .ok (id, g') ↔
      i.name ∉ g.interfaces.map Interface.name ∧ id = ⟨g.interfaces.length⟩ ∧
        g' = { g with interfaces := g.interfaces ++ [i] } := by
  rw [← isSome_interfaceByName?]
  unfold addInterface
  constructor
  · intro h
    split at h
    · cases h
    · next hn =>
      cases h
      exact ⟨hn, rfl, rfl⟩
  · rintro ⟨hn, rfl, rfl⟩
    rw [if_neg hn]

theorem addClass_eq_ok {c : Class} {id : ClassId} :
    g.addClass c = .ok (id, g') ↔
      c.name ∉ g.classes.map Class.name ∧ HandlesBelow g.interfaces.length c ∧
        id = ⟨g.classes.length⟩ ∧ g' = { g with classes := g.classes ++ [c] } := by
  rw [← isSome_classByName?, ← foreignInterface?_eq_none]
  unfold addClass
  constructor
  · intro h
    split at h
    · cases h
    · next hn =>
      split at h
      · cases h
      · next hf =>
        cases h
        exact ⟨hn, hf, rfl, rfl⟩
  · rintro ⟨hn, hf, rfl, rfl⟩
    rw [if_neg hn, hf]

theorem nodup_names_concat {α : Type} {name : α → String} {xs : List α} {x : α} :
    ((xs ++ [x]).map name).Nodup ↔ (xs.map name).Nodup ∧ name x ∉ xs.map name := by
  rw [List.map_append, List.map_singleton, List.nodup_append_comm, List.singleton_append,
    List.nodup_cons, and_comm]

theorem Built.wellFormed (h : g.Built) : g.WellFormed := by
  induction h with
  | empty => exact ⟨List.nodup_nil, List.nodup_nil, by simp [Grammar.empty]⟩
  | addInterface _ hi ih =>
    obtain ⟨hnew, _, rfl⟩ := addInterface_eq_ok.mp hi
    refine ⟨nodup_names_concat.mpr ⟨ih.interfaces, hnew⟩, ih.classes, ?_⟩
    intro c hc id hid
    have hlt := ih.handles c hc id hid
    rw [List.length_append]
    omega
  | addClass _ hc ih =>
    obtain ⟨hnew, hhandles, _, rfl⟩ := addClass_eq_ok.mp hc
    refine ⟨ih.interfaces, nodup_names_concat.mpr ⟨ih.classes, hnew⟩, ?_⟩
    intro c' hc'
    rcases List.mem_append.mp hc' with hc' | hc'
    · exact ih.handles c' hc'
    · rw [List.mem_singleton.mp hc']
      exact hhandles

theorem built_interfaces {is : List Interface} (h : (is.map Interface.name).Nodup) :
    Built ⟨is, []⟩ := by
  induction is using List.reverseRecOn with
  | nil => exact .empty
  | append_singleton is i ih =>
    obtain ⟨his, hi⟩ := nodup_names_concat.mp h
    exact .addInterface (ih his) (addInterface_eq_ok.mpr ⟨hi, rfl, rfl⟩)

/-- All interfaces can be declared before all classes. -/
theorem WellFormed.built (h : g.WellFormed) : g.Built := by
  obtain ⟨is, cs⟩ := g
  induction cs using List.reverseRecOn with
  | nil => exact built_interfaces h.interfaces
  | append_singleton cs c ih =>
    obtain ⟨hcs, hnew⟩ := nodup_names_concat.mp h.classes
    have hbuilt : Built ⟨is, cs⟩ :=
      ih ⟨h.interfaces, hcs, fun c' hc' => h.handles c' (List.mem_append_left _ hc')⟩
    have hc : HandlesBelow is.length c := h.handles c (List.mem_append_right _ (by simp))
    exact .addClass hbuilt (addClass_eq_ok.mpr ⟨hnew, hc, rfl, rfl⟩)

/-- Whether a grammar can be built is a matter of its names and handles. -/
theorem built_iff_wellFormed : g.Built ↔ g.WellFormed := ⟨Built.wellFormed, WellFormed.built⟩

end Grammar

/-- Schedules that come about by insertions. -/
inductive Schedule.Built : Schedule → Prop
  | empty : Built .empty
  | insert {s : Schedule} (h : Built s) (id : ClassId) (sinks : List SinkRef) :
      Built (s.insert id sinks)

end GrammarLayout
