import GrammarLayout.Proofs.Handles

/-!
# Grammars that grow

Declarations add to the ends of the lists of interfaces and classes and change nothing in them. So a
handle or a name that leads somewhere leads there for good, and what is asked of an owner that the
grammar knows is answered the same way ever after.
-/

namespace GrammarLayout

theorem findIdx?_name_eq_some_iff {α : Type} {name : α → String} {xs : List α}
    (h : (xs.map name).Nodup) {s : String} {n : Nat} :
    (xs.findIdx? fun x => name x = s) = some n ↔ ∃ x, xs[n]? = some x ∧ name x = s := by
  rw [List.findIdx?_eq_some_iff_getElem]
  constructor
  · rintro ⟨hn, hname, _⟩
    exact ⟨xs[n], List.getElem?_eq_getElem hn, by simpa using hname⟩
  · rintro ⟨x, hx, rfl⟩
    obtain ⟨hn, rfl⟩ := List.getElem?_eq_some_iff.mp hx
    refine ⟨hn, by simp, fun j hj => ?_⟩
    have hne : name xs[j] ≠ name xs[n] := by
      have hpairwise := List.pairwise_iff_getElem.mp (List.pairwise_map.mp h)
      exact hpairwise j n (by omega) hn hj
    simpa using hne

theorem findIdx?_of_prefix {α : Type} {p : α → Bool} {xs ys : List α} (h : xs <+: ys) {n : Nat}
    (hn : xs.findIdx? p = some n) : ys.findIdx? p = some n := by
  obtain ⟨zs, rfl⟩ := h
  rw [List.findIdx?_append, hn]
  rfl

theorem map_eq_ok_of_imp {ε α β : Type} {x y : Except ε α} {f : α → β} {b : β}
    (h : ∀ a, x = .ok a → y = .ok a) (hb : x.map f = .ok b) : y.map f = .ok b := by
  cases x with
  | error e => cases hb
  | ok a =>
    rw [h a rfl]
    exact hb

namespace Grammar

variable {g g' g'' : Grammar} {owner : Owner}

theorem interfaceByName?_eq_some_iff {name : String} {id : InterfaceId} :
    g.interfaceByName? name = some id ↔
      (g.interfaces.findIdx? fun i => i.name = name) = some id.index := by
  obtain ⟨n⟩ := id
  simp [interfaceByName?]

theorem classByName?_eq_some_iff {name : String} {id : ClassId} :
    g.classByName? name = some id ↔
      (g.classes.findIdx? fun c => c.name = name) = some id.index := by
  obtain ⟨n⟩ := id
  simp [classByName?]

/-- The second grammar begins with the interfaces and classes of the first. -/
structure Extends (g g' : Grammar) : Prop where
  interfaces : g.interfaces <+: g'.interfaces
  classes : g.classes <+: g'.classes

theorem Extends.refl (g : Grammar) : g.Extends g := ⟨List.prefix_rfl, List.prefix_rfl⟩

theorem Extends.trans (h : g.Extends g') (h' : g'.Extends g'') : g.Extends g'' :=
  ⟨h.interfaces.trans h'.interfaces, h.classes.trans h'.classes⟩

theorem extends_addInterface {i : Interface} {id : InterfaceId}
    (h : g.addInterface i = .ok (id, g')) : g.Extends g' := by
  obtain ⟨_, _, rfl⟩ := addInterface_eq_ok.mp h
  exact ⟨List.prefix_append _ _, List.prefix_rfl⟩

theorem extends_addClass {c : Class} {id : ClassId} (h : g.addClass c = .ok (id, g')) :
    g.Extends g' := by
  obtain ⟨_, _, _, rfl⟩ := addClass_eq_ok.mp h
  exact ⟨List.prefix_rfl, List.prefix_append _ _⟩

/-- A declaration only adds, and a refused one does nothing. -/
theorem extends_declare (g : Grammar) (d : Declaration) : g.Extends (g.declare d) := by
  cases d with
  | interface i =>
    rw [declare]
    split
    · next answer h =>
      obtain ⟨id, g'⟩ := answer
      exact extends_addInterface h
    · exact .refl g
  | ofClass c =>
    rw [declare]
    split
    · next answer h =>
      obtain ⟨id, g'⟩ := answer
      exact extends_addClass h
    · exact .refl g

theorem extends_declared (ds ds' : List Declaration) :
    (declared ds).Extends (declared (ds ++ ds')) := by
  induction ds' using List.reverseRecOn with
  | nil =>
    rw [List.append_nil]
    exact .refl _
  | append_singleton ds' d ih =>
    have hlast : declared (ds ++ (ds' ++ [d])) = (declared (ds ++ ds')).declare d := by
      rw [← List.append_assoc, declared, List.foldl_append]
      rfl
    rw [hlast]
    exact ih.trans (extends_declare _ d)

namespace Extends

variable (h : g.Extends g')
include h

theorem interface?_eq_some {id : InterfaceId} {i : Interface} (hi : g.interface? id = some i) :
    g'.interface? id = some i := by
  obtain ⟨hn, rfl⟩ := List.getElem?_eq_some_iff.mp hi
  exact List.prefix_iff_getElem?.mp h.interfaces _ hn

theorem class?_eq_some {id : ClassId} {c : Class} (hc : g.class? id = some c) :
    g'.class? id = some c := by
  obtain ⟨hn, rfl⟩ := List.getElem?_eq_some_iff.mp hc
  exact List.prefix_iff_getElem?.mp h.classes _ hn

theorem requireInterface_eq_ok {id : InterfaceId} (i : Interface)
    (hi : g.requireInterface id = .ok i) : g'.requireInterface id = .ok i := by
  rw [Grammar.requireInterface_eq_ok] at hi ⊢
  exact h.interface?_eq_some hi

theorem requireClass_eq_ok {id : ClassId} (c : Class) (hc : g.requireClass id = .ok c) :
    g'.requireClass id = .ok c := by
  rw [Grammar.requireClass_eq_ok] at hc ⊢
  exact h.class?_eq_some hc

theorem property_eq_ok {name : String} {d : Option Property} (hd : g.property owner name = .ok d) :
    g'.property owner name = .ok d := by
  cases owner with
  | universal => exact hd
  | ofInterface id => exact map_eq_ok_of_imp h.requireInterface_eq_ok hd
  | ofClass id => exact map_eq_ok_of_imp h.requireClass_eq_ok hd

theorem interfaceOf_eq_ok {id? : Option InterfaceId} (hi : g.interfaceOf owner = .ok id?) :
    g'.interfaceOf owner = .ok id? := by
  cases owner with
  | universal => exact hi
  | ofInterface id => exact hi
  | ofClass id => exact map_eq_ok_of_imp h.requireClass_eq_ok hi

theorem ownerName_eq_ok {name : Option String} (hn : g.ownerName owner = .ok name) :
    g'.ownerName owner = .ok name := by
  cases owner with
  | universal => exact hn
  | ofInterface id => exact map_eq_ok_of_imp h.requireInterface_eq_ok hn
  | ofClass id => exact map_eq_ok_of_imp h.requireClass_eq_ok hn

end Extends

end Grammar
end GrammarLayout
