import GrammarLayout.Proofs.Declarations
import GrammarLayout.Proofs.Keys

/-!
# Data that a class has without declaring them

Links and snapshots are asked for after everything that is declared, links first. A name of theirs
is answered by a declaration under its key, if the class or its interface has one, and otherwise by
the first link or snapshot of the class under that key.
-/

namespace GrammarLayout
namespace Layout

/-- The field is that of the declaration that governs the key; where none does, it is as said. -/
def GovernedOr (g : Grammar) (owner : Owner) (key : String) (f : Field) (otherwise : Prop) : Prop :=
  match g.governing? owner key with
  | some v => f.owner = v.1 ∧ f.property = v.2.1 ∧ StoredAs v.2.2 f
  | none => otherwise

variable {g : Grammar} {s : Schedule} {l : Layout} {id : ClassId} {c : Class} {f : Field}
  {r : Request} {owner : Owner} {key property : String}

theorem GovernedOr.imp {p q : Prop} (h : GovernedOr g owner key f p) (hpq : p → q) :
    GovernedOr g owner key f q := by
  unfold GovernedOr at h ⊢
  split at h
  · exact h
  · exact hpq h

/-- Of what is asked for class by class, only the requests of a class itself can answer it. -/
theorem find?_classRequests (rs : ClassId → Class → List Request)
    (howner : ∀ id c, ∀ r ∈ rs id c, r.owner = .ofClass id) (hc : g.class? id = some c)
    (key : String) :
    (g.classEntries.flatMap fun e => rs e.1 e.2).find? (fun r => g.Covers r (.ofClass id) key) =
      (rs id c).find? fun r => r.key = key := by
  rw [List.find?_flatMap, findSome?_entries fun _ => g.mem_classEntries]
  · rw [hc, Option.bind_some]
    apply List.find?_congr
    intro r hr
    simp [Grammar.Covers, howner id c r hr, g.answers_self]
  · intro e _ hne
    refine find?_declared_eq_none (fun ha => hne ?_) _ (howner e.1 e.2)
    simpa [Grammar.answers_iff] using ha

/-- The first request that answers for a class: universal data, what is declared, links, and
snapshots, in this order. -/
theorem find?_requests_ofClass (hc : g.class? id = some c) (key : String) :
    (requests g s).find? (fun r => g.Covers r (.ofClass id) key) =
      (universalRequests.find? fun r => r.key = key).or
        (((g.governing? (.ofClass id) key).map ofDeclaration).or
          (((linkRequests id c).find? fun r => r.key = key).or
            ((sinkRequests s id).find? fun r => r.key = key))) := by
  have hinterface : ∀ j, g.Answers (.ofInterface j) (.ofClass id) ↔ j = c.interface := by
    simp [Grammar.answers_ofClass hc]
  have hlinks := find?_classRequests linkRequests
    (fun _ _ _ hr => (of_mem_linkRequests hr).1) hc key
  have hsinks := find?_classRequests (fun id _ => sinkRequests s id)
    (fun _ _ _ hr => (of_mem_sinkRequests hr).1) hc key
  simp only [requests, List.find?_append, find?_universalRequests,
    find?_interfaceRequests _ hinterface, find?_memberRequests, hlinks, hsinks,
    Grammar.governing?_ofClass hc, Option.map_or, Option.or_assoc]

section Plan

variable (h : plan g s = .ok l) (hc : g.class? id = some c)
include h hc

/-- What a class finds under a key that is no universal datum's, but a link's or a snapshot's. -/
theorem exists_derived_field (hu : ∀ r ∈ universalRequests, r.key ≠ Naming.propertyKey property)
    (hr : ((linkRequests id c).find? fun r => r.key = Naming.propertyKey property).or
      ((sinkRequests s id).find? fun r => r.key = Naming.propertyKey property) = some r) :
    ∃ f, l.field? (.ofClass id) property = .ok (some f) ∧
      GovernedOr g (.ofClass id) (Naming.propertyKey property) f (Meets g r f) := by
  have hw := wellPosed_requests g s
  have hk := Grammar.knows_ofClass hc
  have hnone : (universalRequests.find? fun r => r.key = Naming.propertyKey property) = none := by
    simpa [List.find?_eq_none] using hu
  have hfirst := find?_requests_ofClass (s := s) hc (Naming.propertyKey property)
  rw [hnone, Option.none_or, hr] at hfirst
  unfold GovernedOr
  cases hv : g.governing? (.ofClass id) (Naming.propertyKey property) with
  | some v =>
    rw [hv, Option.map_some, Option.some_or] at hfirst
    obtain ⟨f, hf, hm⟩ := (follows_of_plan h).field?_of_first hw hk hfirst
    rw [← find?_kept hw.universalFirst] at hfirst
    have hstored := storedAs_of_meets h (Grammar.property_of_governing hv).1
      (List.mem_of_find?_eq_some hfirst) hm
    exact ⟨f, hf, hm.owner, hm.property, hstored⟩
  | none =>
    rw [hv, Option.map_none, Option.none_or] at hfirst
    exact (follows_of_plan h).field?_of_first hw hk hfirst

/-- Names with endings lead a class to one field exactly if the endings are the same and what stands
before them has one key. -/
theorem derived_field_eq_iff {e e' p p' : String} (he : e ∈ Naming.endings)
    (he' : e' ∈ Naming.endings) (hf : l.field? (.ofClass id) (p ++ e) = .ok (some f)) :
    l.field? (.ofClass id) (p' ++ e') = .ok (some f) ↔
      e' = e ∧ Naming.propertyKey p' = Naming.propertyKey p := by
  have hl := follows_of_plan h
  have hk : l.grammar.Knows (.ofClass id) := by
    rw [hl.grammar_eq]
    exact Grammar.knows_ofClass hc
  rw [hl.indexed.field?_eq_iff hk hf, Naming.propertyKey_append_eq_iff he' he]

end Plan

end Layout
end GrammarLayout
