import GrammarLayout.Proofs.Reordering

/-!
# Layouts in another order

The order of the declarations decides over the order of the fields and over their offsets, and over
nothing else. A field is told by its signature, which the request for it fixes. As the same requests
are kept, the same signatures come about, and the buffers count them.
-/

namespace GrammarLayout

/-- What a field is: for whom, by kind and name, and in which buffer, but not where in it. Fields of
exempt types are in no buffer. -/
structure Signature where
  owner : Except ForeignHandle NamedOwner
  property : String
  type : StorageType
  ident : String
  buffer : Option String
  deriving DecidableEq

def Layout.signature (l : Layout) (f : Field) : Signature :=
  ⟨l.grammar.named f.owner, f.property, f.type, f.ident, f.buffer?⟩

/-- The fields that the request asks for have this signature. -/
structure Request.Signs (g : Grammar) (r : Request) (σ : Signature) : Prop where
  known : g.Knows r.owner
  owner : σ.owner = g.named r.owner
  property : σ.property = r.property
  type : r.HasType g σ.type
  ident : ∃ name, g.ownerName r.owner = .ok name ∧
    σ.ident = Naming.fieldIdent name r.property σ.type
  buffer : σ.buffer = if σ.type.isExempt then none else some (Naming.bufferName σ.type)

variable {g g' : Grammar} {s s' : Schedule} {r : Request}

theorem Request.signs_rightUnique (g : Grammar) : Relator.RightUnique (Request.Signs g) := by
  intro r σ τ hσ hτ
  have htype := hσ.type.unique hτ.type
  obtain ⟨name, hname, hident⟩ := hσ.ident
  obtain ⟨name', hname', hident'⟩ := hτ.ident
  obtain rfl : name = name' := Except.ok.inj (hname.symm.trans hname')
  obtain ⟨owner, property, type, ident, buffer⟩ := σ
  obtain ⟨owner', property', type', ident', buffer'⟩ := τ
  obtain rfl : type = type' := htype
  obtain rfl : owner = owner' := hσ.owner.trans hτ.owner.symm
  obtain rfl : property = property' := hσ.property.trans hτ.property.symm
  obtain rfl : ident = ident' := hident.trans hident'.symm
  obtain rfl : buffer = buffer' := hσ.buffer.trans hτ.buffer.symm
  rfl

namespace Reordering

variable (ρ : Reordering g g')

theorem signs_iff {σ : Signature} : (ρ.request r).Signs g' σ ↔ r.Signs g σ := by
  constructor
  · rintro ⟨hk, ho, hp, ht, hi, hb⟩
    have hknown := ρ.knows_iff.mp hk
    refine ⟨hknown, ho.trans (ρ.named_eq hknown), hp, ρ.hasType_iff.mp ht, ?_, hb⟩
    simpa only [request, ρ.ownerName_eq_ok] using hi
  · rintro ⟨hk, ho, hp, ht, hi, hb⟩
    refine ⟨ρ.knows_iff.mpr hk, ho.trans (ρ.named_eq hk).symm, hp, ρ.hasType_iff.mpr ht, ?_, hb⟩
    simpa only [request, ρ.ownerName_eq_ok] using hi

end Reordering

namespace Layout

variable {l l' : Layout}

/-- The signatures of the fields are those that the kept requests ask for. -/
theorem signs_of_plan (h : plan g s = .ok l) :
    List.Forall₂ (Request.Signs g) (kept g (requests g s)) (l.fields.map l.signature) := by
  have hreachable := reachable_of_plan h
  have hgrammar := hreachable.grammar_eq
  obtain ⟨hlength, hmeets⟩ := List.forall₂_iff_zip.mp (follows_of_plan h).fields
  rw [List.forall₂_map_right_iff]
  refine List.forall₂_iff_zip.mpr ⟨hlength, ?_⟩
  intro r f hrf
  obtain ⟨hr, hf⟩ := List.of_mem_zip hrf
  have hm := hmeets hrf
  refine ⟨knows_of_mem_requests (mem_of_mem_kept hr), ?_, hm.property, hm.type, hm.ident,
    hreachable.holds.buffer?_eq hf⟩
  rw [signature, hm.owner, hgrammar]

theorem buffers_perm_of_signatures (h : l.buffers.Holds l.fields) (h' : l'.buffers.Holds l'.fields)
    (hperm : (l'.fields.map l'.signature).Perm (l.fields.map l.signature)) :
    l'.buffers.Perm l.buffers := by
  have hcount : ∀ t : StorageType, l'.fields.countP (fun f => f.type = t) =
      l.fields.countP (fun f => f.type = t) := by
    intro t
    have hp := hperm.countP_eq fun σ => σ.type = t
    rw [List.countP_map, List.countP_map] at hp
    exact hp
  apply (List.perm_ext_iff_of_nodup h'.elements_nodup.of_map h.elements_nodup.of_map).mpr
  intro b
  rw [h'.mem_iff, h.mem_iff, hcount]

/-- Interfaces and classes can be listed in any other order. Then as much can be planned as before,
and the fields and buffers are the same up to their order and the offsets. -/
theorem plan_of_reordering (g : Grammar) :
    (∀ is cs, g.interfaces.Perm is → g.classes.Perm cs →
      ∃ (σ : Equiv.Perm InterfaceId) (ρ : Reordering g ⟨is, cs.map (Class.rename σ)⟩),
        ρ.interface = σ) ∧
    ∀ (g' : Grammar) (ρ : Reordering g g') (s s' : Schedule), ρ.SameSinks s s' →
      ((∃ l', plan g' s' = .ok l') ↔ ∃ l, plan g s = .ok l) ∧
      ∀ l l', plan g s = .ok l → plan g' s' = .ok l' →
        (l'.fields.map l'.signature).Perm (l.fields.map l.signature) ∧
        l'.buffers.Perm l.buffers := by
  refine ⟨fun is cs => Reordering.exists_of_perm g, fun g' ρ s s' h => ⟨?_, ?_⟩⟩
  · rw [exists_plan_iff, exists_plan_iff, ρ.plannable_iff h]
  · intro l l' hl hl'
    have hperm : (l'.fields.map l'.signature).Perm (l.fields.map l.signature) := by
      obtain ⟨σs, hσs, hσs'⟩ :=
        List.perm_comp_forall₂ (ρ.kept_requests h).symm (signs_of_plan hl')
      rw [List.forall₂_map_left_iff] at hσs
      have hsigns := hσs.imp fun r σ => ρ.signs_iff.mp
      rw [List.right_unique_forall₂' (Request.signs_rightUnique g) (signs_of_plan hl) hsigns]
      exact hσs'.symm
    exact ⟨hperm, buffers_perm_of_signatures (reachable_of_plan hl).holds
      (reachable_of_plan hl').holds hperm⟩

def forward : Grammar where
  interfaces := [{ name := "Node", inputs := .ofList [("depth", ⟨"int", false⟩)] },
    { name := "Root" }]
  classes := [⟨"Leaf", ⟨0⟩, .ofList [("size", ⟨"int", false⟩)], .empty, .empty⟩,
    ⟨"Branch", ⟨1⟩, .ofList [("width", ⟨"int", false⟩)], .empty,
      .ofList [("part", ⟨0⟩)]⟩]

def forwardSinks : Schedule :=
  (Schedule.empty.insert ⟨0⟩ [.own "size"]).insert ⟨1⟩ [.child "part" "depth"]

def backward : Grammar where
  interfaces := [{ name := "Root" },
    { name := "Node", inputs := .ofList [("depth", ⟨"int", false⟩)] }]
  classes := [⟨"Branch", ⟨0⟩, .ofList [("width", ⟨"int", false⟩)], .empty,
      .ofList [("part", ⟨1⟩)]⟩,
    ⟨"Leaf", ⟨1⟩, .ofList [("size", ⟨"int", false⟩)], .empty, .empty⟩]

def backwardSinks : Schedule :=
  (Schedule.empty.insert ⟨0⟩ [.child "part" "depth"]).insert ⟨1⟩ [.own "size"]

def turned : Reordering forward backward where
  interface := Equiv.swap ⟨0⟩ ⟨1⟩
  ofClass := Equiv.swap ⟨0⟩ ⟨1⟩
  interface?_eq := by
    rintro ⟨_ | _ | n⟩
    · rfl
    · rfl
    · rw [Equiv.swap_apply_of_ne_of_ne (by simp) (by simp)]
      rfl
  class?_eq := by
    rintro ⟨_ | _ | n⟩
    · decide
    · decide
    · rw [Equiv.swap_apply_of_ne_of_ne (by simp) (by simp)]
      rfl

/-- Other fields come first and take the lower offsets, but they are the same fields. -/
theorem turned_same_fields :
    (∃ (σ : Equiv.Perm InterfaceId) (ρ : Reordering forward
        ⟨backward.interfaces, forward.classes.reverse.map (Class.rename σ)⟩), ρ.interface = σ) ∧
    ∃ l l', plan forward forwardSinks = .ok l ∧ plan backward backwardSinks = .ok l' ∧
      l.fields[7]?.map (fun f => (f.ident, f.offset?)) = some ("fld_leaf_size", some 1) ∧
      l'.fields[7]?.map (fun f => (f.ident, f.offset?)) = some ("fld_branch_width", some 1) ∧
      (l'.fields.map l'.signature).Perm (l.fields.map l.signature) ∧
      l'.buffers.Perm l.buffers := by
  obtain ⟨hlists, hplans⟩ := plan_of_reordering forward
  have hsinks : turned.SameSinks forwardSinks backwardSinks :=
    turned.sameSinks_of_perm (by decide)
  obtain ⟨hsuccess, hsame⟩ := hplans backward turned forwardSinks backwardSinks hsinks
  obtain ⟨l, hl⟩ := exists_plan (g := forward) (s := forwardSinks) (by decide +kernel)
  obtain ⟨l', hl'⟩ := hsuccess.mpr ⟨l, hl⟩
  have hfield : (plan forward forwardSinks).toOption.bind (fun l =>
      l.fields[7]?.map fun f => (f.ident, f.offset?)) = some ("fld_leaf_size", some 1) := by
    decide +kernel
  have hfield' : (plan backward backwardSinks).toOption.bind (fun l =>
      l.fields[7]?.map fun f => (f.ident, f.offset?)) = some ("fld_branch_width", some 1) := by
    decide +kernel
  rw [hl] at hfield
  rw [hl'] at hfield'
  refine ⟨hlists _ _ (by decide) (List.reverse_perm _).symm, l, l', hl, hl', hfield, hfield', ?_⟩
  exact hsame l l' hl hl'

end Layout
end GrammarLayout
