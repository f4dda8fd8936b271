import GrammarLayout.Proofs.CodeOrder
import GrammarLayout.Proofs.Identifiers

/-!
# The order in which fields are declared

One key sorts all fields, and exempt ones have the empty text for it. They come first because no
placed field of a plan has an empty identifier: its owner's name and its property may well have
nothing left when they are cleaned, but they are joined to a prefix that is never empty. The sort
keeps fields of one key in the order of their creation.
-/

namespace GrammarLayout

section Stable

variable {α : Type} {le : α → α → Bool}

theorem filter_mergeSort (htrans : ∀ a b c, le a b → le b c → le a c)
    (htotal : ∀ a b, le a b || le b a) {p : α → Bool} {xs : List α}
    (h : (xs.filter p).Pairwise fun a b => le a b) :
    (xs.mergeSort le).filter p = xs.filter p := by
  have hsub : (xs.filter p).Sublist (xs.mergeSort le) :=
    List.sublist_mergeSort htrans htotal h List.filter_sublist
  have hfilter : ((xs.filter p).filter p).Sublist ((xs.mergeSort le).filter p) := hsub.filter p
  simp only [List.filter_filter, Bool.and_self] at hfilter
  exact (hfilter.eq_of_length ((List.mergeSort_perm xs le).filter p).length_eq.symm).symm

end Stable

namespace Layout

variable {g : Grammar} {s : Schedule} {l : Layout} {f f' : Field}

theorem universalIdent_ne_empty : ∀ r ∈ universalRequests, universalIdent r ≠ "" := by
  decide +kernel

theorem Spelled.ident_ne_empty (h : Spelled g f) (ht : ¬ f.type.isExempt) : f.ident ≠ "" := by
  intro he
  cases h with
  | exempt _ ht' _ => exact ht ht'
  | universal r hr _ _ _ hi => exact universalIdent_ne_empty r hr (hi.symm.trans he)
  | owned n _ _ hi =>
    have hlist := Naming.toList_owned n f.property
    rw [← hi, he] at hlist
    cases hlist

theorem sortKey_of_exempt (h : l.buffers.Holds l.fields) (hf : f ∈ l.fields)
    (ht : f.type.isExempt) : sortKey f = "" := by
  rw [sortKey, (h.slot_eq_none_iff hf).mpr ht]

theorem sortKey_of_placed (h : l.buffers.Holds l.fields) (hf : f ∈ l.fields)
    (ht : ¬ f.type.isExempt) : sortKey f = f.ident := by
  obtain ⟨slot, hs⟩ := Option.ne_none_iff_exists'.mp (mt (h.slot_eq_none_iff hf).mp ht)
  rw [sortKey, hs]

/-- The order of the fields of a plan in the text that is generated. -/
structure DeclaredInOrder (fields sorted : List Field) : Prop where
  perm : sorted.Perm fields
  exempt_first : sorted.Pairwise fun f f' => f'.type.isExempt → f.type.isExempt
  /-- Exempt fields stay in the order of creation. -/
  exempt : sorted.filter (fun f => f.type.isExempt) = fields.filter fun f => f.type.isExempt
  /-- Placed fields are sorted by the code points of their identifiers. -/
  placed : sorted.Pairwise fun f f' => ¬ f.type.isExempt → ¬ f'.type.isExempt →
    Text.codePoints f.ident ≤ Text.codePoints f'.ident
  /-- Placed fields of one identifier stay in the order of creation. -/
  namesakes : ∀ ident, sorted.filter (fun f => ¬ f.type.isExempt ∧ f.ident = ident) =
    fields.filter fun f => ¬ f.type.isExempt ∧ f.ident = ident

theorem perm_sortedFields (l : Layout) : l.sortedFields.Perm l.fields :=
  List.mergeSort_perm _ _

/-- It makes no difference if keys are compared by their bytes. -/
theorem sortedFields_eq_by_bytes (l : Layout) : l.sortedFields =
    l.fields.mergeSort fun f f' => decide (Text.bytes (sortKey f) ≤ Text.bytes (sortKey f')) := by
  simp only [sortedFields, Text.bytes_le_iff]

theorem sortKey_trans (f f' f'' : Field) (h : decide (sortKey f ≤ sortKey f'))
    (h' : decide (sortKey f' ≤ sortKey f'')) : decide (sortKey f ≤ sortKey f'') :=
  decide_eq_true (String.le_trans (of_decide_eq_true h) (of_decide_eq_true h'))

theorem sortKey_total (f f' : Field) :
    decide (sortKey f ≤ sortKey f') || decide (sortKey f' ≤ sortKey f) := by
  simpa using String.le_total (sortKey f) (sortKey f')

theorem pairwise_sortKey (l : Layout) :
    l.sortedFields.Pairwise fun f f' => sortKey f ≤ sortKey f' := by
  have h : l.sortedFields.Pairwise fun f f' => decide (sortKey f ≤ sortKey f') :=
    List.pairwise_mergeSort sortKey_trans sortKey_total l.fields
  exact h.imp of_decide_eq_true

theorem filter_sortedFields {p : Field → Bool} {key : String}
    (h : ∀ f ∈ l.fields, p f → sortKey f = key) :
    l.sortedFields.filter p = l.fields.filter p := by
  apply filter_mergeSort sortKey_trans sortKey_total
  apply List.pairwise_of_forall_mem_list
  intro f hf f' hf'
  obtain ⟨hf, hp⟩ := List.mem_filter.mp hf
  obtain ⟨hf', hp'⟩ := List.mem_filter.mp hf'
  rw [h f hf hp, h f' hf' hp']
  exact decide_eq_true (String.le_refl key)

/-- The fields of a plan are declared with the exempt ones first and the others sorted. -/
theorem declared_in_order (h : plan g s = .ok l) : DeclaredInOrder l.fields l.sortedFields := by
  have hh : l.buffers.Holds l.fields := (reachable_of_plan h).holds
  have hmem : ∀ {f}, f ∈ l.sortedFields → f ∈ l.fields := (perm_sortedFields l).mem_iff.mp
  refine ⟨perm_sortedFields l, ?exempt_first, ?exempt, ?placed, ?namesakes⟩
  case exempt_first =>
    apply (pairwise_sortKey l).imp_of_mem
    intro f f' hf hf' hle ht'
    -- Before an exempt field there is no other, as its identifier would have to be empty.
    by_contra ht
    obtain ⟨i, hi⟩ := List.mem_iff_getElem?.mp (hmem hf)
    rw [sortKey_of_exempt hh (hmem hf') ht', sortKey_of_placed hh (hmem hf) ht] at hle
    exact (spelled_of_plan h hi).ident_ne_empty ht (Text.eq_empty_of_le hle)
  case exempt =>
    exact filter_sortedFields fun f hf ht => sortKey_of_exempt hh hf ht
  case placed =>
    apply (pairwise_sortKey l).imp_of_mem
    intro f f' hf hf' hle ht ht'
    rw [sortKey_of_placed hh (hmem hf) ht, sortKey_of_placed hh (hmem hf') ht'] at hle
    exact Text.codePoints_le_iff.mpr hle
  case namesakes =>
    intro ident
    have hkey : ∀ f ∈ l.fields, decide (¬ f.type.isExempt ∧ f.ident = ident) →
        sortKey f = ident := by
      intro f hf hp
      obtain ⟨ht, hi⟩ := of_decide_eq_true hp
      rw [sortKey_of_placed hh hf ht, hi]
    exact filter_sortedFields hkey

def bare : Grammar where
  interfaces := [{ name := "Node" }]
  classes := [⟨"- -", ⟨0⟩, ⟨[("-", ⟨"int", false⟩), ("zz", ⟨"vbo", false⟩),
    (" ", ⟨"float", false⟩), ("aa", ⟨"vbo", false⟩)], by simp⟩, .empty, .empty⟩]

theorem bare_in_order : bare.Built ∧ ∃ l, plan bare .empty = .ok l ∧
    l.fields.map (fun f => f.ident) = ["displayname", "refname", "right_siblings", "left_siblings",
      "parent", "id", "fld__", "zz", "fld__", "aa"] ∧
    DeclaredInOrder l.fields l.sortedFields := by
  obtain ⟨l, hl⟩ := exists_plan (g := bare) (s := .empty) (by decide +kernel)
  have hidents : (plan bare .empty).toOption.map (fun l => l.fields.map fun f => f.ident) =
      some ["displayname", "refname", "right_siblings", "left_siblings", "parent", "id", "fld__",
        "zz", "fld__", "aa"] := by
    decide +kernel
  rw [hl] at hidents
  exact ⟨Grammar.WellFormed.built (by decide), l, hl, Option.some.inj hidents,
    declared_in_order hl⟩

end Layout
end GrammarLayout
