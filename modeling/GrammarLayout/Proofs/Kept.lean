import GrammarLayout.Proofs.Owners

/-!
# Requests that are kept

Of a list of requests those are kept that no earlier one answers. Since answering is not transitive
in general, an earlier request that was not kept itself might answer a request that no kept one
does; this cannot happen if requests for universal data come before all others.
-/

namespace GrammarLayout

theorem exists_first {α : Type} {p : α → Bool} {xs : List α} {x : α} (hx : x ∈ xs) (hp : p x) :
    ∃ y ∈ xs, p y ∧ xs.find? p = some y := by
  have hsome : (xs.find? p).isSome := by
    rw [List.find?_isSome]
    exact ⟨x, hx, hp⟩
  obtain ⟨y, hy⟩ := Option.isSome_iff_exists.mp hsome
  exact ⟨y, List.mem_of_find?_eq_some hy, List.find?_some hy, hy⟩

def Request.key (r : Request) : String := Naming.propertyKey r.property

namespace Grammar

variable {g : Grammar} {r : Request} {owner : Owner} {key : String}

/-- What the request asks for answers for the owner under the key. -/
def Covers (g : Grammar) (r : Request) (owner : Owner) (key : String) : Prop :=
  r.key = key ∧ g.Answers r.owner owner

instance (g : Grammar) (r : Request) (owner : Owner) (key : String) :
    Decidable (g.Covers r owner key) :=
  inferInstanceAs (Decidable (_ ∧ _))

theorem Covers.trans {r' : Request} (h : g.Covers r' r.owner r.key) (h' : g.Covers r owner key)
    (hu : r.owner = .universal → r'.owner = .universal) : g.Covers r' owner key :=
  ⟨h.1.trans h'.1, h.2.trans h'.2 hu⟩

def Covered (g : Grammar) (rs : List Request) (r : Request) : Prop :=
  ∃ r' ∈ rs, g.Covers r' r.owner r.key

instance (g : Grammar) (rs : List Request) (r : Request) : Decidable (g.Covered rs r) :=
  inferInstanceAs (Decidable (∃ r' ∈ rs, g.Covers r' r.owner r.key))

end Grammar

/-- Nothing that is not universal stands before something that is. -/
def UniversalFirst (rs : List Request) : Prop :=
  rs.Pairwise fun r r' => r'.owner = .universal → r.owner = .universal

/-- The requests that no earlier one answers, be that one kept or not. -/
def kept (g : Grammar) (rs : List Request) : List Request :=
  (rs.zipIdx.filter fun e => ¬ g.Covered (rs.take e.2) e.1).map Prod.fst

variable {g : Grammar} {rs : List Request} {r : Request}

@[simp] theorem kept_nil : kept g [] = [] := rfl

theorem kept_concat (g : Grammar) (rs : List Request) (r : Request) :
    kept g (rs ++ [r]) = kept g rs ++ if g.Covered rs r then [] else [r] := by
  have hold : (rs.zipIdx.filter fun e => ¬ g.Covered ((rs ++ [r]).take e.2) e.1) =
      rs.zipIdx.filter fun e => ¬ g.Covered (rs.take e.2) e.1 := by
    apply List.filter_congr
    intro e he
    rw [List.take_append_of_le_length (List.snd_lt_of_mem_zipIdx he).le]
  unfold kept
  rw [List.zipIdx_append, List.filter_append, List.map_append, hold, Nat.zero_add]
  congr 1
  by_cases h : g.Covered rs r <;> simp [h]

theorem kept_sublist (g : Grammar) (rs : List Request) : (kept g rs).Sublist rs := by
  have h : ((rs.zipIdx.filter fun e => ¬ g.Covered (rs.take e.2) e.1).map Prod.fst).Sublist
      (rs.zipIdx.map Prod.fst) :=
    List.filter_sublist.map Prod.fst
  rwa [List.zipIdx_map_fst] at h

theorem mem_of_mem_kept (h : r ∈ kept g rs) : r ∈ rs := (kept_sublist g rs).subset h

theorem kept_pairwise (g : Grammar) (rs : List Request) :
    (kept g rs).Pairwise fun r r' => ¬ g.Covers r r'.owner r'.key := by
  induction rs using List.reverseRecOn with
  | nil => simp
  | append_singleton rs r ih =>
    rw [kept_concat]
    split
    · simpa using ih
    · next h =>
      refine List.pairwise_append.mpr ⟨ih, by simp, ?_⟩
      intro r' hr' r'' hr''
      rw [List.mem_singleton.mp hr'']
      exact fun hc => h ⟨r', mem_of_mem_kept hr', hc⟩

/-- The first request that answers for an owner under a key is a kept one. -/
theorem find?_kept (h : UniversalFirst rs) (owner : Owner) (key : String) :
    (kept g rs).find? (fun r => g.Covers r owner key) =
      rs.find? fun r => g.Covers r owner key := by
  induction rs using List.reverseRecOn with
  | nil => rfl
  | append_singleton rs r ih =>
    obtain ⟨hrs, _, hlast⟩ := List.pairwise_append.mp h
    rw [kept_concat, List.find?_append, List.find?_append, ih hrs]
    split
    · next hc =>
      obtain ⟨r', hr', hc⟩ := hc
      cases hf : rs.find? fun r => g.Covers r owner key with
      | some first => simp
      | none =>
        -- If nothing before the last request answers, neither does what answers the last one.
        have hn : ¬ g.Covers r owner key := by
          intro ho
          have hr := List.find?_eq_none.mp hf r' hr'
          exact hr (by simpa using hc.trans ho (hlast r' hr' r (by simp)))
        simp [hn]
    · rfl

/-- To know which of some requests are kept, only those matter that may answer one of them. -/
theorem filter_kept {p q : Request → Bool} (hpq : ∀ r, p r → q r)
    (hq : rs.Pairwise fun r' r => p r → g.Covers r' r.owner r.key → q r') :
    (kept g rs).filter p = (kept g (rs.filter q)).filter p := by
  induction rs using List.reverseRecOn with
  | nil => rfl
  | append_singleton rs r ih =>
    obtain ⟨hrs, _, hlast⟩ := List.pairwise_append.mp hq
    rw [kept_concat, List.filter_append, ih hrs, List.filter_append]
    by_cases hp : p r
    · have hr : [r].filter q = [r] := by simp [hpq r hp]
      have hc : g.Covered (rs.filter q) r ↔ g.Covered rs r := by
        constructor
        · rintro ⟨r', hr', hc⟩
          exact ⟨r', List.mem_of_mem_filter hr', hc⟩
        · rintro ⟨r', hr', hc⟩
          exact ⟨r', List.mem_filter.mpr ⟨hr', hlast r' hr' r (by simp) hp hc⟩, hc⟩
      rw [hr, kept_concat, List.filter_append]
      simp only [hc]
    · -- Kept or not, the last request does not pass.
      have hnil : ∀ rs, (if g.Covered rs r then [] else [r]).filter p = [] := by
        intro rs
        split <;> simp [hp]
      rw [hnil, List.append_nil]
      by_cases hr : q r
      · rw [List.filter_cons_of_pos hr, List.filter_nil, kept_concat, List.filter_append, hnil,
          List.append_nil]
      · rw [List.filter_cons_of_neg hr, List.filter_nil, List.append_nil]

theorem kept_congr {g' : Grammar}
    (h : ∀ r ∈ rs, ∀ owner, g'.Answers owner r.owner ↔ g.Answers owner r.owner) :
    kept g' rs = kept g rs := by
  unfold kept
  congr 1
  apply List.filter_congr
  intro e he
  have hr := h e.1 (List.fst_mem_of_mem_zipIdx he)
  have hc : g'.Covered (rs.take e.2) e.1 ↔ g.Covered (rs.take e.2) e.1 :=
    exists_congr fun r => and_congr_right fun _ => and_congr_right fun _ => hr r.owner
  exact decide_eq_decide.mpr (not_congr hc)

end GrammarLayout
