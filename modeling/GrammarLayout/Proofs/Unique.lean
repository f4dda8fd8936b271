import GrammarLayout.Proofs.Planning

/-!
# One answer for each look-up

A class does not answer for its interface, so asking for the class first would leave two fields that
both answer for the class. Planning asks for all that interfaces own before anything that a class
owns, and then no look-up for an interface or a class has a second answer.
-/

namespace GrammarLayout

/-- Nothing that a class owns stands before something that an interface owns. -/
def ClassesLast (rs : List Request) : Prop :=
  rs.Pairwise fun r r' => ∀ k id, r.owner = .ofClass k → r'.owner ≠ .ofInterface id

/-- Where at most one element passes, the order does not matter for the first one that does. -/
theorem find?_eq_of_perm {α : Type} {p : α → Bool} {xs ys : List α} (h : xs.Perm ys)
    (hu : ∀ x ∈ xs, ∀ y ∈ xs, p x → p y → x = y) : xs.find? p = ys.find? p := by
  cases hx : xs.find? p with
  | none =>
    rw [List.find?_eq_none] at hx
    exact (List.find?_eq_none.mpr fun y hy => hx y (h.mem_iff.mpr hy)).symm
  | some x =>
    have hmem := List.mem_of_find?_eq_some hx
    have hpx := List.find?_some hx
    obtain ⟨y, hmem', hpy, hy⟩ := exists_first (h.mem_iff.mp hmem) hpx
    rw [hy, hu x hmem y (h.mem_iff.mpr hmem') hpx hpy]

namespace Layout

variable {g : Grammar} {s : Schedule} {l : Layout} {rs : List Request} {f f' : Field}
  {owner : Owner} {property : String}

theorem classesLast_requests (g : Grammar) (s : Schedule) : ClassesLast (requests g s) := by
  have hsplit : requests g s =
      (universalRequests ++ g.interfaceEntries.flatMap fun e => interfaceRequests e.1 e.2) ++
        ((g.classEntries.flatMap fun e => memberRequests e.1 e.2) ++
          (g.classEntries.flatMap fun e => linkRequests e.1 e.2) ++
          (g.classEntries.flatMap fun e => sinkRequests s e.1)) := by
    simp only [requests, List.append_assoc]
  have hfirst : ∀ r ∈ universalRequests ++
      g.interfaceEntries.flatMap fun e => interfaceRequests e.1 e.2, ∀ k, r.owner ≠ .ofClass k := by
    intro r hr k
    rcases List.mem_append.mp hr with hr | hr
    · simp [(of_mem_universalRequests hr).1]
    · obtain ⟨e, _, hr⟩ := List.mem_flatMap.mp hr
      simp [(of_mem_interfaceRequests hr).1]
  have hlast : ∀ r ∈ (g.classEntries.flatMap fun e => memberRequests e.1 e.2) ++
      (g.classEntries.flatMap fun e => linkRequests e.1 e.2) ++
      (g.classEntries.flatMap fun e => sinkRequests s e.1), ∀ id, r.owner ≠ .ofInterface id := by
    intro r hr id
    rcases List.mem_append.mp hr with hr | hr
    · rcases List.mem_append.mp hr with hr | hr
      · obtain ⟨e, _, hr⟩ := List.mem_flatMap.mp hr
        simp [(of_mem_memberRequests hr).1]
      · obtain ⟨e, _, hr⟩ := List.mem_flatMap.mp hr
        simp [(of_mem_linkRequests hr).1]
    · obtain ⟨e, _, hr⟩ := List.mem_flatMap.mp hr
      simp [(of_mem_sinkRequests hr).1]
  rw [hsplit]
  refine List.pairwise_append.mpr ⟨?_, ?_, ?_⟩
  · exact List.pairwise_of_forall_mem_list fun r hr _ _ k _ ho => absurd ho (hfirst r hr k)
  · exact List.pairwise_of_forall_mem_list fun _ _ r hr _ id _ => hlast r hr id
  · exact fun r hr _ _ k _ ho => absurd ho (hfirst r hr k)

namespace Follows

theorem owner_ne_ofInterface (h : Follows g rs l) (hl : ClassesLast rs) {i j : Nat} (hij : i < j)
    (hf : l.fields[i]? = some f) (hf' : l.fields[j]? = some f') {k : ClassId}
    (ho : f.owner = .ofClass k) (id : InterfaceId) : f'.owner ≠ .ofInterface id := by
  obtain ⟨r, r', hm, hm', hp⟩ := h.of_pairwise (hl.sublist (kept_sublist g rs)) hij hf hf'
  rw [hm'.owner]
  exact hp k id (hm.owner ▸ ho)

/-- Of two fields with one key, only one answers for an owner that is not universal. -/
theorem not_both_answer (h : Follows g rs l) (hl : ClassesLast rs) (ho : owner ≠ .universal)
    {i j : Nat} (hij : i < j) (hf : l.fields[i]? = some f) (hf' : l.fields[j]? = some f')
    (hk : f.key = f'.key) (ha : g.Answers f.owner owner) : ¬ g.Answers f'.owner owner := by
  intro ha'
  rcases ha.of_common ha' ho with ha | ⟨⟨k, hc⟩, id, hi⟩
  · exact h.not_answers hij hf hf' hk ha
  · exact h.owner_ne_ofInterface hl hij hf hf' hc id hi

theorem eq_of_answering (h : Follows g rs l) (hl : ClassesLast rs) (ho : owner ≠ .universal)
    {key : String} {i j : Nat} (hf : l.fields[i]? = some f) (hf' : l.fields[j]? = some f')
    (hk : f.key = key) (hk' : f'.key = key) (ha : g.Answers f.owner owner)
    (ha' : g.Answers f'.owner owner) : i = j := by
  rcases Nat.lt_trichotomy i j with hij | hij | hij
  · exact absurd ha' (h.not_both_answer hl ho hij hf hf' (hk.trans hk'.symm) ha)
  · exact hij
  · exact absurd ha (h.not_both_answer hl ho hij hf' hf (hk'.trans hk.symm) ha')

end Follows

theorem Indexed.key_of_mem (h : l.Indexed) {key : String} {i : Nat}
    (hi : i ∈ l.index.candidates key) (hf : l.fields[i]? = some f) : f.key = key := by
  rw [h key] at hi
  simpa [hf] using (List.mem_filter.mp hi).2

/-- At most one field of a plan answers for an interface or a class under a key, and looking at the
candidates in another order finds the same one. -/
theorem at_most_one_answer (h : plan g s = .ok l) (hk : g.Knows owner) (ho : owner ≠ .universal)
    (property : String) :
    (∀ (i j : Nat) (f f' : Field), l.fields[i]? = some f → l.fields[j]? = some f' →
      f.key = Naming.propertyKey property → f'.key = Naming.propertyKey property →
      g.Answers f.owner owner → g.Answers f'.owner owner → i = j) ∧
    ∀ positions : List Nat, positions.Perm (l.index.candidates (Naming.propertyKey property)) →
      firstMatch l.grammar l.fields owner positions = l.find? owner property := by
  have hfollows := follows_of_plan h
  have hlast := classesLast_requests g s
  refine ⟨fun i j f f' hf hf' hkey hkey' ha ha' =>
    hfollows.eq_of_answering hlast ho hf hf' hkey hkey' ha ha', ?_⟩
  intro positions hperm
  rw [Layout.find?, hfollows.grammar_eq, firstMatch_of_knows hk, firstMatch_of_knows hk]
  refine congrArg Except.ok (find?_eq_of_perm hperm ?_)
  intro i hi j hj hai haj
  obtain ⟨f, hf, ha⟩ := (Option.any_eq_true _ _).mp hai
  obtain ⟨f', hf', ha'⟩ := (Option.any_eq_true _ _).mp haj
  have hkey := hfollows.indexed.key_of_mem (hperm.mem_iff.mp hi) hf
  have hkey' := hfollows.indexed.key_of_mem (hperm.mem_iff.mp hj) hf'
  exact hfollows.eq_of_answering hlast ho hf hf' hkey hkey' (by simpa using ha) (by simpa using ha')

def siblings : Grammar where
  interfaces := [{ name := "Node" }]
  classes := [⟨"Leaf", ⟨0⟩, ⟨[("size", ⟨"int", false⟩)], by simp⟩, .empty, .empty⟩,
    ⟨"Branch", ⟨0⟩, ⟨[("Size", ⟨"float", false⟩)], by simp⟩, .empty, .empty⟩]

/-- Both fields are candidates, and trying the other one first does not change the answer. -/
theorem siblings_either_order : ∃ l, plan siblings .empty = .ok l ∧
    l.index.candidates "size" = [6, 7] ∧
    firstMatch l.grammar l.fields (.ofClass ⟨0⟩) [7, 6] = l.find? (.ofClass ⟨0⟩) "SIZE" := by
  obtain ⟨l, hl⟩ := exists_plan (g := siblings) (s := .empty) (by decide +kernel)
  have hkey : Naming.propertyKey "SIZE" = "size" := by decide +kernel
  have hcandidates : (plan siblings .empty).toOption.map
      (fun l => l.index.candidates "size") = some [6, 7] := by
    decide +kernel
  rw [hl] at hcandidates
  have hc : l.index.candidates "size" = [6, 7] := Option.some.inj hcandidates
  have hperm : [7, 6].Perm (l.index.candidates (Naming.propertyKey "SIZE")) := by
    rw [hkey, hc]
    exact List.Perm.swap 6 7 []
  have hknows : siblings.Knows (.ofClass ⟨0⟩) := rfl
  exact ⟨l, hl, hc, (at_most_one_answer hl hknows nofun "SIZE").2 [7, 6] hperm⟩

end Layout
end GrammarLayout
