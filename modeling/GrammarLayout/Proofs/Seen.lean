import GrammarLayout.Proofs.RequestList

/-!
# What an owner sees

Whether a request is kept depends only on those before it that may answer for its owner. For a class
these are what is universal, what its interface declares, and its own. All other requests may come
and go, or change their places, and the owner keeps the same fields.
-/

namespace GrammarLayout

variable {g : Grammar} {rs : List Request} {r : Request} {owner source : Owner}

/-- Requests of the source may stand before those of the owner and answer for it. Before universal
requests there are only universal ones. -/
def Grammar.Sees (g : Grammar) (owner source : Owner) : Prop :=
  source = .universal ∨ owner ≠ .universal ∧ g.Answers source owner

instance (g : Grammar) (owner source : Owner) : Decidable (g.Sees owner source) :=
  inferInstanceAs (Decidable (_ ∨ _))

theorem Grammar.sees_self (g : Grammar) (owner : Owner) : g.Sees owner owner := by
  by_cases h : owner = .universal
  · exact .inl h
  · exact .inr ⟨h, g.answers_self owner⟩

def seen (g : Grammar) (owner : Owner) (rs : List Request) : List Request :=
  rs.filter fun r => g.Sees owner r.owner

def ownedBy (owner : Owner) (rs : List Request) : List Request := rs.filter fun r => r.owner = owner

theorem seen_append (rs rs' : List Request) :
    seen g owner (rs ++ rs') = seen g owner rs ++ seen g owner rs' :=
  List.filter_append rs rs'

theorem ownedBy_kept (h : UniversalFirst rs) (owner : Owner) :
    ownedBy owner (kept g rs) = ownedBy owner (kept g (seen g owner rs)) := by
  apply filter_kept
  · intro r ho
    rw [of_decide_eq_true ho]
    exact decide_eq_true (g.sees_self owner)
  · refine h.imp fun {r' r} hu ho hc => decide_eq_true ?_
    obtain rfl := of_decide_eq_true ho
    by_cases hr : r.owner = .universal
    · exact .inl (hu hr)
    · exact .inr ⟨hr, hc.2⟩

/-- Requests that are the same for every owner are the same up to their order. -/
theorem perm_of_ownedBy {rs' : List Request}
    (h : ∀ owner, ownedBy owner rs = ownedBy owner rs') : rs.Perm rs' := by
  rw [List.perm_iff_count]
  intro r
  have hcount : ∀ rs : List Request, (ownedBy r.owner rs).count r = rs.count r := fun rs =>
    List.count_filter (by simp)
  rw [← hcount rs, ← hcount rs', h]

theorem seen_of_owner (h : ∀ r ∈ rs, r.owner = source) :
    seen g owner rs = if g.Sees owner source then rs else [] := by
  split
  · next hs =>
    rw [seen, List.filter_eq_self]
    intro r hr
    rw [h r hr]
    exact decide_eq_true hs
  · next hs =>
    rw [seen, List.filter_eq_nil_iff]
    intro r hr
    rw [h r hr]
    simpa using hs

/-- With one entry under a handle, only that entry gives elements if the others give none. -/
theorem flatMap_entries {ι α β : Type} {xs : List (ι × α)} {id : ι} {a? : Option α}
    {f : ι × α → List β} (hmem : ∀ a, (id, a) ∈ xs ↔ a? = some a) (hnodup : (xs.map Prod.fst).Nodup)
    (hf : ∀ x ∈ xs, x.1 ≠ id → f x = []) :
    xs.flatMap f = a?.elim [] fun a => f (id, a) := by
  cases a? with
  | none =>
    rw [Option.elim_none, List.flatMap_eq_nil_iff]
    intro x hx
    apply hf x hx
    rintro rfl
    cases (hmem x.2).mp hx
  | some a =>
    obtain ⟨front, back, rfl⟩ := List.append_of_mem ((hmem a).mpr rfl)
    have hne : ∀ x ∈ front ++ back, x.1 ≠ id := by
      have hperm : ((front ++ (id, a) :: back).map Prod.fst).Perm
          (id :: (front ++ back).map Prod.fst) := List.perm_middle.map Prod.fst
      have hid := (List.nodup_cons.mp (hperm.nodup_iff.mp hnodup)).1
      intro x hx he
      exact hid (he ▸ List.mem_map_of_mem hx)
    have hnil : ∀ ys : List (ι × α), (∀ x ∈ ys, x ∈ front ++ back) → ys.flatMap f = [] := by
      intro ys hys
      rw [List.flatMap_eq_nil_iff]
      intro x hx
      refine hf x ?_ (hne x (hys x hx))
      rcases List.mem_append.mp (hys x hx) with hx | hx
      · exact List.mem_append_left _ hx
      · exact List.mem_append_right _ (List.mem_cons_of_mem _ hx)
    rw [List.flatMap_append, List.flatMap_cons, hnil front fun x => List.mem_append_left _,
      hnil back fun x => List.mem_append_right _, List.append_nil]
    rfl

namespace Layout

variable {s : Schedule}

def visible (g : Grammar) (s : Schedule) : Owner → List Request
  | .universal => universalRequests
  | .ofInterface id => universalRequests ++ (g.interface? id).elim [] (interfaceRequests id)
  | .ofClass id => universalRequests ++ (g.class? id).elim [] fun c =>
      (g.interface? c.interface).elim [] (interfaceRequests c.interface) ++
        memberRequests id c ++ linkRequests id c ++ sinkRequests s id

theorem seen_universalRequests (g : Grammar) (owner : Owner) :
    seen g owner universalRequests = universalRequests := by
  rw [seen_of_owner fun r hr => (of_mem_universalRequests hr).1, if_pos (.inl rfl)]

theorem nodup_interfaceEntries (g : Grammar) : (g.interfaceEntries.map Prod.fst).Nodup := by
  have hids : g.interfaceEntries.map Prod.fst =
      (g.interfaces.zipIdx.map Prod.snd).map InterfaceId.mk := by
    simp only [Grammar.interfaceEntries, List.map_map, Function.comp_def]
  rw [hids, List.zipIdx_map_snd]
  exact List.Nodup.map (fun a b h => InterfaceId.mk.inj h) List.nodup_range'

theorem nodup_classEntries (g : Grammar) : (g.classEntries.map Prod.fst).Nodup := by
  have hids : g.classEntries.map Prod.fst = (g.classes.zipIdx.map Prod.snd).map ClassId.mk := by
    simp only [Grammar.classEntries, List.map_map, Function.comp_def]
  rw [hids, List.zipIdx_map_snd]
  exact List.Nodup.map (fun a b h => ClassId.mk.inj h) List.nodup_range'

section Entries

variable {ι α : Type} {xs : List (ι × α)} {id : ι} {a? : Option α} {f : ι → α → List Request}
  {own : ι → Owner} (howner : ∀ i a, ∀ r ∈ f i a, r.owner = own i)
include howner

theorem seen_flatMap :
    seen g owner (xs.flatMap fun e => f e.1 e.2) =
      xs.flatMap fun e => if g.Sees owner (own e.1) then f e.1 e.2 else [] := by
  rw [seen, List.filter_flatMap]
  congr 1
  funext e
  exact seen_of_owner (howner e.1 e.2)

/-- Of blocks of requests with different owners, only that of one owner is seen. -/
theorem seen_entries (hmem : ∀ a, (id, a) ∈ xs ↔ a? = some a) (hnodup : (xs.map Prod.fst).Nodup)
    (h : ∀ j, g.Sees owner (own j) ↔ j = id) :
    seen g owner (xs.flatMap fun e => f e.1 e.2) = a?.elim [] (f id) := by
  rw [seen_flatMap howner, flatMap_entries hmem hnodup]
  · simp only [(h id).mpr rfl, if_true]
  · intro e _ hne
    rw [if_neg (mt (h e.1).mp hne)]

theorem seen_entries_none (h : ∀ j, ¬ g.Sees owner (own j)) :
    seen g owner (xs.flatMap fun e => f e.1 e.2) = [] := by
  rw [seen_flatMap howner, List.flatMap_eq_nil_iff]
  intro e _
  rw [if_neg (h e.1)]

end Entries

/-- Universal data are seen by all, what an interface declares by its classes, and all the rest by
its owner alone. -/
theorem seen_requests (g : Grammar) (s : Schedule) (owner : Owner) :
    seen g owner (requests g s) = visible g s owner := by
  have hi : ∀ id i, ∀ r ∈ interfaceRequests id i, r.owner = .ofInterface id :=
    fun _ _ _ hr => (of_mem_interfaceRequests hr).1
  have hm : ∀ id c, ∀ r ∈ memberRequests id c, r.owner = .ofClass id :=
    fun _ _ _ hr => (of_mem_memberRequests hr).1
  have hl : ∀ id c, ∀ r ∈ linkRequests id c, r.owner = .ofClass id :=
    fun _ _ _ hr => (of_mem_linkRequests hr).1
  have hs : ∀ id (_ : Class), ∀ r ∈ sinkRequests s id, r.owner = .ofClass id :=
    fun _ _ _ hr => (of_mem_sinkRequests hr).1
  simp only [requests, seen_append, seen_universalRequests]
  cases owner with
  | universal =>
    have hinterface : ∀ j, ¬ g.Sees .universal (.ofInterface j) := by simp [Grammar.Sees]
    have hclass : ∀ j, ¬ g.Sees .universal (.ofClass j) := by simp [Grammar.Sees]
    rw [seen_entries_none hi hinterface, seen_entries_none hm hclass, seen_entries_none hl hclass,
      seen_entries_none hs hclass]
    rfl
  | ofInterface id =>
    have hinterface : ∀ j, g.Sees (.ofInterface id) (.ofInterface j) ↔ j = id := by
      simp [Grammar.Sees, Grammar.answers_ofInterface]
    have hclass : ∀ j, ¬ g.Sees (.ofInterface id) (.ofClass j) := by
      simp [Grammar.Sees, Grammar.answers_ofInterface]
    rw [seen_entries hi (fun _ => g.mem_interfaceEntries) (nodup_interfaceEntries g) hinterface,
      seen_entries_none hm hclass, seen_entries_none hl hclass, seen_entries_none hs hclass]
    simp only [List.append_nil]
    rfl
  | ofClass id =>
    have hclass : ∀ j, g.Sees (.ofClass id) (.ofClass j) ↔ j = id := by
      simp [Grammar.Sees, Grammar.answers_iff]
    have hentries := nodup_classEntries g
    rw [seen_entries hm (fun _ => g.mem_classEntries) hentries hclass,
      seen_entries hl (fun _ => g.mem_classEntries) hentries hclass,
      seen_entries hs (fun _ => g.mem_classEntries) hentries hclass]
    cases hc : g.class? id with
    | none =>
      have hinterface : ∀ j, ¬ g.Sees (.ofClass id) (.ofInterface j) := by
        simp [Grammar.Sees, Grammar.answers_iff, Grammar.interfaceOf_eq_ok_some, hc]
      rw [seen_entries_none hi hinterface]
      simp [visible, hc]
    | some c =>
      have hinterface : ∀ j, g.Sees (.ofClass id) (.ofInterface j) ↔ j = c.interface := by
        simp [Grammar.Sees, Grammar.answers_ofClass hc]
      rw [seen_entries hi (fun _ => g.mem_interfaceEntries) (nodup_interfaceEntries g) hinterface]
      simp [visible, hc]

/-- What is kept for an owner, of all that a grammar and a schedule ask for. -/
theorem ownedBy_kept_requests (g : Grammar) (s : Schedule) (owner : Owner) :
    ownedBy owner (kept g (requests g s)) = ownedBy owner (kept g (visible g s owner)) := by
  rw [ownedBy_kept (universalFirst_requests g s), seen_requests]

end Layout
end GrammarLayout
