import GrammarLayout.Proofs.Snapshots
import GrammarLayout.Proofs.Standing

/-!
# Sinks that are named again

A sink may be named more than once, with or without the role `self`. Its type and its stem are the
same each time, and the requests for its snapshots are answered from the first time on, so naming
it again neither fails nor adds a field.
-/

namespace GrammarLayout

/-- The sinks denote the same data, first named in the same order. -/
def SinkRef.SameData (sinks sinks' : List SinkRef) : Prop :=
  (sinks.map datum).eraseDups = (sinks'.map datum).eraseDups

instance (sinks sinks' : List SinkRef) : Decidable (SinkRef.SameData sinks sinks') :=
  inferInstanceAs (Decidable (_ = _))

namespace Layout

variable {g : Grammar} {s s' : Schedule} {l l' : Layout} {r : Request} {rs : List Request}
  {id : ClassId}

/-- A field answers the request, and the type that comes with it is no reason to fail. -/
structure Met (l : Layout) (r : Request) : Prop where
  given : ∃ given, given? l.grammar r = .ok given
  found : ∃ n, l.find? r.owner r.property = .ok (some n)

theorem Met.fulfil (h : l.Met r) : l.fulfil r = .ok l := by
  obtain ⟨given, hg⟩ := h.given
  obtain ⟨n, hn⟩ := h.found
  exact fulfil_eq_ok.mpr ⟨given, hg, n, request_of_found hn⟩

theorem met_of_fulfil (hl : l.Indexed) (h : l.fulfil r = .ok l') : l'.Met r := by
  obtain ⟨given, hg, n, hn⟩ := fulfil_eq_ok.mp h
  obtain ⟨f, hf⟩ := stands_of_request hl hn
  rw [← grammar_fulfil h] at hg
  exact ⟨⟨given, hg⟩, n, hf.find?⟩

theorem Met.after (h : l.Met r) (hl : l.Indexed) (owner : Owner) (property : String)
    (given : Option StorageType) : (l.after owner property given).Met r := by
  obtain ⟨n, hn⟩ := h.found
  obtain ⟨f, hf⟩ := exists_field_of_firstMatch hn
  refine ⟨?_, n, ((stands_of_find? hn hf).after hl owner property given).find?⟩
  rw [grammar_after]
  exact h.given

theorem indexed_foldlM (hl : l.Indexed) (h : rs.foldlM Layout.fulfil l = .ok l') : l'.Indexed :=
  foldlM_fulfil_invariant (P := Indexed)
    (fun _ owner property given hl => hl.after owner property given) hl h

theorem Met.foldlM (hm : l.Met r) (hl : l.Indexed) (h : rs.foldlM Layout.fulfil l = .ok l') :
    l'.Met r := by
  have hboth : l'.Indexed ∧ l'.Met r :=
    foldlM_fulfil_invariant (P := fun l => l.Indexed ∧ l.Met r)
      (fun _ owner property given ⟨hl, hm⟩ =>
        ⟨Indexed.after hl owner property given, hm.after hl owner property given⟩) ⟨hl, hm⟩ h
  exact hboth.2

theorem met_of_foldlM (hl : l.Indexed) (h : rs.foldlM Layout.fulfil l = .ok l') :
    ∀ r ∈ rs, l'.Met r := by
  induction rs generalizing l with
  | nil => simp
  | cons r rs ih =>
    rw [List.foldlM_cons] at h
    obtain ⟨m, hm, hrs⟩ := bind_eq_ok.mp h
    have hr : [r].foldlM Layout.fulfil l = .ok m := by simp [hm]
    have hindexed : m.Indexed := indexed_foldlM hl hr
    intro r' hr'
    rcases List.mem_cons.mp hr' with rfl | hr'
    · exact (met_of_fulfil hl hm).foldlM hindexed hrs
    · exact ih hindexed hrs r' hr'

theorem foldlM_of_met (h : ∀ r ∈ rs, l.Met r) : rs.foldlM Layout.fulfil l = .ok l := by
  induction rs with
  | nil => rfl
  | cons r rs ih =>
    have hr := (h r List.mem_cons_self).fulfil
    have hrs := ih fun r' hr' => h r' (List.mem_cons_of_mem r hr')
    rw [List.foldlM_cons, hr]
    exact hrs

/-- Where everything that is named gives rise to some requests, only the first time counts. -/
theorem foldlM_eraseDups {α : Type} [DecidableEq α] (hl : l.Indexed) (k : α → List Request)
    (xs : List α) :
    (xs.eraseDups.flatMap k).foldlM Layout.fulfil l = (xs.flatMap k).foldlM Layout.fulfil l := by
  induction xs using List.reverseRecOn with
  | nil => rfl
  | append_singleton xs x ih =>
    rw [eraseDups_concat, List.flatMap_append, List.flatMap_singleton, List.foldlM_append]
    split
    · next hx =>
      rw [ih]
      cases hxs : (xs.flatMap k).foldlM Layout.fulfil l with
      | error e => rfl
      | ok m =>
        -- The requests of `x` are among those that led to `m`.
        have hmet : ∀ r ∈ k x, m.Met r := fun r hr =>
          met_of_foldlM hl hxs r (List.mem_flatMap.mpr ⟨x, hx, hr⟩)
        exact (foldlM_of_met hmet).symm
    · rw [List.flatMap_append, List.flatMap_singleton, List.foldlM_append, ih]

def snapshotRequests (id : ClassId) (sink : SinkRef) : List Request := [
  ⟨.ofClass id, sink.stem ++ "_init", .snapshot id sink⟩,
  ⟨.ofClass id, sink.stem ++ "_last", .snapshot id sink⟩]

/-- The role `self` makes no difference to the snapshots of a sink. -/
theorem foldlM_snapshotRequests (l : Layout) (id : ClassId) (sink : SinkRef) :
    (snapshotRequests id sink).foldlM fulfil l =
      (snapshotRequests id sink.datum).foldlM fulfil l := by
  cases sink <;> rfl

theorem foldlM_sinkRequests (l : Layout) (s : Schedule) (id : ClassId) :
    (sinkRequests s id).foldlM fulfil l =
      (((s.sinks id).map SinkRef.datum).flatMap (snapshotRequests id)).foldlM fulfil l := by
  unfold sinkRequests
  induction s.sinks id generalizing l with
  | nil => rfl
  | cons sink sinks ih =>
    rw [List.flatMap_cons, List.map_cons, List.flatMap_cons, List.foldlM_append,
      List.foldlM_append, ← foldlM_snapshotRequests]
    exact bind_congr fun m => ih m

/-- Sinks that denote the same data lead to the same snapshots. -/
theorem foldlM_sinkRequests_congr (hl : l.Indexed)
    (h : SinkRef.SameData (s.sinks id) (s'.sinks id)) :
    (sinkRequests s id).foldlM fulfil l = (sinkRequests s' id).foldlM fulfil l := by
  rw [foldlM_sinkRequests, foldlM_sinkRequests, ← foldlM_eraseDups hl, h, foldlM_eraseDups hl]

theorem foldlM_sinks_congr {ids : List ClassId} (hl : l.Indexed)
    (h : ∀ id ∈ ids, SinkRef.SameData (s.sinks id) (s'.sinks id)) :
    (ids.flatMap (sinkRequests s)).foldlM fulfil l =
      (ids.flatMap (sinkRequests s')).foldlM fulfil l := by
  induction ids generalizing l with
  | nil => rfl
  | cons id ids ih =>
    rw [List.flatMap_cons, List.flatMap_cons, List.foldlM_append, List.foldlM_append,
      foldlM_sinkRequests_congr hl (h id List.mem_cons_self)]
    cases hm : (sinkRequests s' id).foldlM fulfil l with
    | error e => rfl
    | ok m =>
      exact ih (indexed_foldlM hl hm) fun id' hid' => h id' (List.mem_cons_of_mem id hid')

/-- Schedules whose sinks denote the same data for every class lead to the same layout, or fail in
the same way: neither the role `self` nor naming a sink again makes a difference. -/
theorem plan_of_same_data
    (h : ∀ id c, g.class? id = some c → SinkRef.SameData (s.sinks id) (s'.sinks id)) :
    plan g s = plan g s' := by
  -- Only the requests for snapshots depend on the schedule, and they come last.
  obtain ⟨rs, hrs⟩ : ∃ rs, ∀ s, requests g s =
      rs ++ (g.classEntries.map Prod.fst).flatMap (sinkRequests s) :=
    ⟨_, fun s => by
      rw [List.flatMap_map]
      rfl⟩
  rw [plan, plan, hrs, hrs, List.foldlM_append, List.foldlM_append]
  cases hl : rs.foldlM fulfil (empty g) with
  | error e => rfl
  | ok l =>
    apply foldlM_sinks_congr (indexed_foldlM (indexed_empty g) hl)
    intro id hid
    obtain ⟨⟨_, c⟩, he, rfl⟩ := List.mem_map.mp hid
    exact h _ c (Grammar.mem_classEntries.mp he)

def repeating : Schedule :=
  Schedule.empty.insert ⟨0⟩ [.selfRef "Left_sum", .child "left" "sum", .own "Left_sum"]

def naming : Schedule := Schedule.empty.insert ⟨0⟩ [.own "Left_sum", .child "left" "sum"]

/-- The schedules differ and the layouts do not. -/
theorem repeating_plans_alike : repeating ≠ naming ∧
    (∀ id c, (sharing ownSum).class? id = some c →
      SinkRef.SameData (repeating.sinks id) (naming.sinks id)) ∧
    ∃ l, plan (sharing ownSum) repeating = .ok l ∧ plan (sharing ownSum) naming = .ok l ∧
      l.fields.length = 12 := by
  have hentries : ∀ e ∈ (sharing ownSum).classEntries,
      SinkRef.SameData (repeating.sinks e.1) (naming.sinks e.1) := by
    decide +kernel
  have hsame : ∀ id c, (sharing ownSum).class? id = some c →
      SinkRef.SameData (repeating.sinks id) (naming.sinks id) :=
    fun id c hc => hentries (id, c) (Grammar.mem_classEntries.mpr hc)
  obtain ⟨l, hl⟩ := exists_plan (g := sharing ownSum) (s := naming) (by decide +kernel)
  have hlength : (plan (sharing ownSum) naming).toOption.map (fun l => l.fields.length) =
      some 12 := by
    decide +kernel
  rw [hl] at hlength
  exact ⟨by decide +kernel, hsame, l, (plan_of_same_data hsame).trans hl, hl, Option.some.inj hlength⟩

end Layout
end GrammarLayout
