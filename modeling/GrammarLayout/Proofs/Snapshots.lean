import GrammarLayout.Proofs.Links

/-!
# Snapshots

A class has two snapshots for each of its sinks, the first and the last value. They are named after
the stem of the sink, in which a role is set off by an underscore, and compared by their keys. Sinks
whose stems have one key share their snapshots, and the first of these sinks gives the type.
-/

namespace GrammarLayout

/-- What a reference denotes. The role `self` may as well be left away. -/
def SinkRef.datum : SinkRef → SinkRef
  | .selfRef property => .own property
  | sink => sink

namespace Layout

open Naming (endings linkEndings snapshotEndings propertyKey)

variable {g : Grammar} {s : Schedule} {l : Layout} {id : ClassId} {c : Class} {sink : SinkRef}
  {p e : String}

theorem mem_endings_of_snapshot (he : e ∈ snapshotEndings) : e ∈ endings :=
  List.mem_append_right _ he

theorem linkEnding_ne_snapshotEnding : ∀ e ∈ linkEndings, ∀ e' ∈ snapshotEndings, e ≠ e' := by
  decide

/-- Links never answer for snapshots. -/
theorem find?_linkRequests_of_snapshot (id : ClassId) (c : Class) (he : e ∈ snapshotEndings)
    (p : String) : (linkRequests id c).find? (fun r => r.key = propertyKey (p ++ e)) = none := by
  rw [List.find?_eq_none]
  intro r hr
  obtain ⟨role, _, e', he', hproperty⟩ := exists_of_mem_linkRequests hr
  rw [decide_eq_true_iff, Request.key, hproperty,
    Naming.propertyKey_append_eq_iff (mem_endings_of_link he') (mem_endings_of_snapshot he)]
  exact fun h => linkEnding_ne_snapshotEnding e' he' e he h.1

theorem find?_snapshots (id : ClassId) (sink : SinkRef) (he : e ∈ snapshotEndings) (p : String) :
    ([⟨.ofClass id, sink.stem ++ "_init", .snapshot id sink⟩,
        ⟨.ofClass id, sink.stem ++ "_last", .snapshot id sink⟩] : List Request).find?
        (fun r => r.key = propertyKey (p ++ e)) =
      if propertyKey sink.stem = propertyKey p then
        some ⟨.ofClass id, sink.stem ++ e, .snapshot id sink⟩
      else none := by
  have hkey : ∀ e' ∈ snapshotEndings,
      propertyKey (sink.stem ++ e') = propertyKey (p ++ e) ↔
        e' = e ∧ propertyKey sink.stem = propertyKey p := fun e' he' =>
    Naming.propertyKey_append_eq_iff (mem_endings_of_snapshot he') (mem_endings_of_snapshot he)
  have hinit := hkey "_init" (by decide)
  have hlast := hkey "_last" (by decide)
  simp only [List.find?_cons, List.find?_nil, Request.key, hinit, hlast]
  simp only [snapshotEndings, List.mem_cons, List.not_mem_nil, or_false] at he
  by_cases hstem : propertyKey sink.stem = propertyKey p
  · rcases he with rfl | rfl <;> simp [hstem]
  · simp [hstem]

/-- Of all snapshots of a class, those of the first sink whose stem has the key answer. -/
theorem find?_sinkRequests (id : ClassId) (he : e ∈ snapshotEndings) (p : String) :
    (sinkRequests s id).find? (fun r => r.key = propertyKey (p ++ e)) =
      ((s.sinks id).find? fun sink => propertyKey sink.stem = propertyKey p).map fun sink =>
        ⟨.ofClass id, sink.stem ++ e, .snapshot id sink⟩ := by
  unfold sinkRequests
  induction s.sinks id with
  | nil => rfl
  | cons sink sinks ih =>
    rw [List.flatMap_cons, List.find?_append, find?_snapshots id sink he, ih, List.find?_cons]
    by_cases hstem : propertyKey sink.stem = propertyKey p <;> simp [hstem]

/-- Every snapshot of a class is found. Unless a declaration under its key governs, the class owns
it and it has the type of the first sink whose stem has the key of this one's. Another snapshot is
the same field exactly if it has the same ending and its sink a stem with the same key. -/
theorem snapshots_of_sink (h : plan g s = .ok l) (hc : g.class? id = some c)
    (hs : sink ∈ s.sinks id) (he : e ∈ snapshotEndings) :
    ∃ f, l.field? (.ofClass id) (sink.stem ++ e) = .ok (some f) ∧
      GovernedOr g (.ofClass id) (propertyKey (sink.stem ++ e)) f
        (f.owner = .ofClass id ∧
          ∃ first, (s.sinks id).find? (fun sink' =>
              propertyKey sink'.stem = propertyKey sink.stem) = some first ∧
            g.SinkHasType id first f.type) ∧
      ∀ sink' ∈ s.sinks id, ∀ e' ∈ snapshotEndings,
        (l.field? (.ofClass id) (sink'.stem ++ e') = .ok (some f) ↔
          e' = e ∧ propertyKey sink'.stem = propertyKey sink.stem) := by
  obtain ⟨first, _, _, hfirst⟩ :=
    exists_first (p := fun sink' => propertyKey sink'.stem = propertyKey sink.stem) hs (by simp)
  have hends := mem_endings_of_snapshot he
  have huniversal := Naming.universal_key_ne hends sink.stem
  obtain ⟨f, hf, hgoverned⟩ := exists_derived_field h hc huniversal (by
    rw [find?_linkRequests_of_snapshot id c he, Option.none_or, find?_sinkRequests id he, hfirst,
      Option.map_some])
  refine ⟨f, hf, hgoverned.imp fun hm => ⟨hm.owner, first, hfirst, hm.type⟩, ?_⟩
  intro sink' _ e' he'
  exact derived_field_eq_iff h hc hends (mem_endings_of_snapshot he') hf

def leftSided (fields : Properties) : Class :=
  ⟨"Branch", ⟨0⟩, fields, .empty, ⟨[("left", ⟨0⟩)], by simp⟩⟩

def sharing (fields : Properties) : Grammar where
  interfaces := [{ name := "Node", attributes := ⟨[("sum", ⟨"int", false⟩)], by simp⟩ }]
  classes := [leftSided fields]

/-- The sinks are the property of the child and one that is named like its stem, up to case. -/
def sharingSinks : Schedule :=
  Schedule.empty.insert ⟨0⟩ [.child "left" "sum", .own "Left_sum"]

def ownSum : Properties := ⟨[("Left_sum", ⟨"float", false⟩)], by simp⟩

def ownSumAndLast : Properties :=
  ⟨[("Left_sum", ⟨"float", false⟩), ("left_sum_last", ⟨"double", false⟩)], by simp⟩

/-- The own sink has its first value in the field of the child's, which is an `int`, and its last
value in the declared field. -/
theorem sharing_snapshots : ∃ l f f', plan (sharing ownSumAndLast) sharingSinks = .ok l ∧
    l.field? (.ofClass ⟨0⟩) "Left_sum_init" = .ok (some f) ∧
    f.owner = .ofClass ⟨0⟩ ∧ f.type = .int ∧
    l.field? (.ofClass ⟨0⟩) "left_sum_init" = .ok (some f) ∧
    l.field? (.ofClass ⟨0⟩) "Left_sum_last" = .ok (some f') ∧
    f'.property = "left_sum_last" ∧ f'.type = .double := by
  obtain ⟨l, hl⟩ :=
    exists_plan (g := sharing ownSumAndLast) (s := sharingSinks) (by decide +kernel)
  have hc : (sharing ownSumAndLast).class? ⟨0⟩ = some (leftSided ownSumAndLast) := rfl
  have hown : SinkRef.own "Left_sum" ∈ sharingSinks.sinks ⟨0⟩ := by decide
  obtain ⟨f, hf, hgoverned, hshared⟩ := snapshots_of_sink hl hc hown (e := "_init") (by decide)
  obtain ⟨f', hf', hgoverned', _⟩ := snapshots_of_sink hl hc hown (e := "_last") (by decide)
  have hnone : (sharing ownSumAndLast).governing? (.ofClass ⟨0⟩)
      (propertyKey ("Left_sum" ++ "_init")) = none := by
    decide +kernel
  have hsome : (sharing ownSumAndLast).governing? (.ofClass ⟨0⟩)
      (propertyKey ("Left_sum" ++ "_last")) =
        some (.ofClass ⟨0⟩, "left_sum_last", ⟨"double", false⟩) := by
    decide +kernel
  have hchild : (sharingSinks.sinks ⟨0⟩).find? (fun sink =>
      propertyKey sink.stem = propertyKey "Left_sum") = some (.child "left" "sum") := by
    decide +kernel
  have hint : (sharing ownSumAndLast).sinkType ⟨0⟩ (.child "left" "sum") = .ok .int := by
    decide +kernel
  have hdouble : StorageType.ofName "double" = .ok .double := by decide +kernel
  simp only [GovernedOr, SinkRef.stem, hnone, hsome] at hgoverned hgoverned'
  obtain ⟨howner, first, hfirst, htype⟩ := hgoverned
  obtain ⟨_, hproperty, hstored⟩ := hgoverned'
  obtain rfl := Option.some.inj (hchild.symm.trans hfirst)
  rw [← Grammar.sinkType_eq_ok, hint] at htype
  refine ⟨l, f, f', hl, hf, howner, (Except.ok.inj htype).symm, ?_, hf', hproperty,
    Except.ok.inj (hstored.type.symm.trans hdouble)⟩
  exact (hshared (.child "left" "sum") (by decide) "_init" (by decide)).mpr
    ⟨rfl, by decide +kernel⟩

/-- Neither half holds of all sinks: a declaration under the key of a snapshot keeps its type, and
sinks whose stems differ in case share their snapshots. -/
theorem not_all_snapshots_apart :
    (¬ ∀ g s l, g.Built → s.Built → plan g s = .ok l → ∀ id c, g.class? id = some c →
      ∀ sink ∈ s.sinks id, ∀ e ∈ snapshotEndings,
        ∃ f, l.field? (.ofClass id) (sink.stem ++ e) = .ok (some f) ∧
          g.SinkHasType id sink f.type) ∧
    ¬ ∀ g s l, g.Built → s.Built → plan g s = .ok l → ∀ id c, g.class? id = some c →
      ∀ sink ∈ s.sinks id, ∀ e ∈ snapshotEndings, ∀ sink' ∈ s.sinks id, ∀ e' ∈ snapshotEndings,
        sink'.datum ≠ sink.datum ∨ e' ≠ e →
        ∃ f f', l.field? (.ofClass id) (sink.stem ++ e) = .ok (some f) ∧
          l.field? (.ofClass id) (sink'.stem ++ e') = .ok (some f') ∧ f ≠ f' := by
  have hs : sharingSinks.Built := .insert .empty _ _
  have hchild : SinkRef.child "left" "sum" ∈ sharingSinks.sinks ⟨0⟩ := by decide
  have hown : SinkRef.own "Left_sum" ∈ sharingSinks.sinks ⟨0⟩ := by decide
  constructor
  · intro h
    obtain ⟨l, f, hl, hf, hdouble⟩ : ∃ l f, plan (sharing ownSumAndLast) sharingSinks = .ok l ∧
        l.field? (.ofClass ⟨0⟩) (SinkRef.stem (.child "left" "sum") ++ "_last") = .ok (some f) ∧
          f.type = .double :=
      exists_field_of_type _ _ (by decide +kernel)
    obtain ⟨f', hf', htype⟩ :=
      h _ _ l (Grammar.WellFormed.built (by decide)) hs hl ⟨0⟩ _ rfl _ hchild "_last" (by decide)
    have hint : (sharing ownSumAndLast).sinkType ⟨0⟩ (.child "left" "sum") = .ok .int := by
      decide +kernel
    obtain rfl := Option.some.inj (Except.ok.inj (hf.symm.trans hf'))
    rw [← Grammar.sinkType_eq_ok, hint, hdouble] at htype
    cases htype
  · intro h
    obtain ⟨l, hl⟩ := exists_plan (g := sharing ownSum) (s := sharingSinks) (by decide +kernel)
    obtain ⟨f, f', hf, hf', hne⟩ :=
      h _ _ l (Grammar.WellFormed.built (by decide)) hs hl ⟨0⟩ _ rfl _ hchild "_init" (by decide)
        _ hown "_init" (by decide) (.inl (by decide))
    have hkey : propertyKey (SinkRef.stem (.child "left" "sum") ++ "_init") =
        propertyKey (SinkRef.stem (.own "Left_sum") ++ "_init") := by
      decide +kernel
    rw [l.field?_congr _ hkey, hf'] at hf
    exact hne (Option.some.inj (Except.ok.inj hf)).symm

end Layout
end GrammarLayout
