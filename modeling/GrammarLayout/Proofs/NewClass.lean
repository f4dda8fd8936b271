import GrammarLayout.Proofs.Extension
import GrammarLayout.Proofs.Planning

/-!
# One more class

What a new class asks for comes in between what the others ask for. None of it is seen by another
owner, so without it the same requests are kept as before the class was declared, and their fields
are the same but for the offsets.
-/

namespace GrammarLayout

/-- Where two lists correspond to a third one, what corresponds to the same element compares. -/
theorem map_eq_of_forall₂ {α β γ δ : Type} {R : α → β → Prop} {S : α → γ → Prop} {f : β → δ}
    {k : γ → δ} {xs : List α} {ys : List β} {zs : List γ} (h : List.Forall₂ R xs ys)
    (h' : List.Forall₂ S xs zs) (hfk : ∀ x ∈ xs, ∀ y z, R x y → S x z → f y = k z) :
    ys.map f = zs.map k := by
  induction h generalizing zs with
  | nil =>
    cases h'
    rfl
  | @cons x y xs ys hxy _ ih =>
    cases h' with
    | @cons _ z _ zs hxz hzs =>
      have htail := ih hzs fun x' hx' => hfk x' (List.mem_cons_of_mem x hx')
      rw [List.map_cons, List.map_cons, hfk x List.mem_cons_self y z hxy hxz, htail]

namespace Grammar.Extends

variable {g g' : Grammar} {owner : Owner} {name : String} {type : StorageType} (h : g.Extends g')
include h

theorem property_eq (ho : g.Knows owner) (name : String) :
    g'.property owner name = g.property owner name := by
  obtain ⟨d, hd⟩ := property_of_knows ho name
  rw [hd, h.property_eq_ok hd]

theorem interfaceOf_eq (ho : g.Knows owner) : g'.interfaceOf owner = g.interfaceOf owner := by
  obtain ⟨id?, hi⟩ := interfaceOf_of_knows ho
  rw [hi, h.interfaceOf_eq_ok hi]

theorem answers_iff (ho : g.Knows owner) (existing : Owner) :
    g'.Answers existing owner ↔ g.Answers existing owner := by
  rw [Grammar.answers_iff, Grammar.answers_iff, h.interfaceOf_eq ho]

theorem declares_iff (ho : g.Knows owner) :
    g'.Declares owner name type ↔ g.Declares owner name type := by
  rw [Declares, Declares, h.property_eq ho]

theorem resolves_iff (hg : g.WellFormed) (ho : g.Knows owner) :
    g'.Resolves owner name type ↔ g.Resolves owner name type := by
  have hinterface : (∃ id, g.interfaceOf owner = .ok (some id) ∧
        g'.Declares (.ofInterface id) name type) ↔
      ∃ id, g.interfaceOf owner = .ok (some id) ∧ g.Declares (.ofInterface id) name type :=
    exists_congr fun _ => and_congr_right fun hi => h.declares_iff (hg.knows_interfaceOf hi)
  rw [Resolves, Resolves, h.declares_iff ho, h.property_eq ho, h.interfaceOf_eq ho, hinterface]

theorem sinkHasType_iff (hg : g.WellFormed) {id : ClassId} {c : Class}
    (hc : g.class? id = some c) {sink : SinkRef} :
    g'.SinkHasType id sink type ↔ g.SinkHasType id sink type := by
  cases sink with
  | own property => exact h.resolves_iff hg (knows_ofClass hc)
  | selfRef property => exact h.resolves_iff hg (knows_ofClass hc)
  | child role property =>
    unfold SinkHasType
    rw [hc, h.class?_eq_some hc]
    refine exists_congr fun c' => exists_congr fun i => and_congr_right fun hc' =>
      and_congr_right fun hi => ?_
    obtain rfl := Option.some.inj hc'
    exact h.declares_iff (hg.knows_child hc hi)

theorem hasType_iff (hg : g.WellFormed) {r : Request} (hr : r.Known g) :
    r.HasType g' type ↔ r.HasType g type := by
  unfold Request.HasType
  cases ho : r.origin with
  | known given => rfl
  | declared => exact h.declares_iff hr.owner
  | snapshot id sink =>
    obtain ⟨c, hc⟩ := hr.snapshot id sink ho
    exact h.sinkHasType_iff hg hc

theorem present_iff (ho : g.Knows owner) : g'.Present owner name ↔ g.Present owner name := by
  rw [Present, Present, h.property_eq ho]

end Grammar.Extends

namespace Layout

variable {g g' : Grammar} {d : Class} {id : ClassId} {s s' : Schedule} {rs : List Request}

def others (id : ClassId) (rs : List Request) : List Request :=
  rs.filter fun r => r.owner ≠ .ofClass id

theorem others_append (rs rs' : List Request) :
    others id (rs ++ rs') = others id rs ++ others id rs' :=
  List.filter_append rs rs'

theorem others_eq_self (h : ∀ r ∈ rs, r.owner ≠ .ofClass id) : others id rs = rs := by
  rw [others, List.filter_eq_self]
  intro r hr
  exact decide_eq_true (h r hr)

theorem others_eq_nil (h : ∀ r ∈ rs, r.owner = .ofClass id) : others id rs = [] := by
  rw [others, List.filter_eq_nil_iff]
  intro r hr
  simpa using h r hr

theorem classEntries_concat (is : List Interface) (cs : List Class) (d : Class) :
    Grammar.classEntries ⟨is, cs ++ [d]⟩ = Grammar.classEntries ⟨is, cs⟩ ++ [(⟨cs.length⟩, d)] := by
  simp [Grammar.classEntries, List.zipIdx_append]

theorem ne_of_mem_classEntries {is : List Interface} {cs : List Class} {e : ClassId × Class}
    (h : e ∈ Grammar.classEntries ⟨is, cs⟩) : e.1 ≠ ⟨cs.length⟩ := by
  obtain ⟨k, c⟩ := e
  have hc := Grammar.mem_classEntries.mp h
  rintro rfl
  simp [Grammar.class?] at hc

theorem others_classRequests (is : List Interface) (cs : List Class) (d : Class)
    (f f' : ClassId → Class → List Request)
    (howner : ∀ id c, ∀ r ∈ f' id c, r.owner = .ofClass id)
    (hf : ∀ id c, id ≠ ⟨cs.length⟩ → f' id c = f id c) :
    others ⟨cs.length⟩
        ((Grammar.classEntries ⟨is, cs ++ [d]⟩).flatMap fun e => f' e.1 e.2) =
      (Grammar.classEntries ⟨is, cs⟩).flatMap fun e => f e.1 e.2 := by
  have hsame : ((Grammar.classEntries ⟨is, cs⟩).flatMap fun e => f' e.1 e.2) =
      (Grammar.classEntries ⟨is, cs⟩).flatMap fun e => f e.1 e.2 :=
    List.flatMap_congr fun e he => hf e.1 e.2 (ne_of_mem_classEntries he)
  rw [classEntries_concat, List.flatMap_append, others_append, List.flatMap_singleton,
    others_eq_nil (howner _ d), List.append_nil, ← hsame, others_eq_self]
  intro r hr
  obtain ⟨e, he, hr⟩ := List.mem_flatMap.mp hr
  rw [howner e.1 e.2 r hr]
  simpa using ne_of_mem_classEntries he

theorem others_requests (hd : g.addClass d = .ok (id, g'))
    (hs : ∀ k, k ≠ id → s'.sinks k = s.sinks k) :
    others id (requests g' s') = requests g s := by
  obtain ⟨_, _, rfl, rfl⟩ := Grammar.addClass_eq_ok.mp hd
  obtain ⟨is, cs⟩ := g
  have huniversal : others ⟨cs.length⟩ universalRequests = universalRequests := by
    apply others_eq_self
    intro r hr
    rw [(of_mem_universalRequests hr).1]
    exact nofun
  have hinterfaces : others ⟨cs.length⟩ ((Grammar.interfaceEntries ⟨is, cs⟩).flatMap fun e =>
      interfaceRequests e.1 e.2) = (Grammar.interfaceEntries ⟨is, cs⟩).flatMap fun e =>
      interfaceRequests e.1 e.2 := by
    apply others_eq_self
    intro r hr
    obtain ⟨e, _, hr⟩ := List.mem_flatMap.mp hr
    rw [(of_mem_interfaceRequests hr).1]
    exact nofun
  have hmembers := others_classRequests is cs d memberRequests memberRequests
    (fun _ _ _ hr => (of_mem_memberRequests hr).1) fun _ _ _ => rfl
  have hlinks := others_classRequests is cs d linkRequests linkRequests
    (fun _ _ _ hr => (of_mem_linkRequests hr).1) fun _ _ _ => rfl
  have hsinks := others_classRequests is cs d
    (fun id _ => sinkRequests s id) (fun id _ => sinkRequests s' id)
    (fun _ _ _ hr => (of_mem_sinkRequests hr).1) fun k _ hk => by
      simp only [sinkRequests, hs k hk]
  simp only [requests, others_append]
  rw [huniversal, hmembers, hlinks, hsinks]
  exact congrArg (universalRequests ++ · ++ _ ++ _ ++ _) hinterfaces

theorem others_kept (hd : g.addClass d = .ok (id, g'))
    (hs : ∀ k, k ≠ id → s'.sinks k = s.sinks k) :
    others id (kept g' (requests g' s')) = kept g (requests g s) := by
  have hblind : (requests g' s').Pairwise fun r' r => decide (r.owner ≠ .ofClass id) →
      g'.Covers r' r.owner r.key → decide (r'.owner ≠ .ofClass id) := by
    refine (universalFirst_requests g' s').imp fun {r' r} hu ho hc => decide_eq_true ?_
    -- The class answers for itself and for universal data, and these are asked for before it.
    intro hr'
    have hanswers := hc.2
    rw [hr', Grammar.answers_iff] at hanswers
    rcases hanswers with hr | hr | hr | ⟨i, hi, _⟩
    · rw [hu hr] at hr'
      cases hr'
    · cases hr
    · exact of_decide_eq_true ho hr.symm
    · cases hi
  have hfilter := filter_kept (g := g') (fun _ h => h) hblind
  have hall : ∀ r ∈ kept g' (requests g s), r.owner ≠ .ofClass id := by
    intro r hr
    rw [← others_requests hd hs] at hr
    exact of_decide_eq_true (List.mem_filter.mp (mem_of_mem_kept hr)).2
  calc others id (kept g' (requests g' s'))
      = others id (kept g' (others id (requests g' s'))) := hfilter
    _ = kept g' (requests g s) := by rw [others_requests hd hs, others_eq_self hall]
    _ = kept g (requests g s) := kept_congr fun r hr =>
      (Grammar.extends_addClass hd).answers_iff (knows_of_mem_requests hr)

theorem mem_kept_of_others (hd : g.addClass d = .ok (id, g'))
    (hs : ∀ k, k ≠ id → s'.sinks k = s.sinks k) {r : Request} (hr : r ∈ kept g (requests g s)) :
    r ∈ kept g' (requests g' s') := by
  rw [← others_kept hd hs] at hr
  exact List.mem_of_mem_filter hr

theorem feasible_of_addClass (hg : g.WellFormed) (hd : g.addClass d = .ok (id, g'))
    (hs : ∀ k, k ≠ id → s'.sinks k = s.sinks k) (h : Feasible g' (requests g' s')) :
    Feasible g (requests g s) := by
  have hextends := Grammar.extends_addClass hd
  have hkept := fun r (hr : r ∈ kept g (requests g s)) => mem_kept_of_others hd hs hr
  refine ⟨fun r hr => ?_, fun r hr => ?_, fun r hr k sink ho => ?_⟩
  · obtain ⟨type, ht⟩ := h.typed r (hkept r hr)
    have hknown := known_of_mem_requests (mem_of_mem_kept hr)
    exact ⟨type, (hextends.hasType_iff hg hknown).mp ht⟩
  · have hknown := knows_of_mem_requests (mem_of_mem_kept hr)
    exact (hextends.present_iff hknown).mp (h.present r (hkept r hr))
  · obtain ⟨c, hc⟩ := (known_of_mem_requests hr).snapshot k sink ho
    rw [← others_requests hd hs] at hr
    obtain ⟨type, ht⟩ := h.sinks r (List.mem_of_mem_filter hr) k sink ho
    exact ⟨type, (hextends.sinkHasType_iff hg hc).mp ht⟩

theorem Meets.toDraft_eq {r : Request} {f f' : Field} (h : Meets g r f) (h' : Meets g r f') :
    f.toDraft = f'.toDraft := by
  have htype := h.type.unique h'.type
  obtain ⟨name, hname, hident⟩ := h.ident
  obtain ⟨name', hname', hident'⟩ := h'.ident
  obtain rfl : name = name' := Except.ok.inj (hname.symm.trans hname')
  obtain ⟨⟨owner, property, type, ident⟩, slot⟩ := f
  obtain ⟨⟨owner', property', type', ident'⟩, slot'⟩ := f'
  obtain rfl : type = type' := htype
  obtain rfl : owner = owner' := h.owner.trans h'.owner.symm
  obtain rfl : property = property' := h.property.trans h'.property.symm
  obtain rfl : ident = ident' := hident.trans hident'.symm
  rfl

theorem Meets.of_extends (h : g.Extends g') (hg : g.WellFormed) {r : Request} (hr : r.Known g)
    {f : Field} (hm : Meets g' r f) : Meets g r f := by
  refine ⟨hm.owner, hm.property, (h.hasType_iff hg hr).mp hm.type, ?_⟩
  obtain ⟨name, hname⟩ := Grammar.ownerName_of_knows hr.owner
  obtain ⟨name', hname', hident⟩ := hm.ident
  rw [h.ownerName_eq_ok hname] at hname'
  obtain rfl := Except.ok.inj hname'
  exact ⟨name, hname, hident⟩

def unplaced (f : Field) : Draft × Option String := (f.toDraft, f.buffer?)

theorem map_unplaced_eq {l l' : Layout} (h : Reachable g l) (h' : Reachable g' l')
    {fs : List Field} (hsub : ∀ f ∈ fs, f ∈ l'.fields)
    (hdrafts : fs.map Field.toDraft = l.fields.map Field.toDraft) :
    fs.map unplaced = l.fields.map unplaced := by
  have hbuffer : ∀ fs : List Field,
      (∀ f ∈ fs, f.buffer? = if f.type.isExempt then none else some (Naming.bufferName f.type)) →
      fs.map unplaced = (fs.map Field.toDraft).map fun d =>
        (d, if d.type.isExempt then none else some (Naming.bufferName d.type)) := by
    intro fs hfs
    rw [List.map_map]
    apply List.map_congr_left
    intro f hf
    rw [unplaced, hfs f hf]
    rfl
  rw [hbuffer fs fun f hf => h'.holds.buffer?_eq (hsub f hf),
    hbuffer l.fields fun f hf => h.holds.buffer?_eq hf, hdrafts]

/-- The fields of the others are drafted as in the plan without the class. -/
theorem drafts_of_addClass (hg : g.WellFormed) (hd : g.addClass d = .ok (id, g'))
    (hs : ∀ k, k ≠ id → s'.sinks k = s.sinks k) {l l' : Layout} (h : plan g s = .ok l)
    (h' : plan g' s' = .ok l') :
    (l'.fields.filter fun f => f.owner ≠ .ofClass id).map Field.toDraft =
      l.fields.map Field.toDraft := by
  have hothers : List.Forall₂ (Meets g') (kept g (requests g s))
      (l'.fields.filter fun f => f.owner ≠ .ofClass id) := by
    rw [← others_kept hd hs]
    refine List.rel_filter (fun r f hm => ?_) (follows_of_plan h').fields
    simp only [hm.owner]
  refine map_eq_of_forall₂ hothers (follows_of_plan h).fields fun r hr f f' hm hm' => ?_
  have hknown := known_of_mem_requests (mem_of_mem_kept hr)
  exact (hm.of_extends (Grammar.extends_addClass hd) hg hknown).toDraft_eq hm'

/-- Where a grammar with one more class can be planned, it could be planned without the class. The
fields that do not belong to the class are those there were, in the same order and the same
buffers, whatever sinks the class has. -/
theorem plan_of_addClass (hg : g.Built) (hd : g.addClass d = .ok (id, g')) (s : Schedule)
    (sinks : List SinkRef) {l' : Layout} (h : plan g' (s.insert id sinks) = .ok l') :
    ∃ l, plan g s = .ok l ∧
      (l'.fields.filter fun f => f.owner ≠ .ofClass id).map unplaced = l.fields.map unplaced := by
  have hw := hg.wellFormed
  have hs : ∀ k, k ≠ id → (s.insert id sinks).sinks k = s.sinks k := by
    intro k hk
    rw [s.sinks_insert, if_neg (Ne.symm hk)]
  have hfeasible := (exists_foldlM_iff (wellPosed_requests g' _)).mp ⟨l', h⟩
  obtain ⟨l, hl⟩ := (exists_foldlM_iff (wellPosed_requests g s)).mpr
    (feasible_of_addClass hw hd hs hfeasible)
  refine ⟨l, hl, map_unplaced_eq (reachable_of_plan hl) (reachable_of_plan h) ?_
    (drafts_of_addClass hw hd hs hl h)⟩
  exact fun f hf => List.mem_of_mem_filter hf

/-- One class, which keeps the total that its interface declares. -/
def alone : Grammar where
  interfaces := [{ name := "Node", attributes := .ofList [("total", ⟨"int", false⟩)] }]
  classes := [⟨"Leaf", ⟨0⟩, .ofList [("size", ⟨"int", false⟩)], .empty, .empty⟩]

def aloneSinks : Schedule := Schedule.empty.insert ⟨0⟩ [.own "total"]

/-- A class whose names are those of the other class and of the interface, in capitals. -/
def branch : Class :=
  ⟨"Branch", ⟨0⟩, .ofList [("SIZE", ⟨"int", false⟩), ("TOTAL", ⟨"float", false⟩)], .empty,
    .ofList [("next", ⟨0⟩)]⟩

/-- The fields of the new class stand between those of the other one, whose last field moves on in
its buffer; nothing else changes for it. -/
theorem leaf_beside_branch : ∃ g' l l', alone.addClass branch = .ok (⟨1⟩, g') ∧
    plan alone aloneSinks = .ok l ∧
    plan g' (aloneSinks.insert ⟨1⟩ [.child "next" "total"]) = .ok l' ∧
    l.fields[9]?.map (fun f => (f.ident, f.offset?)) = some ("fld_leaf_total_last", some 3) ∧
    l'.fields[12]?.map (fun f => (f.ident, f.offset?)) = some ("fld_leaf_total_last", some 4) ∧
    (l'.fields.filter fun f => f.owner ≠ .ofClass ⟨1⟩).map unplaced = l.fields.map unplaced := by
  have hbuilt : alone.Built := Grammar.built_iff_wellFormed.mpr (by decide)
  have hadd : alone.addClass branch = .ok (⟨1⟩, ⟨alone.interfaces, alone.classes ++ [branch]⟩) := by
    decide
  obtain ⟨l', hl'⟩ := exists_plan (g := ⟨alone.interfaces, alone.classes ++ [branch]⟩)
    (s := aloneSinks.insert ⟨1⟩ [.child "next" "total"]) (by decide +kernel)
  obtain ⟨l, hl, hsame⟩ := plan_of_addClass hbuilt hadd aloneSinks _ hl'
  have hfield : (plan alone aloneSinks).toOption.bind (fun l =>
      l.fields[9]?.map fun f => (f.ident, f.offset?)) = some ("fld_leaf_total_last", some 3) := by
    decide +kernel
  have hfield' : (plan ⟨alone.interfaces, alone.classes ++ [branch]⟩
      (aloneSinks.insert ⟨1⟩ [.child "next" "total"])).toOption.bind (fun l =>
      l.fields[12]?.map fun f => (f.ident, f.offset?)) =
        some ("fld_leaf_total_last", some 4) := by
    decide +kernel
  rw [hl] at hfield
  rw [hl'] at hfield'
  exact ⟨_, l, l', hadd, hl, hl', hfield, hfield', hsame⟩

end Layout
end GrammarLayout
