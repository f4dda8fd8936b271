import GrammarLayout.Proofs.Registry.Steps

/-!
# Registries read as layouts

Look-ups commute with finishing, however many fields there are. Additions do as long as the words
are enough to count with: then all that requests lead to is finished to what the same requests lead
to among layouts, and planning in words is planning.
-/

namespace GrammarLayout

namespace Registry

variable {overflow : Overflow} {g : Grammar} {r : Registry} {owner : Owner} {property : String}
  {given : Option StorageType} {d : Draft} {slot : Option Slot} {bs : Buffers}

/-! ## Look-ups -/

theorem firstMatch_numbered (g : Grammar) (fields : List Field) (owner : Owner)
    (ids : List FieldId) :
    GrammarLayout.firstMatch g (fields.map Field.numbered) owner (ids.map FieldId.position) =
      (firstMatch g fields owner ids).map (Option.map FieldId.position) := by
  induction ids with
  | nil => rfl
  | cons id ids ih =>
    rw [List.map_cons, GrammarLayout.firstMatch, firstMatch, List.getElem?_map]
    cases fields[id.position]? with
    | none => exact ih
    | some f =>
      have howner : f.numbered.owner = f.owner := rfl
      simp only [Option.map_some, howner]
      cases g.ownersMatch f.owner owner with
      | error handle => rfl
      | ok answers =>
        cases answers with
        | true => rfl
        | false => exact ih

theorem candidates_finish (r : Registry) (key : String) :
    r.finish.index.candidates key = (r.candidates key).map FieldId.position := by
  unfold FieldIndex.candidates candidates finish
  rw [OrderedMap.get?_map]
  cases r.index.get? key <;> rfl

theorem find?_finish (r : Registry) (owner : Owner) (property : String) :
    r.finish.find? owner property =
      (r.find? owner property).map (Option.map FieldId.position) := by
  rw [Layout.find?, candidates_finish]
  exact firstMatch_numbered r.grammar r.fields owner _

theorem field?_finish (r : Registry) (owner : Owner) (property : String) :
    r.finish.field? owner property = (r.field? owner property).map (Option.map Field.numbered) := by
  rw [Layout.field?, find?_finish, field?]
  cases r.find? owner property with
  | error handle => rfl
  | ok found =>
    cases found with
    | none => rfl
    | some id => simp [Except.map, finish, fieldAt?]

theorem getElem?_finish (r : Registry) (n : Nat) :
    r.finish.fields[n]? = (r.fields[n]?).map Field.numbered :=
  List.getElem?_map

theorem length_finish (r : Registry) : r.finish.fields.length = r.fields.length :=
  List.length_map _

theorem find?_finish_eq_none (h : r.find? owner property = .ok none) :
    r.finish.find? owner property = .ok none := by
  rw [find?_finish, h]
  rfl

/-! ## Additions -/

theorem candidates_extend (r : Registry) (d : Draft) (slot : Option Slot) (bs : Buffers)
    (key : String) :
    (r.extend d slot bs).candidates key = r.candidates key ++
      if Naming.propertyKey d.property = key then [.ofPosition r.fields.length] else [] := by
  unfold candidates extend
  rw [OrderedMap.get?_insert]
  split
  · next h =>
    subst h
    rfl
  · rw [List.append_nil]

theorem index_finish_extend (r : Registry) (d : Draft) (slot : Option Slot) (bs : Buffers) :
    (r.extend d slot bs).finish.index = r.finish.index.insert (Naming.propertyKey d.property)
      (FieldId.ofPosition r.fields.length).position := by
  rw [FieldIndex.insert, candidates_finish]
  refine congrArg FieldIndex.mk ((OrderedMap.map_insert _ r.index _ _).trans ?_)
  rw [List.map_append]
  rfl

theorem fields_finish_extend (r : Registry) (d : Draft) (slot : Option Slot) (bs : Buffers) :
    (r.extend d slot bs).finish.fields = r.finish.fields ++ [(⟨d, slot⟩ : Field).numbered] :=
  List.map_append

/-- An addition that the words are enough for is the one of a layout. -/
theorem finish_extend (hn : r.buffers.Named)
    (hp : Buffers.Placing overflow r.buffers d (.ok ⟨d, slot⟩, bs))
    (hroom : d.type.isExempt = false → (r.buffers.bufferFor d.type).isFull = false)
    (hlt : r.fields.length < 2 ^ 32) : (r.extend d slot bs).finish = r.finish.add d := by
  have hplace := hp.numbered hn hroom
  have hindex := r.index_finish_extend d slot bs
  have hfields := r.fields_finish_extend d slot bs
  rw [FieldId.position_ofPosition_of_lt hlt] at hindex
  have hbuffers : r.finish.buffers = r.buffers.numbered := rfl
  unfold Layout.add
  dsimp only
  rw [hbuffers, hplace, ← hfields, length_finish, ← hindex]
  rfl

/-! ## Registries that requests lead to -/

/-- Registries that come about by requests of any kind, those that fail included, from the one
without fields or from the one with the fields that every node has. -/
inductive Reachable (overflow : Overflow) (g : Grammar) : Registry → Prop
  | empty : Reachable overflow g (empty g)
  | universal {r : Registry} (h : universal overflow g = .ok r) : Reachable overflow g r
  | request {r : Registry} (h : Reachable overflow g r) (owner : Owner) (property : String)
      (given : Option StorageType) : Reachable overflow g (r.after overflow owner property given)

def fulfil (overflow : Overflow) (r : Registry) (q : Request) : Except Failure Unit × Registry :=
  (Step.fulfil overflow q).run.run r

theorem performAll_cons (overflow : Overflow) (r : Registry) (q : Request) (qs : List Request) :
    r.performAll overflow (q :: qs) =
      match r.fulfil overflow q with
      | (.ok _, r') => r'.performAll overflow qs
      | (.error e, r') => (.error e, r') := by
  unfold performAll fulfil
  rw [List.forM_eq_forM, List.forM_cons, run_bind]
  rcases (Step.fulfil overflow q).run.run r with ⟨_ | _, _⟩ <;> rfl

theorem fulfil_eq (overflow : Overflow) (r : Registry) (q : Request) :
    r.fulfil overflow q =
      match Layout.given? r.grammar q with
      | .error e => (.error (.refused e), r)
      | .ok given =>
        ((r.perform overflow q.owner q.property given).1.map fun _ => (),
          r.after overflow q.owner q.property given) := by
  have hgiven : ∀ given, (discard (Step.request overflow q.owner q.property given) :
      Step Unit).run.run r =
        ((r.perform overflow q.owner q.property given).1.map fun _ => (),
          r.after overflow q.owner q.property given) := by
    intro given
    change ((fun _ => ()) <$> Step.request overflow q.owner q.property given :
      Step Unit).run.run r = _
    rw [map_eq_pure_bind, run_bind]
    unfold after perform
    rcases (Step.request overflow q.owner q.property given).run.run r with ⟨_ | _, _⟩ <;> rfl
  unfold fulfil Step.fulfil Layout.given?
  cases ho : q.origin with
  | known type => exact hgiven (some type)
  | declared => exact hgiven none
  | snapshot id sink =>
    change ((Step.ofPlan (r.grammar.sinkType id sink) >>= fun type =>
      discard (Step.request overflow q.owner q.property (some type)) : Step Unit)).run.run r = _
    rw [run_ofPlan_bind]
    dsimp only
    cases r.grammar.sinkType id sink with
    | error e => rfl
    | ok type => exact hgiven (some type)

theorem performAll_invariant {P : Registry → Prop}
    (step : ∀ r owner property given, P r → P (r.after overflow owner property given))
    (hr : P r) (qs : List Request) : P (r.performAll overflow qs).2 := by
  induction qs generalizing r with
  | nil => exact hr
  | cons q qs ih =>
    rw [performAll_cons, fulfil_eq]
    cases Layout.given? r.grammar q with
    | error e => exact hr
    | ok given =>
      have hafter := step r q.owner q.property given hr
      dsimp only
      cases (r.perform overflow q.owner q.property given).1 with
      | error e => exact hafter
      | ok id => exact ih hafter

theorem universal_eq_ok (h : universal overflow g = .ok r) :
    (empty g).performAll overflow Layout.universalRequests = (.ok (), r) := by
  unfold universal at h
  dsimp only at h
  rcases hp : (empty g).performAll overflow Layout.universalRequests with ⟨x, r'⟩
  rw [hp] at h
  cases x with
  | error e => cases h
  | ok _ =>
    cases h
    rfl

theorem Reachable.invariant {P : Registry → Prop} (h : Reachable overflow g r)
    (empty : P (Registry.empty g))
    (step : ∀ r owner property given, P r → P (r.after overflow owner property given)) : P r := by
  induction h with
  | empty => exact empty
  | @universal r h =>
    have hall : P ((Registry.empty g).performAll overflow Layout.universalRequests).2 :=
      performAll_invariant step empty _
    rwa [universal_eq_ok h] at hall
  | request _ owner property given ih => exact step _ owner property given ih

theorem Reachable.grammar_eq (h : Reachable overflow g r) : r.grammar = g := by
  refine h.invariant (P := fun r => r.grammar = g) rfl ?_
  intro r owner property given hr
  rw [grammar_after, hr]

structure Question where
  owner : Owner
  property : String
  given : Option StorageType
  deriving DecidableEq

/-- The registry after some requests, of which those that fail leave it as it is. -/
def afterAll (overflow : Overflow) (r : Registry) (qs : List Question) : Registry :=
  qs.foldl (fun r q => r.after overflow q.owner q.property q.given) r

theorem Reachable.afterAll (h : Reachable overflow g r) (qs : List Question) :
    Reachable overflow g (r.afterAll overflow qs) := by
  induction qs generalizing r with
  | nil => exact h
  | cons q qs ih => exact ih (h.request q.owner q.property q.given)

/-! ## What the words count -/

theorem Reachable.named (h : Reachable overflow g r) : r.buffers.Named := by
  refine h.invariant (P := fun r => r.buffers.Named) nofun ?_
  intro r owner property given hr
  rcases r.after_cases overflow owner property given with ha | ⟨d, slot, bs, ha, _, _, hp⟩
  · rw [ha]
    exact hr
  · rw [ha]
    exact hp.named hr

/-- Every number in the index is that of a field, however many fields there are. -/
theorem Reachable.position_lt (h : Reachable overflow g r) {key : String} {id : FieldId}
    (hid : id ∈ r.candidates key) : id.position < r.fields.length := by
  refine h.invariant (P := fun r => ∀ key, ∀ id ∈ r.candidates key, id.position < r.fields.length)
    (fun _ => nofun) ?_ key id hid
  intro r owner property given hr key id hid
  rcases r.after_cases overflow owner property given with ha | ⟨d, slot, bs, ha, _, _, _⟩
  · rw [ha] at hid ⊢
    exact hr key id hid
  · rw [ha, candidates_extend] at hid
    have hlength : (r.after overflow owner property given).fields.length = r.fields.length + 1 := by
      simp [ha, extend]
    rw [hlength]
    rcases List.mem_append.mp hid with hid | hid
    · exact Nat.lt_succ_of_lt (hr key id hid)
    · split at hid
      · rw [List.mem_singleton.mp hid]
        exact Nat.lt_succ_of_le (FieldId.position_ofPosition_le _)
      · cases hid

/-- The buffers hold the fields without gaps, as long as no length starts again from zero: a program
that stops at a full buffer does not come that far, and one that does not stop needs more fields
than there are words. -/
theorem Reachable.holds (h : Reachable overflow g r)
    (hlt : overflow = .wraps → r.fields.length < 2 ^ 32) :
    r.finish.buffers.Holds r.finish.fields := by
  refine (h.invariant (P := fun r => r.buffers.Named ∧
    ((overflow = .wraps → r.fields.length < 2 ^ 32) → r.finish.buffers.Holds r.finish.fields))
    ⟨nofun, fun _ => Buffers.holds_nil⟩ ?_).2 hlt
  intro r owner property given ⟨hn, hr⟩
  rcases r.after_cases overflow owner property given with ha | ⟨d, slot, bs, ha, _, _, hp⟩
  · rw [ha]
    exact ⟨hn, hr⟩
  · rw [ha]
    refine ⟨hp.named hn, fun hlt => ?_⟩
    have hlength : (r.extend d slot bs).fields.length = r.fields.length + 1 := by simp [extend]
    rw [hlength] at hlt
    have hholds := hr fun hwraps => Nat.lt_of_succ_lt (hlt hwraps)
    have hplace := hp.numbered hn fun he =>
      hp.isFull_eq_false hn hholds (fun hwraps => by rw [length_finish]; exact hlt hwraps) he
    have hnext := hholds.place d
    rw [fields_finish_extend]
    have hbuffers : r.finish.buffers = r.buffers.numbered := rfl
    rw [hbuffers, hplace] at hnext
    exact hnext

/-- The numbers in the index are those of the fields, as long as there are words for all of them. -/
theorem Reachable.indexed (h : Reachable overflow g r) (hlt : r.fields.length ≤ 2 ^ 32) :
    r.finish.Indexed := by
  refine h.invariant (P := fun r => r.fields.length ≤ 2 ^ 32 → r.finish.Indexed)
    (fun _ _ => rfl) ?_ hlt
  intro r owner property given hr
  rcases r.after_cases overflow owner property given with ha | ⟨d, slot, bs, ha, _, _, _⟩
  · rw [ha]
    exact hr
  · rw [ha]
    intro hlt
    have hlength : (r.extend d slot bs).fields.length = r.fields.length + 1 := by simp [extend]
    rw [hlength] at hlt
    refine (hr (Nat.le_of_succ_le hlt)).concat (r.fields_finish_extend d slot bs) ?_
    rw [index_finish_extend, FieldId.position_ofPosition_of_lt hlt, length_finish]
    rfl

/-! ## Requests read as requests of a layout -/

theorem request_finish (r : Registry) (owner : Owner) (property : String)
    (given : Option StorageType) :
    r.finish.request owner property given =
      match r.find? owner property with
      | .error handle => .error (.foreign handle)
      | .ok (some id) => .ok (id.position, r.finish)
      | .ok none =>
        match r.grammar.draftFor owner property given with
        | .error e => .error e
        | .ok d => .ok (r.fields.length, r.finish.add d) := by
  rw [Layout.request_eq, find?_finish, length_finish]
  cases r.find? owner property with
  | error handle => rfl
  | ok found =>
    cases found with
    | some id => rfl
    | none =>
      have hgrammar : r.finish.grammar = r.grammar := rfl
      rw [hgrammar]
      dsimp only
      cases r.grammar.draftFor owner property given <;> rfl

theorem perform_of_found {id : FieldId} (h : r.find? owner property = .ok (some id))
    (overflow : Overflow) (given : Option StorageType) :
    r.perform overflow owner property given = (.ok id, r) := by
  have houtcome := r.outcome overflow owner property given
  generalize r.perform overflow owner property given = answer at houtcome ⊢
  cases houtcome with
  | found hf =>
    rw [h] at hf
    cases hf
    rfl
  | stray hf | refused hf | full hf | added hf => cases h.symm.trans hf

/-- What a layout refuses, a registry refuses for the same reason. -/
theorem perform_of_refused {e : PlanError}
    (h : r.finish.request owner property given = .error e) (overflow : Overflow) :
    r.perform overflow owner property given = (.error (.refused e), r) := by
  rw [request_finish] at h
  have houtcome := r.outcome overflow owner property given
  generalize r.perform overflow owner property given = answer at houtcome ⊢
  cases houtcome with
  | found hf => simp [hf] at h
  | stray hf =>
    simp only [hf, Except.error.injEq] at h
    rw [h]
  | refused hf hd =>
    simp only [hf, hd, Except.error.injEq] at h
    rw [h]
  | full hf hd => simp [hf, hd] at h
  | added hf hd => simp [hf, hd] at h

/-- A registry whose words have counted all that there is. -/
structure Counted (r : Registry) : Prop where
  named : r.buffers.Named
  holds : r.finish.buffers.Holds r.finish.fields

theorem counted_empty (g : Grammar) : (empty g).Counted := ⟨nofun, Buffers.holds_nil⟩

theorem Reachable.counted (h : Reachable overflow g r)
    (hlt : overflow = .wraps → r.fields.length < 2 ^ 32) : r.Counted :=
  ⟨h.named, h.holds hlt⟩

namespace Counted

variable (hr : r.Counted) (hlt : r.fields.length + 1 < 2 ^ 32)
include hr hlt

theorem isFull_eq_false (he : d.type.isExempt = false) :
    (r.buffers.bufferFor d.type).isFull = false :=
  hr.named.isFull_eq_false hr.holds he (by rwa [length_finish])

theorem finish_extend (hp : Buffers.Placing overflow r.buffers d (.ok ⟨d, slot⟩, bs)) :
    (r.extend d slot bs).finish = r.finish.add d :=
  Registry.finish_extend hr.named hp (hr.isFull_eq_false hlt) (Nat.lt_of_succ_lt hlt)

theorem extend (hp : Buffers.Placing overflow r.buffers d (.ok ⟨d, slot⟩, bs)) :
    (r.extend d slot bs).Counted := by
  refine ⟨hp.named hr.named, ?_⟩
  rw [hr.finish_extend hlt hp]
  exact hr.holds.place d

/-- As long as the words are enough, what a layout answers, a registry answers. -/
theorem perform_of_ok {n : Nat} {l' : Layout}
    (h : r.finish.request owner property given = .ok (n, l')) (overflow : Overflow) :
    ∃ r', r.perform overflow owner property given = (.ok (.ofPosition n), r') ∧
      r'.finish = l' ∧ r'.Counted := by
  rw [request_finish] at h
  have houtcome := r.outcome overflow owner property given
  generalize r.perform overflow owner property given = answer at houtcome ⊢
  cases houtcome with
  | found hf =>
    simp only [hf, Except.ok.injEq, Prod.mk.injEq] at h
    exact ⟨r, by rw [← h.1, FieldId.ofPosition_position], h.2, hr⟩
  | stray hf => simp [hf] at h
  | refused hf hd => simp [hf, hd] at h
  | full hf hd hp =>
    cases hp with
    | full he _ hfull =>
      rw [hr.isFull_eq_false hlt he] at hfull
      cases hfull
  | added hf hd hp =>
    simp only [hf, hd, Except.ok.injEq, Prod.mk.injEq] at h
    exact ⟨_, by rw [h.1], (hr.finish_extend hlt hp).trans h.2, hr.extend hlt hp⟩

theorem perform_of_draft (h : r.find? owner property = .ok none)
    (hd : r.grammar.draftFor owner property given = .ok d) (overflow : Overflow) :
    ∃ f : Field, f.toDraft = d ∧ f.numbered = (r.finish.buffers.place d).1 ∧
      ∃ r', r.perform overflow owner property given = (.ok (.ofPosition r.fields.length), r') ∧
        r'.finish = r.finish.add d := by
  have houtcome := r.outcome overflow owner property given
  generalize r.perform overflow owner property given = answer at houtcome ⊢
  cases houtcome with
  | found hf | stray hf => cases h.symm.trans hf
  | refused _ hd' => cases hd.symm.trans hd'
  | full _ hd' hp =>
    cases hp with
    | full he _ hfull =>
      cases hd.symm.trans hd'
      rw [hr.isFull_eq_false hlt he] at hfull
      cases hfull
  | @added _ slot _ _ hd' hp =>
    cases hd.symm.trans hd'
    have hplace := hp.numbered hr.named (hr.isFull_eq_false hlt)
    exact ⟨⟨d, slot⟩, rfl, (congrArg Prod.fst hplace).symm, _, rfl, hr.finish_extend hlt hp⟩

end Counted

theorem length_after_le (overflow : Overflow) (r : Registry) (owner : Owner) (property : String)
    (given : Option StorageType) :
    (r.after overflow owner property given).fields.length ≤ r.fields.length + 1 := by
  rcases r.after_cases overflow owner property given with ha | ⟨d, slot, bs, ha, _⟩
  · rw [ha]
    exact Nat.le_succ _
  · simp [ha, Registry.extend]

/-- Requests lead to a layout that requests lead to, as long as there are words for its fields. -/
theorem Reachable.finish (h : Reachable overflow g r) (hlt : r.fields.length < 2 ^ 32) :
    Layout.Reachable g r.finish := by
  refine (h.invariant (P := fun r => r.fields.length < 2 ^ 32 →
    r.Counted ∧ Layout.Reachable g r.finish) (fun _ => ⟨counted_empty g, .empty⟩) ?_ hlt).2
  intro r owner property given hr
  rcases r.after_cases overflow owner property given with ha | ⟨d, slot, bs, ha, hf, hd, hp⟩
  · rw [ha]
    exact hr
  · rw [ha]
    intro hlt
    have hlength : (r.extend d slot bs).fields.length = r.fields.length + 1 := by
      simp [Registry.extend]
    rw [hlength] at hlt
    obtain ⟨hcounted, hreachable⟩ := hr (Nat.lt_of_succ_lt hlt)
    refine ⟨hcounted.extend hlt hp, ?_⟩
    have hrequest : r.finish.request owner property given =
        .ok (r.fields.length, r.finish.add d) := by
      simp [request_finish, hf, hd]
    rw [hcounted.finish_extend hlt hp, ← Layout.after_of_request hrequest]
    exact hreachable.request owner property given

/-! ## Planning -/

/-- As long as the words are enough, meeting requests in place is meeting them. -/
theorem Counted.performAll_eq (hr : r.Counted) (overflow : Overflow) {qs : List Request}
    (hlt : r.fields.length + qs.length < 2 ^ 32) :
    (r.performAll overflow qs).1.map (fun _ => (r.performAll overflow qs).2.finish) =
      (qs.foldlM Layout.fulfil r.finish).mapError .refused := by
  induction qs generalizing r with
  | nil => rfl
  | cons q qs ih =>
    have hgrammar : r.finish.grammar = r.grammar := rfl
    rw [List.length_cons] at hlt
    rw [List.foldlM_cons, Layout.fulfil_eq, hgrammar, performAll_cons, fulfil_eq]
    cases Layout.given? r.grammar q with
    | error e => rfl
    | ok given =>
      dsimp only [bind, Except.bind]
      cases hq : r.finish.request q.owner q.property given with
      | error e =>
        have hperform := perform_of_refused hq overflow
        rw [hperform]
        rfl
      | ok answer =>
        obtain ⟨r', hperform, hfinish, hcounted⟩ := hr.perform_of_ok (by omega) hq overflow
        have hle := length_after_le overflow r q.owner q.property given
        rw [after_of_perform hperform] at hle
        have hrest := ih hcounted (by omega)
        rw [hfinish] at hrest
        rw [after_of_perform hperform, hperform]
        exact hrest

/-- Planning in words is planning, as long as there are not too many requests for them. -/
theorem plan_eq (overflow : Overflow) (g : Grammar) (s : Schedule)
    (hlt : (Layout.requests g s).length < 2 ^ 32) :
    plan overflow g s = (Layout.plan g s).mapError .refused :=
  (counted_empty g).performAll_eq overflow (by simpa [empty] using hlt)

theorem reachable_performAll (overflow : Overflow) (g : Grammar) (qs : List Request) :
    Reachable overflow g ((empty g).performAll overflow qs).2 :=
  performAll_invariant (fun _ owner property given hr => hr.request owner property given) .empty qs

/-- What planning comes to is a registry that requests have led to. -/
theorem plan_eq_ok {s : Schedule} {l : Layout} (h : plan overflow g s = .ok l) :
    ∃ r, Reachable overflow g r ∧ r.finish = l := by
  refine ⟨_, reachable_performAll overflow g (Layout.requests g s), ?_⟩
  unfold plan at h
  dsimp only at h
  cases hx : ((empty g).performAll overflow (Layout.requests g s)).1 with
  | error e =>
    rw [hx] at h
    cases h
  | ok _ =>
    rw [hx] at h
    exact Except.ok.inj h

end Registry
end GrammarLayout
