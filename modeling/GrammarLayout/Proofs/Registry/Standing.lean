import GrammarLayout.Proofs.Registry.Scan
import GrammarLayout.Proofs.Standing

/-!
# Answers of a registry that stand

Requests only put fields behind those that are there, so a look-up meets what it found before all
that is new, and this for any number of fields. Only a new field has to have a number of its own to
be answered by it: so many fields as there are words must not be there yet when it is made.
-/

namespace GrammarLayout.Registry

variable {overflow : Overflow} {g : Grammar} {r r' : Registry} {owner : Owner} {property : String}
  {id : FieldId} {f : Field}

theorem find?_eq_some_iff :
    r.find? owner property = .ok (some id) ↔
      r.finish.find? owner property = .ok (some id.position) := by
  constructor
  · intro h
    rw [find?_finish, h]
    rfl
  · intro h
    rw [find?_eq_ok h, Option.map_some, FieldId.ofPosition_position]

theorem Reachable.inRange (h : Reachable overflow g r) : r.finish.InRange := by
  intro key n hn
  rw [candidates_finish] at hn
  obtain ⟨id, hid, rfl⟩ := List.mem_map.mp hn
  rw [length_finish]
  exact h.position_lt hid

theorem continues_extend (r : Registry) (d : Draft) (slot : Option Slot) (bs : Buffers) :
    r.finish.Continues (r.extend d slot bs).finish where
  grammar := rfl
  fields := by
    rw [fields_finish_extend]
    exact List.prefix_append _ _
  candidates key := by
    rw [candidates_finish, candidates_finish, candidates_extend, List.map_append]
    exact List.prefix_append _ _

theorem fields_after (overflow : Overflow) (r : Registry) (owner : Owner) (property : String)
    (given : Option StorageType) :
    r.fields <+: (r.after overflow owner property given).fields := by
  rcases r.after_cases overflow owner property given with ha | ⟨d, slot, bs, ha, _⟩
  · rw [ha]
  · rw [ha]
    exact List.prefix_append _ _

theorem continues_after (overflow : Overflow) (r : Registry) (owner : Owner) (property : String)
    (given : Option StorageType) :
    r.finish.Continues (r.after overflow owner property given).finish := by
  rcases r.after_cases overflow owner property given with ha | ⟨d, slot, bs, ha, _⟩
  · rw [ha]
    exact .refl _
  · rw [ha]
    exact r.continues_extend d slot bs

/-- Whoever asks the owner's question gets the field, under the number, from the registry and from
the layout that it becomes. -/
structure Stands (overflow : Overflow) (r : Registry) (owner : Owner) (property : String)
    (id : FieldId) (f : Field) : Prop where
  find? : r.find? owner property = .ok (some id)
  fieldAt? : r.fieldAt? id = some f
  field? : r.field? owner property = .ok (some f)
  perform : ∀ given, r.perform overflow owner property given = (.ok id, r)
  finish_find? : r.finish.find? owner property = .ok (some id.position)
  finish_getElem? : r.finish.fields[id.position]? = some f.numbered
  finish_field? : r.finish.field? owner property = .ok (some f.numbered)

theorem stands_of_find? (hn : r.find? owner property = .ok (some id)) (hf : r.fieldAt? id = some f)
    (overflow : Overflow) : r.Stands overflow owner property id f where
  find? := hn
  fieldAt? := hf
  field? := by simp [field?, hn, hf, Except.map]
  perform given := perform_of_found hn overflow given
  finish_find? := find?_eq_some_iff.mp hn
  finish_getElem? := by
    rw [getElem?_finish]
    exact congrArg (Option.map Field.numbered) hf
  finish_field? := by simp [field?_finish, field?, hn, hf, Except.map]

theorem Stands.after (h : r.Stands overflow owner property id f) (hr : Reachable overflow g r)
    (owner' : Owner) (property' : String) (given : Option StorageType) :
    (r.after overflow owner' property' given).Stands overflow owner property id f := by
  have hcontinues := r.continues_after overflow owner' property' given
  have hfind := hcontinues.find?_of_found hr.inRange h.finish_find?
  refine stands_of_find? (find?_eq_some_iff.mpr hfind) ?_ overflow
  obtain ⟨more, hmore⟩ := r.fields_after overflow owner' property' given
  have hlt := (List.getElem?_eq_some_iff.mp h.fieldAt?).1
  rw [Registry.fieldAt?, ← hmore, List.getElem?_append_left hlt]
  exact h.fieldAt?

theorem Stands.afterAll (h : r.Stands overflow owner property id f) (hr : Reachable overflow g r)
    (qs : List Question) : (r.afterAll overflow qs).Stands overflow owner property id f := by
  induction qs generalizing r with
  | nil => exact h
  | cons q qs ih =>
    exact ih (h.after hr q.owner q.property q.given) (hr.request q.owner q.property q.given)

theorem field?_eq_ok_some :
    r.field? owner property = .ok (some f) ↔
      ∃ id, r.find? owner property = .ok (some id) ∧ r.fieldAt? id = some f := by
  unfold field?
  cases r.find? owner property with
  | error handle => simp [Except.map]
  | ok found => cases found <;> simp [Except.map]

theorem exists_field_of_find? (h : r.find? owner property = .ok (some id)) :
    ∃ f, r.fieldAt? id = some f := by
  obtain ⟨f, hf⟩ := exists_field_of_firstMatch (find?_eq_some_iff.mp h)
  rw [getElem?_finish] at hf
  obtain ⟨f, hf, _⟩ := Option.map_eq_some_iff.mp hf
  exact ⟨f, hf⟩

theorem Reachable.stands_of_perform (hr : Reachable overflow g r)
    (hlt : r.fields.length < 2 ^ 32) {given : Option StorageType}
    (h : r.perform overflow owner property given = (.ok id, r')) :
    ∃ f, r'.Stands overflow owner property id f := by
  have hfind : r'.find? owner property = .ok (some id) := by
    have houtcome := r.outcome overflow owner property given
    rw [h] at houtcome
    cases houtcome with
    | found hf => exact hf
    | @added d slot bs hf hd hp =>
      obtain ⟨howner, hproperty, _⟩ := Grammar.draftFor_eq_ok hd
      have hnone : r.finish.find? d.owner d.property = .ok none := by
        rw [howner, hproperty]
        exact find?_finish_eq_none hf
      have hword := FieldId.position_ofPosition_of_lt hlt
      have hcandidates : (r.extend d slot bs).finish.index.candidates
          (Naming.propertyKey d.property) = r.finish.index.candidates
            (Naming.propertyKey d.property) ++ [r.finish.fields.length] := by
        rw [index_finish_extend, FieldIndex.candidates_insert, if_pos rfl, hword, length_finish]
      have hnew := (r.continues_extend d slot bs).find?_of_new hr.inRange
        (r.fields_finish_extend d slot bs) hcandidates hnone
      rw [length_finish, ← hword] at hnew
      rw [← howner, ← hproperty]
      exact find?_eq_some_iff.mpr hnew
  obtain ⟨f, hf⟩ := exists_field_of_find? hfind
  exact ⟨f, stands_of_find? hfind hf overflow⟩

/-- What a look-up or a request has answered is answered in the same way after all further requests,
with the same field under the same number, and so when the registry is finished. -/
theorem answer_stands (h : Reachable overflow g r) (owner : Owner) (property : String) :
    (∀ f, r.field? owner property = .ok (some f) →
      ∃ id, ∀ qs, (r.afterAll overflow qs).Stands overflow owner property id f) ∧
    (r.fields.length < 2 ^ 32 → ∀ given id r',
      r.perform overflow owner property given = (.ok id, r') →
        ∃ f, ∀ qs, (r'.afterAll overflow qs).Stands overflow owner property id f) := by
  constructor
  · intro f hf
    obtain ⟨id, hn, hf⟩ := field?_eq_ok_some.mp hf
    exact ⟨id, fun qs => (stands_of_find? hn hf overflow).afterAll h qs⟩
  · intro hlt given id r' hp
    obtain ⟨f, hstands⟩ := h.stands_of_perform hlt hp
    have hreachable := after_of_perform hp ▸ h.request owner property given
    exact ⟨f, fun qs => hstands.afterAll hreachable qs⟩

def leafSize : Registry := (empty leafy).after .wraps (.ofClass ⟨0⟩) "size" (some .int)

/-- A request of the interface, for which the class does not answer, one that fails, and one that
puts a further field into the same buffer. -/
def later : List Question := [
  ⟨.ofInterface ⟨0⟩, "Size", some .int⟩,
  ⟨.ofClass ⟨7⟩, "size", none⟩,
  ⟨.universal, "depth", some .int⟩]

/-- A query for universal data is answered by the field of the class also when the interface has one
under the same key, and what the interface is answered stands as well. -/
theorem universal_query_stands :
    Reachable .wraps leafy leafSize ∧ leafSize.fields.length < 2 ^ 32 ∧
      (leafSize.afterAll .wraps later).candidates "size" = [⟨0⟩, ⟨1⟩] ∧
      (leafSize.afterAll .wraps later).fields.length = 3 ∧
      (∃ f, f.owner = .ofClass ⟨0⟩ ∧
        (leafSize.afterAll .wraps later).Stands .wraps .universal "SIZE" ⟨0⟩ f) ∧
      ∃ f, ((leafSize.after .wraps (.ofInterface ⟨0⟩) "Size" (some .int)).afterAll .wraps
        later).Stands .wraps (.ofInterface ⟨0⟩) "Size" ⟨1⟩ f := by
  have hreachable : Reachable .wraps leafy leafSize := Reachable.empty.request _ _ _
  have hlt : leafSize.fields.length < 2 ^ 32 := by decide +kernel
  have hfield : leafSize.field? .universal "SIZE" =
      .ok (some ⟨⟨.ofClass ⟨0⟩, "size", .int, "fld_leaf_size"⟩, some ⟨"int_buffer_1", 0⟩⟩) := by
    decide +kernel
  have hfind : leafSize.find? .universal "SIZE" = .ok (some ⟨0⟩) := by decide +kernel
  have hperform : leafSize.perform .wraps (.ofInterface ⟨0⟩) "Size" (some .int) =
      (.ok ⟨1⟩, leafSize.after .wraps (.ofInterface ⟨0⟩) "Size" (some .int)) := by
    decide +kernel
  obtain ⟨id, hid⟩ := (answer_stands hreachable .universal "SIZE").1 _ hfield
  obtain rfl : ⟨0⟩ = id := Option.some.inj (Except.ok.inj (hfind.symm.trans (hid []).find?))
  obtain ⟨f, hf⟩ := (answer_stands hreachable (.ofInterface ⟨0⟩) "Size").2 hlt _ _ _ hperform
  exact ⟨hreachable, hlt, by decide +kernel, by decide +kernel, ⟨_, rfl, hid later⟩, f, hf later⟩

end GrammarLayout.Registry
