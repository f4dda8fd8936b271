import GrammarLayout.Proofs.Packing
import GrammarLayout.Proofs.Standing

/-!
# What an addition changes

One field is added to the list, the index and the buffer of its type. Look-ups notice it only under
its key, and only those that had found nothing before.
-/

namespace GrammarLayout

namespace Buffers

/-- One more place in the buffer of a type, which is opened behind all others if there is none. -/
inductive Widened (type : StorageType) (bs bs' : Buffers) : Prop
  | opened (h : ∀ b ∈ bs, b.element ≠ type) (h' : bs' = bs ++ [⟨type, 1⟩])
  | grown (front back : Buffers) (count : Nat) (h : bs = front ++ ⟨type, count⟩ :: back)
      (h' : bs' = front ++ ⟨type, count + 1⟩ :: back)

theorem widened_reserve (type : StorageType) (bs : Buffers) :
    Widened type bs (reserve type bs).2 := by
  induction bs with
  | nil => exact .opened (by simp) rfl
  | cons b bs ih =>
    by_cases hb : b.element = type
    · subst hb
      exact .grown [] bs b.count rfl (by simp [reserve, Buffer.name])
    · have hreserve : (reserve type (b :: bs)).2 = b :: (reserve type bs).2 := by
        simp [reserve, Buffer.name_eq_iff, hb]
      rw [hreserve]
      cases ih with
      | opened h h' =>
        refine .opened ?_ (by rw [h', List.cons_append])
        intro b' hb'
        rcases List.mem_cons.mp hb' with rfl | hb'
        · exact hb
        · exact h b' hb'
      | grown front back count h h' =>
        exact .grown (b :: front) back count (by rw [h, List.cons_append])
          (by rw [h', List.cons_append])

end Buffers

namespace Layout

variable {g : Grammar} {l : Layout} {owner : Owner} {property : String}

/-- The layout has one more field, and nothing else has changed. -/
structure Grown (l : Layout) (f : Field) (l' : Layout) : Prop where
  grammar : l'.grammar = l.grammar
  fields : l'.fields = l.fields ++ [f]
  candidates : ∀ key, l'.index.candidates key =
    l.index.candidates key ++ if f.key = key then [l.fields.length] else []
  buffers_of_exempt : f.type.isExempt = true → l'.buffers = l.buffers
  buffers_of_placed : f.type.isExempt = false → Buffers.Widened f.type l.buffers l'.buffers
  slot : f.slot = Buffers.slotAfter l.fields f.type
  /-- The field is found where nothing was, under its key and by owners it answers for. -/
  field?_new : ∀ owner property, l.field? owner property = .ok none →
    Naming.propertyKey property = f.key → l.grammar.Answers f.owner owner →
      l'.field? owner property = .ok (some f)
  /-- Nothing else is found in another way, but that a foreign handle may be met. -/
  field?_changed : ∀ owner property, l'.field? owner property ≠ l.field? owner property →
    l.field? owner property = .ok none ∧ Naming.propertyKey property = f.key ∧
      (l.grammar.Answers f.owner owner ∧ l'.field? owner property = .ok (some f) ∨
        ¬ l.grammar.Knows owner ∧ ∃ handle, l'.field? owner property = .error handle)

theorem field?_eq_ok_none :
    l.field? owner property = .ok none ↔ l.find? owner property = .ok none := by
  unfold field?
  cases hn : l.find? owner property with
  | error handle => simp [Except.map]
  | ok found =>
    cases found with
    | none => simp [Except.map]
    | some n =>
      obtain ⟨f, hf⟩ := exists_field_of_firstMatch hn
      simp [Except.map, hf]

/-- What has been found, or has met a foreign handle, does so after an addition. -/
theorem Indexed.field?_add_of_ne_none (h : l.Indexed) (hne : l.field? owner property ≠ .ok none)
    (d : Draft) : (l.add d).field? owner property = l.field? owner property := by
  rw [Ne, field?_eq_ok_none] at hne
  have hfind : (l.add d).find? owner property = l.find? owner property := by
    have hsame := (l.continues_add d).firstMatch h.inRange owner (Naming.propertyKey property)
    rw [find?, find?, candidates_add, firstMatch_append_of_ne_none, hsame]
    rw [hsame]
    exact hne
  rw [field?, field?, hfind]
  cases hn : l.find? owner property with
  | error handle => rfl
  | ok found =>
    cases found with
    | none => exact absurd hn hne
    | some n =>
      obtain ⟨f, hf⟩ := exists_field_of_firstMatch hn
      have hlt := (List.getElem?_eq_some_iff.mp hf).1
      simp [Except.map, List.getElem?_append_left hlt]

theorem Indexed.field?_add_of_key_ne (h : l.Indexed) {d : Draft}
    (hk : Naming.propertyKey d.property ≠ Naming.propertyKey property) (owner : Owner)
    (hnone : l.field? owner property = .ok none) :
    (l.add d).field? owner property = .ok none := by
  rw [field?_eq_ok_none] at hnone ⊢
  rw [find?, candidates_add, if_neg hk, List.append_nil, (l.continues_add d).firstMatch h.inRange]
  exact hnone

/-- Where nothing was found under the key, it depends on the owners whether the new field is. -/
theorem Indexed.field?_add_of_none (h : l.Indexed) {d : Draft}
    (hk : Naming.propertyKey d.property = Naming.propertyKey property)
    (hnone : l.field? owner property = .ok none) :
    (l.add d).field? owner property =
      (l.grammar.ownersMatch d.owner owner).map fun answers =>
        if answers then some (l.buffers.place d).1 else none := by
  have hnew : (l.add d).fields[l.fields.length]? = some (l.buffers.place d).1 := by
    rw [fields_add, List.getElem?_concat_length]
  have howner : (l.buffers.place d).1.owner = d.owner := by
    rw [Buffers.draft_place]
  have hold : firstMatch (l.add d).grammar (l.add d).fields owner
      (l.index.candidates (Naming.propertyKey property)) = .ok none := by
    rw [(l.continues_add d).firstMatch h.inRange]
    exact field?_eq_ok_none.mp hnone
  rw [field?, find?, candidates_add, if_pos hk, firstMatch_append_of_none hold, firstMatch, hnew]
  dsimp only
  rw [howner, grammar_add]
  cases l.grammar.ownersMatch d.owner owner with
  | error handle => rfl
  | ok answers =>
    cases answers with
    | true => exact congrArg Except.ok hnew
    | false => rfl

theorem Reachable.grown_add (h : Reachable g l) (d : Draft) :
    Grown l (l.buffers.place d).1 (l.add d) where
  grammar := rfl
  fields := rfl
  candidates key := by
    rw [candidates_add, Field.key, Buffers.draft_place]
  buffers_of_exempt he := by
    rw [Buffers.draft_place] at he
    simp [Buffers.place, he]
  buffers_of_placed he := by
    rw [Buffers.draft_place] at he ⊢
    simpa [Buffers.place, he] using Buffers.widened_reserve d.type l.buffers
  slot := by
    have hlast := (h.holds.place d).slot_eq (List.getElem?_concat_length)
    rwa [List.take_left] at hlast
  field?_new owner property hnone hk ha := by
    rw [Field.key, Buffers.draft_place] at hk
    rw [Buffers.draft_place] at ha
    rw [h.indexed.field?_add_of_none hk.symm hnone, ha]
    rfl
  field?_changed owner property hne := by
    rw [Field.key, Buffers.draft_place]
    have hnone : l.field? owner property = .ok none := by
      by_contra hsome
      exact hne (h.indexed.field?_add_of_ne_none hsome d)
    have hk : Naming.propertyKey d.property = Naming.propertyKey property := by
      by_contra hk
      exact hne ((h.indexed.field?_add_of_key_ne hk owner hnone).trans hnone.symm)
    have hnew := h.indexed.field?_add_of_none hk hnone
    refine ⟨hnone, hk.symm, ?_⟩
    cases hm : l.grammar.ownersMatch d.owner owner with
    | error handle =>
      -- Only a handle that the grammar does not know stops the comparison of the owners.
      have hforeign : ¬ l.grammar.Knows owner := by
        intro ho
        rw [Grammar.ownersMatch_of_knows ho] at hm
        cases hm
      exact .inr ⟨hforeign, handle, by rw [hnew, hm]; rfl⟩
    | ok answers =>
      cases answers with
      | true => exact .inl ⟨hm, by rw [hnew, hm]; rfl⟩
      | false =>
        rw [hnew, hm, hnone] at hne
        exact absurd rfl hne

end Layout
end GrammarLayout
