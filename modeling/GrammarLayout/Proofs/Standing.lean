import GrammarLayout.Proofs.Scan

/-!
# Answers that stand

A field that has once answered goes on to answer. Later requests only add fields, and only behind
those that are there, so a look-up meets what it found before all that is new. This does not depend
on who asks: universal queries and foreign handles are answered in the same way as before, too.
-/

namespace GrammarLayout

variable {g : Grammar} {fields more : List Field} {owner : Owner} {ps qs : List Nat} {n : Nat}

/-- Positions behind others are looked at only if none of those matches. -/
theorem firstMatch_append_of_ne_none (h : firstMatch g fields owner ps ≠ .ok none)
    (qs : List Nat) : firstMatch g fields owner (ps ++ qs) = firstMatch g fields owner ps := by
  induction ps with
  | nil => exact absurd rfl h
  | cons i ps ih =>
    rw [List.cons_append]
    unfold firstMatch at h ⊢
    split at h
    · exact ih h
    · split at h
      · rfl
      · rfl
      · exact ih h

theorem firstMatch_append_of_found (h : firstMatch g fields owner ps = .ok (some n))
    (qs : List Nat) : firstMatch g fields owner (ps ++ qs) = .ok (some n) := by
  rw [firstMatch_append_of_ne_none (by simp [h]), h]

theorem firstMatch_append_of_none (h : firstMatch g fields owner ps = .ok none) (qs : List Nat) :
    firstMatch g fields owner (ps ++ qs) = firstMatch g fields owner qs := by
  induction ps with
  | nil => rfl
  | cons i ps ih =>
    rw [List.cons_append, firstMatch]
    unfold firstMatch at h
    split at h
    · exact ih h
    · split at h
      · cases h
      · cases h
      · exact ih h

/-- Fields behind those that the positions lead to do not matter. -/
theorem firstMatch_extend (h : ∀ i ∈ ps, i < fields.length) :
    firstMatch g (fields ++ more) owner ps = firstMatch g fields owner ps := by
  induction ps with
  | nil => rfl
  | cons i ps ih =>
    have hi : (fields ++ more)[i]? = fields[i]? :=
      List.getElem?_append_left (h i List.mem_cons_self)
    have hps := ih fun j hj => h j (List.mem_cons_of_mem i hj)
    rw [firstMatch, firstMatch, hi, hps]

theorem exists_field_of_firstMatch (h : firstMatch g fields owner ps = .ok (some n)) :
    ∃ f, fields[n]? = some f := by
  induction ps with
  | nil => cases h
  | cons i ps ih =>
    unfold firstMatch at h
    split at h
    · exact ih h
    · next f hf =>
      split at h
      · cases h
      · cases h
        exact ⟨f, hf⟩
      · exact ih h

namespace Layout

variable {l l' : Layout} {property : String} {f : Field}

theorem candidates_add (l : Layout) (d : Draft) (key : String) :
    (l.add d).index.candidates key = l.index.candidates key ++
      if Naming.propertyKey d.property = key then [l.fields.length] else [] := by
  have hindex : (l.add d).index = l.index.insert (Naming.propertyKey d.property) l.fields.length :=
    rfl
  rw [hindex, FieldIndex.candidates_insert]
  split
  · next h => rw [h]
  · rw [List.append_nil]

/-- The fields that the index leads to are there. -/
def InRange (l : Layout) : Prop :=
  ∀ key, ∀ i ∈ l.index.candidates key, i < l.fields.length

theorem Indexed.inRange (h : l.Indexed) : l.InRange := by
  intro key i hi
  obtain ⟨f, hf, _⟩ := h.mem_candidates_iff.mp hi
  exact (List.getElem?_eq_some_iff.mp hf).1

/-- The second layout has what the first has, and perhaps more behind it. -/
structure Continues (l l' : Layout) : Prop where
  grammar : l'.grammar = l.grammar
  fields : l.fields <+: l'.fields
  candidates : ∀ key, l.index.candidates key <+: l'.index.candidates key

theorem Continues.refl (l : Layout) : l.Continues l := ⟨rfl, List.prefix_rfl, fun _ => List.prefix_rfl⟩

theorem continues_add (l : Layout) (d : Draft) : l.Continues (l.add d) where
  grammar := rfl
  fields := List.prefix_append _ _
  candidates key := by
    rw [candidates_add]
    exact List.prefix_append _ _

theorem Continues.firstMatch (h : l.Continues l') (hr : l.InRange) (owner : Owner) (key : String) :
    firstMatch l'.grammar l'.fields owner (l.index.candidates key) =
      firstMatch l.grammar l.fields owner (l.index.candidates key) := by
  obtain ⟨more, hmore⟩ := h.fields
  rw [h.grammar, ← hmore]
  exact firstMatch_extend (hr key)

theorem Continues.find?_of_found (h : l.Continues l') (hr : l.InRange)
    (hn : l.find? owner property = .ok (some n)) : l'.find? owner property = .ok (some n) := by
  obtain ⟨more, hmore⟩ := h.candidates (Naming.propertyKey property)
  rw [find?] at hn ⊢
  rw [← hmore]
  apply firstMatch_append_of_found
  rw [h.firstMatch hr, hn]

/-- A field that comes because there was none is what is found from then on. -/
theorem Continues.find?_of_new (h : l.Continues l') (hr : l.InRange) {f : Field}
    (hf : l'.fields = l.fields ++ [f])
    (hc : l'.index.candidates f.key = l.index.candidates f.key ++ [l.fields.length])
    (hn : l.find? f.owner f.property = .ok none) :
    l'.find? f.owner f.property = .ok (some l.fields.length) := by
  have hnew : l'.fields[l.fields.length]? = some f := by
    rw [hf, List.getElem?_concat_length]
  have hself : l'.grammar.ownersMatch f.owner f.owner = .ok true := Grammar.answers_self _ _
  have hkey : Naming.propertyKey f.property = f.key := rfl
  rw [find?, hkey] at hn ⊢
  rw [hc, firstMatch_append_of_none (by rw [h.firstMatch hr, hn]), GrammarLayout.firstMatch, hnew]
  simp only [hself]

theorem Indexed.find?_add_self (h : l.Indexed) {d : Draft}
    (hn : l.find? d.owner d.property = .ok none) :
    (l.add d).find? d.owner d.property = .ok (some l.fields.length) := by
  have hdraft := l.buffers.draft_place d
  have hkey : (l.buffers.place d).1.key = Naming.propertyKey d.property := by
    rw [Field.key, hdraft]
  have hnew := (l.continues_add d).find?_of_new h.inRange (fields_add l d)
    (by rw [candidates_add, hkey, if_pos rfl]) (by rwa [hdraft])
  rwa [hdraft] at hnew

theorem field?_eq_ok_some :
    l.field? owner property = .ok (some f) ↔
      ∃ n, l.find? owner property = .ok (some n) ∧ l.fields[n]? = some f := by
  unfold field?
  cases l.find? owner property with
  | error handle => simp [Except.map]
  | ok found => cases found <;> simp [Except.map]

/-- Whoever asks the owner's question gets the field, which is at the position. -/
structure Stands (l : Layout) (owner : Owner) (property : String) (n : Nat) (f : Field) : Prop where
  find? : l.find? owner property = .ok (some n)
  getElem? : l.fields[n]? = some f
  field? : l.field? owner property = .ok (some f)
  request : ∀ given, l.request owner property given = .ok (n, l)

theorem stands_of_find? (hn : l.find? owner property = .ok (some n)) (hf : l.fields[n]? = some f) :
    l.Stands owner property n f :=
  ⟨hn, hf, field?_eq_ok_some.mpr ⟨n, hn, hf⟩, fun _ => request_of_found hn⟩

theorem Stands.add (h : l.Stands owner property n f) (hl : l.Indexed) (d : Draft) :
    (l.add d).Stands owner property n f := by
  refine stands_of_find? ((l.continues_add d).find?_of_found hl.inRange h.find?) ?_
  rw [fields_add, List.getElem?_append_left (List.getElem?_eq_some_iff.mp h.getElem?).1]
  exact h.getElem?

/-- No request takes an answer back, whether it succeeds or not. -/
theorem Stands.after (h : l.Stands owner property n f) (hl : l.Indexed) (owner' : Owner)
    (property' : String) (given : Option StorageType) :
    (l.after owner' property' given).Stands owner property n f := by
  rcases after_cases l owner' property' given with ha | ⟨type, name, ha⟩
  · rw [ha]
    exact h
  · rw [ha]
    exact h.add hl _

/-- The answer to a request stands in the layout that it leads to. -/
theorem stands_of_request (hl : l.Indexed) {given : Option StorageType}
    (h : l.request owner property given = .ok (n, l')) : ∃ f, l'.Stands owner property n f := by
  have hn : l'.find? owner property = .ok (some n) := by
    rcases request_cases h with ⟨hn, rfl⟩ | ⟨hnone, rfl, type, name, _, _, _, rfl⟩
    · exact hn
    · exact hl.find?_add_self (d := .named owner name property type) hnone
  obtain ⟨f, hf⟩ := exists_field_of_firstMatch hn
  exact ⟨f, stands_of_find? hn hf⟩

end Layout
end GrammarLayout
