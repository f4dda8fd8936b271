import GrammarLayout.Proofs.Owners

/-!
# The index and the list of fields

The index is faithful when it holds, under every key, the positions of exactly the fields with
that key, in ascending order. A look-up through it is then a scan of the whole list of fields.
-/

namespace GrammarLayout

theorem firstMatch_of_knows {g : Grammar} {owner : Owner} (h : g.Knows owner)
    (fields : List Field) (positions : List Nat) :
    firstMatch g fields owner positions = .ok (positions.find? fun i =>
      (fields[i]?).any fun f => decide (g.Answers f.owner owner)) := by
  induction positions with
  | nil => rfl
  | cons i rest ih =>
    cases hf : fields[i]? with
    | none => simp [firstMatch, hf, ih]
    | some f =>
      by_cases ha : g.Answers f.owner owner <;>
        simp [firstMatch, hf, Grammar.ownersMatch_of_knows h, ha, ih]

theorem find?_range_eq_findIdx? {α : Type} (p : α → Bool) (xs : List α) :
    (List.range xs.length).find? (fun i => (xs[i]?).any p) = xs.findIdx? p := by
  induction xs using List.reverseRecOn with
  | nil => rfl
  | append_singleton xs x ih =>
    have hrange : (List.range xs.length).find? (fun i => ((xs ++ [x])[i]?).any p) =
        (List.range xs.length).find? (fun i => (xs[i]?).any p) := by
      apply List.find?_congr
      intro i hi
      rw [List.getElem?_append_left (List.mem_range.mp hi)]
    rw [List.length_append, List.length_singleton, List.range_succ, List.find?_append, hrange, ih,
      List.findIdx?_append]
    cases hx : p x <;> simp [hx]

namespace Layout

variable {l : Layout}

def answering (g : Grammar) (owner : Owner) (key : String) (f : Field) : Bool :=
  f.key = key ∧ g.Answers f.owner owner

/-- The index lists under each key the positions of the fields with that key. -/
def Indexed (l : Layout) : Prop :=
  ∀ key, l.index.candidates key =
    (List.range l.fields.length).filter fun i => (l.fields[i]?).any fun f => f.key = key

@[simp] theorem grammar_add (l : Layout) (d : Draft) : (l.add d).grammar = l.grammar := rfl

@[simp] theorem fields_add (l : Layout) (d : Draft) :
    (l.add d).fields = l.fields ++ [(l.buffers.place d).1] := rfl

@[simp] theorem buffers_add (l : Layout) (d : Draft) :
    (l.add d).buffers = (l.buffers.place d).2 := rfl

theorem indexed_empty (g : Grammar) : (empty g).Indexed := fun _ => rfl

theorem Indexed.concat (h : l.Indexed) {l' : Layout} {f : Field}
    (hf : l'.fields = l.fields ++ [f]) (hi : l'.index = l.index.insert f.key l.fields.length) :
    l'.Indexed := by
  intro key
  have hold : (List.range l.fields.length).filter
      (fun i => (l'.fields[i]?).any fun f => f.key = key) = l.index.candidates key := by
    rw [h key]
    apply List.filter_congr
    intro i hi
    rw [hf, List.getElem?_append_left (List.mem_range.mp hi)]
  have hlength : l'.fields.length = l.fields.length + 1 := by simp [hf]
  rw [hi, FieldIndex.candidates_insert, hlength, List.range_succ, List.filter_append, hold]
  by_cases hk : f.key = key
  · simp [hf, hk]
  · simp [hf, hk]

theorem Indexed.add (h : l.Indexed) (d : Draft) : (l.add d).Indexed := by
  refine h.concat (fields_add l d) ?_
  rw [Field.key, Buffers.draft_place]
  rfl

/-- With a faithful index the look-up finds the first answering field of the whole list. -/
theorem Indexed.find?_eq (h : l.Indexed) {owner : Owner} (ho : l.grammar.Knows owner)
    (property : String) :
    l.find? owner property =
      .ok (l.fields.findIdx? (answering l.grammar owner (Naming.propertyKey property))) := by
  rw [find?, firstMatch_of_knows ho, h, List.find?_filter, ← find?_range_eq_findIdx?]
  congr 2
  funext i
  cases l.fields[i]? <;> simp [answering]

theorem Indexed.field?_eq (h : l.Indexed) {owner : Owner} (ho : l.grammar.Knows owner)
    (property : String) :
    l.field? owner property =
      .ok (l.fields.find? (answering l.grammar owner (Naming.propertyKey property))) := by
  rw [field?, h.find?_eq ho, List.find?_eq_bind_findIdx?_getElem?]
  rfl

theorem field?_congr (l : Layout) (owner : Owner) {property property' : String}
    (h : Naming.propertyKey property = Naming.propertyKey property') :
    l.field? owner property = l.field? owner property' := by
  rw [field?, field?, find?, find?, h]

theorem Indexed.key_of_field? (h : l.Indexed) {owner : Owner} (ho : l.grammar.Knows owner)
    {property : String} {f : Field} (hf : l.field? owner property = .ok (some f)) :
    f.key = Naming.propertyKey property := by
  rw [h.field?_eq ho] at hf
  have ha := List.find?_some (Except.ok.inj hf)
  simp only [answering, decide_eq_true_eq] at ha
  exact ha.1

/-- A look-up finds the field of another one exactly if the keys are the same. -/
theorem Indexed.field?_eq_iff (h : l.Indexed) {owner : Owner} (ho : l.grammar.Knows owner)
    {property property' : String} {f : Field} (hf : l.field? owner property = .ok (some f)) :
    l.field? owner property' = .ok (some f) ↔
      Naming.propertyKey property' = Naming.propertyKey property := by
  constructor
  · intro hf'
    exact (h.key_of_field? ho hf').symm.trans (h.key_of_field? ho hf)
  · intro hk
    rw [l.field?_congr owner hk, hf]

end Layout
end GrammarLayout
