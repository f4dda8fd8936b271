import GrammarLayout.Proofs.Request

/-!
# The index against a scan

A look-up goes only through the positions that the index has under the key, and a scan through all
fields. The two agree where the index has the position of every field under the key of the field, in
ascending order.
-/

namespace GrammarLayout
namespace FieldIndex

def listed (index : FieldIndex) : List Nat := index.positions.values.flatten

/-- Adding a position behind those under a key adds it to all that there are. -/
theorem perm_flatten_put (key : String) (position : Nat) (es : List (String × List Nat)) :
    ((OrderedMap.put key ((OrderedMap.lookup key es).getD [] ++ [position]) es).map
        Prod.snd).flatten.Perm ((es.map Prod.snd).flatten ++ [position]) := by
  induction es with
  | nil => simp [OrderedMap.put, OrderedMap.lookup]
  | cons e es ih =>
    obtain ⟨k, ps⟩ := e
    by_cases hk : k = key
    · simp only [OrderedMap.put, OrderedMap.lookup, if_pos hk, Option.getD_some, List.map_cons,
        List.flatten_cons, List.append_assoc]
      exact List.perm_append_comm.append_left ps
    · simp only [OrderedMap.put, OrderedMap.lookup, if_neg hk, List.map_cons, List.flatten_cons,
        List.append_assoc]
      exact ih.append_left ps

theorem listed_insert (index : FieldIndex) (key : String) (position : Nat) :
    (index.insert key position).listed.Perm (index.listed ++ [position]) :=
  perm_flatten_put key position index.positions.entries

end FieldIndex

namespace Layout

variable {l : Layout} {key : String} {i : Nat}

def scan? (l : Layout) (owner : Owner) (key : String) : Option Nat :=
  l.fields.findIdx? (answering l.grammar owner key)

theorem Indexed.mem_candidates_iff (h : l.Indexed) :
    i ∈ l.index.candidates key ↔ ∃ f, l.fields[i]? = some f ∧ f.key = key := by
  rw [h key, List.mem_filter, List.mem_range, Option.any_eq_true]
  constructor
  · rintro ⟨_, f, hf, hk⟩
    exact ⟨f, hf, by simpa using hk⟩
  · rintro ⟨f, hf, hk⟩
    exact ⟨(List.getElem?_eq_some_iff.mp hf).1, f, hf, by simpa using hk⟩

theorem Indexed.ascending (h : l.Indexed) (key : String) :
    (l.index.candidates key).Pairwise (· < ·) := by
  rw [h key]
  exact List.pairwise_lt_range.filter _

end Layout
end GrammarLayout
