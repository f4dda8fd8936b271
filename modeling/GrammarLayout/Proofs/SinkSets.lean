import GrammarLayout.Sink
import Mathlib.Data.Finset.Card
import Mathlib.Data.List.Induction

/-!
# Sink sets

A schedule comes about by insertions, in any order and for any classes. What a class has in it is
what was inserted for this class, one list behind the other, with each sink where it came first.
-/

namespace GrammarLayout

theorem nodup_eraseDups {α : Type} [DecidableEq α] (xs : List α) : xs.eraseDups.Nodup := by
  induction xs using List.reverseRecOn with
  | nil => exact List.nodup_nil
  | append_singleton xs x ih =>
    rw [eraseDups_concat]
    split
    · exact ih
    · next hnew =>
      rw [← List.concat_eq_append]
      exact ih.concat (mt List.mem_eraseDups.mp hnew)

namespace Schedule

variable (calls : List (ClassId × List SinkRef)) (id : ClassId)

def insertAll : Schedule := calls.foldl (fun s call => s.insert call.1 call.2) empty

def inserted : List SinkRef := (calls.filter fun call => call.1 = id).flatMap Prod.snd

theorem insertAll_concat (call : ClassId × List SinkRef) :
    insertAll (calls ++ [call]) = (insertAll calls).insert call.1 call.2 :=
  List.foldl_concat _ _ _ _

theorem inserted_concat (call : ClassId × List SinkRef) : inserted (calls ++ [call]) id =
    if call.1 = id then inserted calls id ++ call.2 else inserted calls id := by
  by_cases hid : call.1 = id <;> simp [inserted, hid]

theorem inserted_filter :
    inserted (calls.filter fun call => call.1 = id) id = inserted calls id := by
  simp only [inserted, List.filter_filter, Bool.and_self]

theorem sinks_insertAll : (insertAll calls).sinks id = (inserted calls id).eraseDups := by
  induction calls using List.reverseRecOn with
  | nil => rfl
  | append_singleton calls call ih =>
    rw [insertAll_concat, sinks_insert, inserted_concat]
    split
    · next hid =>
      subst hid
      rw [ih, appendNew_eraseDups]
    · exact ih

/-- The classes with an entry are those that something was inserted for, be it the empty list. -/
theorem keys_insertAll : (insertAll calls).entries.keys = (calls.map Prod.fst).eraseDups := by
  induction calls using List.reverseRecOn with
  | nil => rfl
  | append_singleton calls call ih =>
    rw [insertAll_concat, List.map_append, List.map_singleton, eraseDups_concat]
    simp only [insert, OrderedMap.keys_insert, ih, List.mem_eraseDups]

theorem size_insertAll : (insertAll calls).size = (calls.map Prod.fst).toFinset.card := by
  have hsame : (insertAll calls).entries.keys.toFinset = (calls.map Prod.fst).toFinset := by
    ext id
    rw [keys_insertAll, List.mem_toFinset, List.mem_toFinset, List.mem_eraseDups]
  rw [← hsame, List.toFinset_card_of_nodup (OrderedMap.nodup_keys _), OrderedMap.length_keys]
  rfl

/-- What a schedule has in it after some insertions. -/
structure KeepsFirst (calls : List (ClassId × List SinkRef)) (s : Schedule) : Prop where
  sinks : ∀ id, s.sinks id = (inserted calls id).eraseDups
  nodup : ∀ id, (s.sinks id).Nodup
  /-- What is inserted for other classes might as well be left out. -/
  others : ∀ id, s.sinks id = (insertAll (calls.filter fun call => call.1 = id)).sinks id
  size : s.size = (calls.map Prod.fst).toFinset.card

/-- The sinks of each class are an ordered set, however often and for whatever classes sinks are
inserted. -/
theorem keepsFirst_insertAll : KeepsFirst calls (insertAll calls) where
  sinks := sinks_insertAll calls
  nodup id := by
    rw [sinks_insertAll]
    exact nodup_eraseDups _
  others id := by rw [sinks_insertAll, sinks_insertAll, inserted_filter]
  size := size_insertAll calls

end Schedule
end GrammarLayout
