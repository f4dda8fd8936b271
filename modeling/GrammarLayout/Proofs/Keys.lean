import GrammarLayout.Layout.Plan
import Mathlib.Tactic

/-!
# Keys of names that are put together

The names of links and snapshots are put together with underscores. An underscore ends a word, so
the letters on its two sides do not take part in each other's lower case, not even a final sigma.
The key of such a name is therefore put together in the same way, and its ending can be read off it.
-/

namespace GrammarLayout
namespace Text

variable {c : Char} {xs ys : List Char}

/-- Casing does not look through the character and finds no letter in it. -/
structure EndsWord (c : Char) : Prop where
  seen : isCaseIgnorable c = false
  uncased : isCased c = false
  lower : lowerChar c = [c]

theorem endsWord_underscore : EndsWord '_' := by
  constructor <;> decide +kernel

namespace EndsWord

theorem nextIsCased_cons (h : EndsWord c) (xs : List Char) : nextIsCased (c :: xs) = false := by
  simp [nextIsCased, h.seen, h.uncased]

theorem nextIsCased_append (h : EndsWord c) (xs ys : List Char) :
    nextIsCased (xs ++ c :: ys) = nextIsCased xs := by
  induction xs with
  | nil => exact h.nextIsCased_cons ys
  | cons x xs ih => simp [nextIsCased, ih]

theorem ne_sigma (h : EndsWord c) : c ≠ 'Σ' := by
  rintro rfl
  have hcased : isCased 'Σ' = true := by decide +kernel
  rw [h.uncased] at hcased
  cases hcased

end EndsWord

theorem lowerAfter_congr {before before' : List Char}
    (h : nextIsCased before = nextIsCased before') (xs : List Char) :
    lowerAfter before xs = lowerAfter before' xs := by
  induction xs generalizing before before' with
  | nil => rfl
  | cons x xs ih =>
    have hx : nextIsCased (x :: before) = nextIsCased (x :: before') := by
      simp only [nextIsCased, h]
    simp only [lowerAfter, h, ih hx]

theorem EndsWord.lowerAfter_append (h : EndsWord c) (before xs ys : List Char) :
    lowerAfter before (xs ++ c :: ys) = lowerAfter before xs ++ c :: lowercase ys := by
  induction xs generalizing before with
  | nil =>
    have hnew : lowerAfter (c :: before) ys = lowercase ys :=
      lowerAfter_congr (h.nextIsCased_cons before) ys
    simp [lowerAfter, h.ne_sigma, h.lower, hnew]
  | cons x xs ih =>
    simp only [List.cons_append, lowerAfter, h.nextIsCased_append, ih, List.append_assoc]

/-- Lower case is taken on the two sides of the end of a word on their own. -/
theorem EndsWord.lowercase_append (h : EndsWord c) (xs ys : List Char) :
    lowercase (xs ++ c :: ys) = lowercase xs ++ c :: lowercase ys :=
  h.lowerAfter_append [] xs ys

end Text

/-- What does not occur in a text does not matter for whether another begins with it. -/
theorem isPrefixOf_append_cons {α : Type} [DecidableEq α] {p : List α} {x : α} (h : x ∉ p)
    (xs ys : List α) : p.isPrefixOf (xs ++ x :: ys) = p.isPrefixOf xs := by
  induction p generalizing xs with
  | nil => rfl
  | cons y p ih =>
    rw [List.mem_cons, not_or] at h
    cases xs with
    | nil => simp [List.isPrefixOf, Ne.symm h.1]
    | cons z xs => simp only [List.cons_append, List.isPrefixOf, ih h.2]

namespace Naming

/-- Every separator is replaced by an underscore. -/
def underscored (cs : List Char) : List Char := cs.map fun c => if c = '@' then '_' else c

theorem underscored_eq_self {cs : List Char} (h : '@' ∉ cs) : underscored cs = cs := by
  unfold underscored
  nth_rewrite 2 [← List.map_id cs]
  apply List.map_congr_left
  intro c hc
  have hne : c ≠ '@' := fun e => h (e ▸ hc)
  simp [hne]

theorem toList_propertyKey (p : String) :
    (propertyKey p).toList = collapseSeparators (Text.lowercase p.toList) := by
  rw [propertyKey, String.toList_ofList]

theorem collapseSeparators_append {t : List Char} (h : '@' ∉ t) (cs : List Char) :
    collapseSeparators (cs ++ '_' :: t) = collapseSeparators cs ++ '_' :: t := by
  have hself : ['s', 'e', 'l', 'f', '@'].isPrefixOf (cs ++ '_' :: t) =
      ['s', 'e', 'l', 'f', '@'].isPrefixOf cs :=
    isPrefixOf_append_cons (by decide) cs t
  have ht : underscored ('_' :: t) = '_' :: t := underscored_eq_self (by simpa using h)
  unfold collapseSeparators
  rw [hself]
  split
  · rfl
  · rw [List.map_append]
    exact congrArg _ ht

def linkEndings : List String := ["_leftmost_child", "_count"]

def snapshotEndings : List String := ["_init", "_last"]

def endings : List String := linkEndings ++ snapshotEndings

variable {e e' p p' : String}

/-- Endings begin with an underscore and stand for themselves in a key. -/
theorem ending_plain : ∀ e ∈ endings, e.toList.head? = some '_' ∧
    Text.lowercase e.toList.tail = e.toList.tail ∧ '@' ∉ e.toList.tail := by
  decide +kernel

theorem ending_not_suffix : ∀ e ∈ endings, ∀ e' ∈ endings, e ≠ e' → ¬ e.toList <:+ e'.toList := by
  decide +kernel

/-- The key of a name with an ending is that of what stands before it, with the ending. -/
theorem propertyKey_append (he : e ∈ endings) (p : String) :
    propertyKey (p ++ e) = propertyKey p ++ e := by
  obtain ⟨hhead, hlower, hplain⟩ := ending_plain e he
  have hsplit : e.toList = '_' :: e.toList.tail := by
    rw [List.cons_head?_tail (by simpa using hhead)]
  rw [← String.toList_inj, String.toList_append, toList_propertyKey, toList_propertyKey,
    String.toList_append, hsplit, Text.endsWord_underscore.lowercase_append, hlower,
    collapseSeparators_append hplain]

theorem ending_suffix_key (he : e ∈ endings) (p : String) :
    e.toList <:+ (propertyKey (p ++ e)).toList := by
  rw [propertyKey_append he, String.toList_append]
  exact List.suffix_append _ _

/-- Names with endings have one key exactly if the endings are the same and the keys of what stands
before them are. -/
theorem propertyKey_append_eq_iff (he : e ∈ endings) (he' : e' ∈ endings) :
    propertyKey (p ++ e) = propertyKey (p' ++ e') ↔ e = e' ∧ propertyKey p = propertyKey p' := by
  constructor
  · intro h
    have hs := ending_suffix_key he p
    have hs' := ending_suffix_key he' p'
    rw [← h] at hs'
    have hee : e = e' := by
      by_contra hne
      rcases List.suffix_or_suffix_of_suffix hs hs' with hsuffix | hsuffix
      · exact ending_not_suffix e he e' he' hne hsuffix
      · exact ending_not_suffix e' he' e he (Ne.symm hne) hsuffix
    subst hee
    rw [propertyKey_append he, propertyKey_append he, String.append_left_inj] at h
    exact ⟨rfl, h⟩
  · rintro ⟨rfl, h⟩
    rw [propertyKey_append he, propertyKey_append he, h]

theorem universal_key_ne (he : e ∈ endings) (p : String) :
    ∀ r ∈ Layout.universalRequests, propertyKey r.property ≠ propertyKey (p ++ e) := by
  have hall : ∀ r ∈ Layout.universalRequests, ∀ e ∈ endings,
      ¬ e.toList <:+ (propertyKey r.property).toList := by
    decide +kernel
  intro r hr hk
  apply hall r hr e he
  rw [hk]
  exact ending_suffix_key he p

/-- What of a role is left in the keys of its links: lower case, with underscores for separators. -/
def roleKey (role : String) : String := String.ofList (underscored (Text.lowercase role.toList))

theorem lowercase_child (role : String) : Text.lowercase ("child_" ++ role).toList =
    'c' :: 'h' :: 'i' :: 'l' :: 'd' :: '_' :: Text.lowercase role.toList := by
  have hsplit : ("child_" ++ role).toList = ['c', 'h', 'i', 'l', 'd'] ++ '_' :: role.toList := by
    rw [String.toList_append]
    rfl
  have hchild : Text.lowercase ['c', 'h', 'i', 'l', 'd'] = ['c', 'h', 'i', 'l', 'd'] := by
    decide +kernel
  rw [hsplit, Text.endsWord_underscore.lowercase_append, hchild]
  rfl

theorem propertyKey_child (role : String) :
    propertyKey ("child_" ++ role) = "child_" ++ roleKey role := by
  have hcollapse : ∀ cs, collapseSeparators ('c' :: 'h' :: 'i' :: 'l' :: 'd' :: '_' :: cs) =
      'c' :: 'h' :: 'i' :: 'l' :: 'd' :: '_' :: underscored cs := fun _ => rfl
  rw [propertyKey, lowercase_child, hcollapse, roleKey, ← String.toList_inj]
  simp [String.toList_append]

end Naming
end GrammarLayout
