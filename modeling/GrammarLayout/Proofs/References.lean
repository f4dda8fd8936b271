import GrammarLayout.Proofs.AsciiCase
import GrammarLayout.Proofs.Identifiers
import GrammarLayout.Proofs.Lookup
import GrammarLayout.Sink

/-!
# References to sinks as keys

A reference is a property as well as a sink, and there are two ways to its key: the key of the text
itself, and that of the stem of the sink that the text is read as. The two are the same unless the
role is `self`, which the one keeps and the other drops.
-/

namespace GrammarLayout

variable {role prop text : String}

namespace SinkRef

theorem ne_separator {cs : List Char} (h : '@' ∉ cs) : ∀ c ∈ cs, decide (c ≠ '@') = true := by
  intro c hc
  exact decide_eq_true fun he => h (he ▸ hc)

theorem parse_of_notMem (h : '@' ∉ text.toList) : parse text = own text := by
  have hnone : (text.toList ++ []).dropWhile (· ≠ '@') = [] :=
    List.dropWhile_append_of_pos (ne_separator h)
  rw [List.append_nil] at hnone
  rw [parse, hnone]

theorem parse_join (h : '@' ∉ role.toList) (prop : String) : parse (role ++ "@" ++ prop) =
    if Text.asciiLowercase role = "self" then selfRef prop else child role prop := by
  have hlist : (role ++ "@" ++ prop).toList = role.toList ++ '@' :: prop.toList := by
    simp [String.toList_append]
  have hdrop : (role.toList ++ '@' :: prop.toList).dropWhile (· ≠ '@') = '@' :: prop.toList := by
    rw [List.dropWhile_append_of_pos (ne_separator h)]
    rfl
  have htake : (role.toList ++ '@' :: prop.toList).takeWhile (· ≠ '@') = role.toList := by
    rw [List.takeWhile_append_of_pos (ne_separator h), List.takeWhile_cons_of_neg (by decide),
      List.append_nil]
  rw [parse, hlist, hdrop, htake]
  simp only [String.ofList_toList]

theorem exists_join (h : '@' ∈ text.toList) :
    ∃ role prop, '@' ∉ role.toList ∧ text = role ++ "@" ++ prop := by
  obtain ⟨as, bs, hsplit, has⟩ := List.eq_append_cons_of_mem h
  refine ⟨String.ofList as, String.ofList bs, by rwa [String.toList_ofList], ?_⟩
  rw [← String.toList_inj, hsplit]
  simp [String.toList_append]

end SinkRef

namespace Naming

variable {cs ds : List Char}

theorem endsWord_separator : Text.EndsWord '@' := by
  constructor <;> decide +kernel

theorem plain_separator : Text.Plain '@' := by
  constructor <;> decide

theorem plain_self : ∀ x ∈ "self".toList, Text.Plain x := by
  have hall : "self".toList.all (fun x => x.toNat < 128 ∧ x ≠ 'i' ∧ x ≠ 'k') = true := by
    decide +kernel
  intro x hx
  obtain ⟨hascii, hi, hk⟩ := of_decide_eq_true (List.all_eq_true.mp hall x hx)
  exact ⟨hascii, hi, hk⟩

theorem separator_mem_lowercase_iff : '@' ∈ Text.lowercase cs ↔ '@' ∈ cs := by
  have hascii : ∀ n < 128, (Char.ofNat n).toLower = '@' ↔ Char.ofNat n = '@' := by decide
  have hlower : ∀ c : Char, c.toLower = '@' ↔ c = '@' := by
    intro c
    by_cases hc : c.toNat < 128
    · have hn := hascii c.toNat hc
      rwa [Char.ofNat_toNat] at hn
    · rw [Text.toLower_of_not_ascii hc]
  simp only [Text.mem_lowercase_iff plain_separator, List.mem_map, hlower, exists_eq_right]

/-- No text but `self` in one of its ASCII cases has `self` as its lower case. -/
theorem lowercase_eq_self_iff :
    Text.lowercase role.toList = "self".toList ↔ Text.asciiLowercase role = "self" := by
  rw [Text.lowercase_eq_iff plain_self, ← String.toList_inj, Text.asciiLowercase,
    String.toList_map]

/-- What stands before the first separator decides whether a text begins with `self@`. -/
theorem self_isPrefixOf_iff (h : '@' ∉ cs) :
    ['s', 'e', 'l', 'f', '@'].isPrefixOf (cs ++ '@' :: ds) ↔ cs = "self".toList := by
  rw [List.isPrefixOf_iff_prefix]
  constructor
  · rintro ⟨t, ht⟩
    have hjoin : "self".toList ++ '@' :: t = cs ++ '@' :: ds := ht
    rcases join_eq_join_iff.mp hjoin with ⟨hcs, _⟩ | ⟨w, hcs, _⟩ | ⟨w, hself, _⟩
    · exact hcs.symm
    · rw [hcs] at h
      exact absurd (List.mem_append_right _ List.mem_cons_self) h
    · have hmem : '@' ∈ "self".toList := by
        rw [hself]
        exact List.mem_append_right cs List.mem_cons_self
      exact absurd hmem (by decide)
  · rintro rfl
    exact ⟨ds, rfl⟩

theorem length_collapseSeparators (cs : List Char) :
    (collapseSeparators cs).length = cs.length := by
  unfold collapseSeparators
  split
  · rfl
  · exact List.length_map _

/-- Behind another role than `self`, a separator counts as an underscore. -/
theorem collapseSeparators_join (h : '@' ∉ cs) (hs : cs ≠ "self".toList) (ds : List Char) :
    collapseSeparators (cs ++ '@' :: ds) = collapseSeparators (cs ++ '_' :: ds) := by
  have hjoin : ¬ ['s', 'e', 'l', 'f', '@'].isPrefixOf (cs ++ '@' :: ds) :=
    mt (self_isPrefixOf_iff h).mp hs
  have hstem : ¬ ['s', 'e', 'l', 'f', '@'].isPrefixOf (cs ++ '_' :: ds) := by
    rw [isPrefixOf_append_cons (by decide), List.isPrefixOf_iff_prefix]
    intro hbegin
    exact h (hbegin.subset (by decide))
  rw [collapseSeparators, if_neg hjoin, collapseSeparators, if_neg hstem, List.map_append,
    List.map_append]
  rfl

theorem lowercase_join {mark : String} {c : Char} (hmark : mark.toList = [c])
    (hc : Text.EndsWord c) (role prop : String) : Text.lowercase (role ++ mark ++ prop).toList =
      Text.lowercase role.toList ++ c :: Text.lowercase prop.toList := by
  rw [← hc.lowercase_append, String.toList_append, String.toList_append, hmark,
    List.append_assoc, List.singleton_append]

theorem propertyKey_join (h : '@' ∉ role.toList) (hs : Text.asciiLowercase role ≠ "self")
    (prop : String) : propertyKey (role ++ "@" ++ prop) = propertyKey (role ++ "_" ++ prop) := by
  have hlower : '@' ∉ Text.lowercase role.toList := mt separator_mem_lowercase_iff.mp h
  have hself : Text.lowercase role.toList ≠ "self".toList := mt lowercase_eq_self_iff.mp hs
  rw [propertyKey, propertyKey, lowercase_join rfl endsWord_separator,
    lowercase_join rfl Text.endsWord_underscore, collapseSeparators_join hlower hself]

/-- The key of a reference with the role `self` is longer than that of the property alone. -/
theorem propertyKey_self_ne (hs : Text.asciiLowercase role = "self") (prop : String) :
    propertyKey (role ++ "@" ++ prop) ≠ propertyKey prop := by
  intro he
  have hjoin : Text.lowercase (role ++ "@" ++ prop).toList =
      Text.lowercase role.toList ++ '@' :: Text.lowercase prop.toList :=
    lowercase_join rfl endsWord_separator role prop
  have hlength := congrArg (fun s => s.toList.length) he
  simp only [toList_propertyKey, length_collapseSeparators, hjoin,
    lowercase_eq_self_iff.mpr hs, List.length_append, List.length_cons] at hlength
  omega

end Naming

namespace SinkRef

open Naming

theorem propertyKey_stem_eq_iff (text : String) :
    propertyKey text = propertyKey (parse text).stem ↔ ∀ prop, parse text ≠ selfRef prop := by
  by_cases hmem : '@' ∈ text.toList
  · obtain ⟨role, prop, hrole, rfl⟩ := exists_join hmem
    rw [parse_join hrole]
    split
    · next hself =>
      constructor
      · intro he
        exact absurd he (propertyKey_self_ne hself prop)
      · intro hne
        exact absurd rfl (hne prop)
    · next hself =>
      constructor
      · intro _ prop' he
        cases he
      · intro _
        exact propertyKey_join hrole hself prop
  · rw [parse_of_notMem hmem]
    constructor
    · intro _ prop he
      cases he
    · intro _
      rfl

/-- The two ways to the key of a reference agree unless its role is `self`. So a look-up finds the
same field for the reference as for its stem, with any ending behind them. -/
theorem reference_keys_agree :
    (∀ text, propertyKey text = propertyKey (parse text).stem ↔
      ∀ prop, parse text ≠ selfRef prop) ∧
    ∀ (l : Layout) (owner : Owner) (role prop : String), '@' ∉ role.toList →
      Text.asciiLowercase role ≠ "self" → ∀ ending : String,
        l.field? owner (role ++ "@" ++ prop ++ ending) =
          l.field? owner (role ++ "_" ++ prop ++ ending) := by
  refine ⟨propertyKey_stem_eq_iff, ?_⟩
  intro l owner role prop hrole hself ending
  apply l.field?_congr
  have hbehind : ∀ front : String, front ++ prop ++ ending = front ++ (prop ++ ending) :=
    fun _ => String.append_assoc
  rw [hbehind, hbehind]
  exact propertyKey_join hrole hself (prop ++ ending)

/-- The property of the child has letters outside of ASCII and a separator in its name. -/
def accented : Grammar where
  interfaces := [{ name := "Node", attributes := ⟨[("größe@σ", ⟨"int", false⟩)], by simp⟩ }]
  classes := [⟨"Branch", ⟨0⟩, .empty, .empty, ⟨[("Left", ⟨0⟩)], by simp⟩⟩]

def accentedSinks : Schedule := Schedule.empty.insert ⟨0⟩ [parse "Left@größe@σ"]

theorem accented_keys_agree : ∃ l f, Layout.plan accented accentedSinks = .ok l ∧
    '@' ∉ "LEFT".toList ∧ Text.asciiLowercase "LEFT" ≠ "self" ∧
    l.field? (.ofClass ⟨0⟩) ("LEFT" ++ "@" ++ "GRÖẞE@Σ" ++ "_init") = .ok (some f) ∧
    l.field? (.ofClass ⟨0⟩) ("LEFT" ++ "_" ++ "GRÖẞE@Σ" ++ "_init") = .ok (some f) ∧
    f.type = .int := by
  obtain ⟨l, f, hl, hf, htype⟩ : ∃ l f, Layout.plan accented accentedSinks = .ok l ∧
      l.field? (.ofClass ⟨0⟩) ("LEFT" ++ "_" ++ "GRÖẞE@Σ" ++ "_init") = .ok (some f) ∧
        f.type = .int :=
    Layout.exists_field_of_type _ _ (by decide +kernel)
  have hsame := reference_keys_agree.2 l (.ofClass ⟨0⟩) "LEFT" "GRÖẞE@Σ" (by decide)
    (by decide +kernel) "_init"
  exact ⟨l, f, hl, by decide, by decide +kernel, hsame.trans hf, hf, htype⟩

end SinkRef
end GrammarLayout
