import GrammarLayout.Proofs.References

/-!
# References written and read back

A reference that is read and written again stays as it is, but for the role `self`, which comes out
in lower case. Not every sink is what some text is read as: the part before the first separator is
always taken for the role.
-/

namespace GrammarLayout.SinkRef

variable {role prop text : String} {s : SinkRef}

theorem separator_notMem_self (h : Text.asciiLowercase role = "self") : '@' ∉ role.toList := by
  intro hmem
  have hlower := Naming.separator_mem_lowercase_iff.mpr hmem
  rw [Naming.lowercase_eq_self_iff.mpr h] at hlower
  exact absurd hlower (by decide)

theorem parse_self (h : Text.asciiLowercase role = "self") (prop : String) :
    parse (role ++ "@" ++ prop) = selfRef prop := by
  rw [parse_join (separator_notMem_self h), if_pos h]

theorem text_parse (h : ∀ role prop, Text.asciiLowercase role = "self" →
    text ≠ role ++ "@" ++ prop) : (parse text).text = text := by
  by_cases hmem : '@' ∈ text.toList
  · obtain ⟨role, prop, hrole, rfl⟩ := exists_join hmem
    have hself : Text.asciiLowercase role ≠ "self" := fun hself => h role prop hself rfl
    rw [parse_join hrole, if_neg hself, SinkRef.text]
  · rw [parse_of_notMem hmem, SinkRef.text]

/-- The sinks that can be written: nothing in front of the property can be mistaken for a role, or
a role for another one. -/
def Legible : SinkRef → Prop
  | own p => '@' ∉ p.toList
  | selfRef _ => True
  | child r _ => '@' ∉ r.toList ∧ Text.asciiLowercase r ≠ "self"

instance : DecidablePred Legible
  | own p => inferInstanceAs (Decidable ('@' ∉ p.toList))
  | selfRef _ => inferInstanceAs (Decidable True)
  | child r _ => inferInstanceAs (Decidable ('@' ∉ r.toList ∧ Text.asciiLowercase r ≠ "self"))

theorem legible_parse (text : String) : Legible (parse text) := by
  by_cases hmem : '@' ∈ text.toList
  · obtain ⟨role, prop, hrole, rfl⟩ := exists_join hmem
    rw [parse_join hrole]
    split
    · exact trivial
    · next hself => exact ⟨hrole, hself⟩
  · rw [parse_of_notMem hmem]
    exact hmem

theorem Legible.parse_text (h : Legible s) : parse s.text = s := by
  cases s with
  | own p => exact parse_of_notMem h
  | selfRef p =>
    have hself : Text.asciiLowercase "self" = "self" := by decide +kernel
    exact parse_self hself p
  | child r p => rw [SinkRef.text, parse_join h.1, if_neg h.2]

/-- Reading what has been read and written again gives the same sink, and the text is the same but
for the role `self`. The sinks that are read back from their texts are those that some text is read
as. -/
theorem references_read_back :
    (∀ text, parse (parse text).text = parse text) ∧
      (∀ role prop, Text.asciiLowercase role = "self" →
        (parse (role ++ "@" ++ prop)).text = "self@" ++ prop) ∧
      (∀ text, (∀ role prop, Text.asciiLowercase role = "self" → text ≠ role ++ "@" ++ prop) →
        (parse text).text = text) ∧
      ∀ s, (parse s.text = s ↔ ∃ text, parse text = s) ∧ (parse s.text = s ↔ Legible s) := by
  refine ⟨fun text => (legible_parse text).parse_text, ?_, fun _ => text_parse, fun s => ⟨?_, ?_⟩⟩
  · intro role prop h
    rw [parse_self h]
    rfl
  · constructor
    · intro h
      exact ⟨s.text, h⟩
    · rintro ⟨text, rfl⟩
      exact (legible_parse text).parse_text
  · constructor
    · intro h
      rw [← h]
      exact legible_parse s.text
    · exact Legible.parse_text

/-- Only the first separator counts, and a role in capitals cannot be told from `self`. -/
theorem capitals_read_back : Text.asciiLowercase "SeLF" = "self" ∧
    (parse "SeLF@Left@sum").text = "self@Left@sum" ∧
    (∀ role prop, Text.asciiLowercase role = "self" → "left@SELF@sum" ≠ role ++ "@" ++ prop) ∧
    (parse "left@SELF@sum").text = "left@SELF@sum" ∧
    parse (child "SELF" "sum").text ≠ child "SELF" "sum" := by
  have hself : Text.asciiLowercase "SeLF" = "self" := by decide +kernel
  have hleft : ∀ role prop, Text.asciiLowercase role = "self" →
      "left@SELF@sum" ≠ role ++ "@" ++ prop := by
    intro role prop hrole he
    have hparse : parse "left@SELF@sum" = child "left" "SELF@sum" := by decide +kernel
    rw [he, parse_self hrole] at hparse
    cases hparse
  refine ⟨hself, references_read_back.2.1 "SeLF" "Left@sum" hself, hleft,
    references_read_back.2.2.1 _ hleft, ?_⟩
  rw [Ne, (references_read_back.2.2.2 _).2]
  decide +kernel

end GrammarLayout.SinkRef
