import GrammarLayout.Json.Value
import GrammarLayout.Proofs.Spelling.Container
import GrammarLayout.Proofs.Spelling.Numeral

/-!
# Written values are read back

The written form of a value is one of its spellings: the blanks between the tokens are line breaks
and spaces. Reading it gives the value back, if its containers are not nested too deeply and its
numbers are whole and of up to 64 bits.
-/

namespace GrammarLayout.Json

variable {α : Type} {n level : Nat} {ws t rest tok : List Char} {v : Value}

namespace Value

/-- Containers are nested at most `n` deep, and numbers are whole numbers of up to 64 bits. -/
inductive Readable : Nat → Value → Prop
  | null {n : Nat} : Readable n null
  | boolean {n : Nat} (b : Bool) : Readable n (.scalar (.boolean b))
  | natural {n k : Nat} : k < UInt64.size → Readable n (natural k)
  | text {n : Nat} (s : String) : Readable n (text s)
  | array {n : Nat} {vs : List Value} : (∀ v ∈ vs, Readable n v) → Readable (n + 1) (array vs)
  | object {n : Nat} {ms : List (String × Value)} : (∀ m ∈ ms, Readable n m.2) →
      Readable (n + 1) (object ms)

theorem blanks_newLine (level : Nat) : Blanks (newLine level) := by
  intro c hc
  obtain rfl | hc := List.mem_cons.mp hc
  · simp
  · simp [List.eq_of_mem_replicate hc]

theorem itemsTail_writeElements (hws : Blanks ws) (vs : List Value) :
    ItemsTail ']' (vs.map (write level)) (writeElements level vs ++ (ws ++ [']'])) := by
  induction vs with
  | nil => exact .close hws
  | cons v vs ih =>
    simp only [writeElements, List.cons_append, List.append_assoc]
    exact .item blanks_nil (blanks_newLine level) ih

/-- An array is written as the array of its written elements. -/
theorem arrayText_write (level : Nat) (vs : List Value) :
    ArrayText (vs.map (write (level + 1))) (write level (array vs)) := by
  cases vs with
  | nil => exact ⟨[']'], .close blanks_nil, by rw [write]⟩
  | cons v vs =>
    refine ⟨_, .item (blanks_newLine (level + 1))
      (itemsTail_writeElements (blanks_newLine level) vs), ?_⟩
    simp only [write, List.append_assoc]

def writtenMember (level : Nat) (m : String × Value) : List Char × List Char :=
  (writeString m.1, write level m.2)

def writeMember (level : Nat) (m : String × Value) : List Char :=
  writeString m.1 ++ ([] ++ ':' :: ([' '] ++ write level m.2))

theorem memberText_write (level : Nat) (ms : List (String × Value)) :
    List.Forall₂ MemberText (ms.map (writtenMember level)) (ms.map (writeMember level)) := by
  rw [List.forall₂_map_left_iff, List.forall₂_map_right_iff, List.forall₂_same]
  exact fun m _ => .colon blanks_nil (blanks_singleton rfl)

theorem itemsTail_writeMembers (hws : Blanks ws) (ms : List (String × Value)) :
    ItemsTail '\x7d' (ms.map (writeMember level)) (writeMembers level ms ++ (ws ++ ['\x7d'])) := by
  induction ms with
  | nil => exact .close hws
  | cons m ms ih =>
    have htext : writeMembers level (m :: ms) ++ (ws ++ ['\x7d']) = [] ++ ',' :: (newLine level ++
        (writeMember level m ++ (writeMembers level ms ++ (ws ++ ['\x7d'])))) := by
      simp [writeMembers, writeMember]
    rw [htext]
    exact .item blanks_nil (blanks_newLine level) ih

/-- An object is written as the object of its written members. -/
theorem objectText_write (level : Nat) (ms : List (String × Value)) :
    ObjectText (ms.map (writtenMember (level + 1))) (write level (object ms)) := by
  refine ⟨ms.map (writeMember (level + 1)), ?_⟩
  cases ms with
  | nil => exact ⟨['\x7d'], memberText_write _ _, .close blanks_nil, by rw [write]⟩
  | cons m ms =>
    refine ⟨_, memberText_write _ _, .item (blanks_newLine (level + 1))
      (itemsTail_writeMembers (blanks_newLine level) ms), ?_⟩
    simp [write, writeMember]

theorem scalar_text (s : String) (rest : List Char) :
    Json.scalar.Takes (writeString s ++ rest) (.text s) rest := by
  obtain ⟨u, hu, hl, h⟩ := (spellsText_writeString s).stringValue_takes rest
  rw [hu, List.cons_append]
  refine ⟨Nat.lt_succ_of_lt hl, ?_⟩
  rw [Json.scalar, h]
  rfl

theorem scalar_natural (h : n < UInt64.size) (hrest : Delimited rest) :
    Json.scalar.Takes (Nat.toDigits 10 n ++ rest) (.integer n) rest := by
  have hn := number_takes h hrest
  obtain ⟨c, u, hu, hc⟩ := (spells_toDigits n).exists_head
  rw [hu, List.cons_append] at hn ⊢
  obtain ⟨hl, hn⟩ := hn
  refine ⟨hl, Eq.trans ?_ hn⟩
  rw [Json.scalar, if_pos hc] <;> exact ne_of_numeralHead hc (by decide)

structure Plain (tok : List Char) : Prop where
  starts : Starts tok
  head : ∀ c ∈ tok.head?, c ≠ '[' ∧ c ≠ '{'

theorem readAround_scalar {inner : Option (Reader Value)} {s : Scalar} (htok : Plain tok)
    (h : ∀ rest, Delimited rest → Json.scalar.Takes (tok ++ rest) s rest) :
    (readAround inner).Reads tok (.scalar s) := by
  refine ⟨htok.starts, fun ws rest hws hrest => ?_⟩
  have hd : dropBlank (ws ++ (tok ++ rest)) = tok ++ rest := by
    rw [dropBlank_append hws, (htok.starts.append rest).dropBlank_eq]
  have hs : Json.scalar.Takes (dropBlank (ws ++ (tok ++ rest))) s rest := by
    rw [hd]
    exact h rest hrest
  have hne : ∀ c u, tok ++ rest = c :: u → c ≠ '[' ∧ c ≠ '{' := by
    intro c u hcu
    obtain ⟨d, v, rfl, -⟩ := htok.starts
    cases hcu
    exact htok.head c rfl
  obtain ⟨hl, hs⟩ := hs
  refine ⟨Nat.lt_of_lt_of_le hl (length_dropBlank_le _), ?_⟩
  unfold readAround
  split
  · next hr => exact absurd rfl (hne _ _ (hd.symm.trans hr)).1
  · next hr => exact absurd rfl (hne _ _ (hd.symm.trans hr)).2
  · rw [hs]
    rfl

theorem readAround_array {read : Reader Value} {vs : List Value} {toks : List (List Char)}
    (h : ArrayText toks tok) (hvs : List.Forall₂ (fun v tok => read.Reads tok v) vs toks) :
    (readAround (some read)).Reads tok (array vs) := by
  refine h.reads (readsElements_append hvs []) fun t u rest hd ⟨hl, he⟩ => ?_
  refine ⟨Nat.lt_trans hl (length_lt_of_dropBlank hd), ?_⟩
  unfold readAround
  split
  · next h =>
    cases hd.symm.trans h
    simp only [he]
    rfl
  · next h => cases hd.symm.trans h
  · next h _ => exact absurd hd (h _)

theorem readsMembers_append {read : Reader Value} {ms : List (String × Value)}
    {ps : List (List Char × List Char)}
    (h : List.Forall₂ (fun m p => SpellsText m.1 p.1 ∧ read.Reads p.2 m.2) ms ps)
    (acc : List (String × Value)) :
    ReadsMembers (fun ms key => .ok (read.map fun v => ms ++ [(key, v)])) acc ps (acc ++ ms) := by
  induction h generalizing acc with
  | nil =>
    rw [List.append_nil]
    exact .nil
  | @cons m p ms ps h _ ih =>
    rw [List.append_cons acc m ms]
    exact .cons h.1 rfl (h.2.map fun v => acc ++ [(m.1, v)]) (ih _)

theorem readAround_object {read : Reader Value} {ms : List (String × Value)}
    {ps : List (List Char × List Char)} (h : ObjectText ps tok)
    (hms : List.Forall₂ (fun m p => SpellsText m.1 p.1 ∧ read.Reads p.2 m.2) ms ps) :
    (readAround (some read)).Reads tok (object ms) := by
  refine h.reads (readsMembers_append hms []) fun t u rest hd ⟨hl, he⟩ => ?_
  refine ⟨Nat.lt_trans hl (length_lt_of_dropBlank hd), ?_⟩
  unfold readAround
  split
  · next h => cases hd.symm.trans h
  · next h =>
    cases hd.symm.trans h
    simp only [he]
    rfl
  · next h => exact absurd hd (h _)

theorem readNested_scalar {s : Scalar} (htok : Plain tok)
    (h : ∀ rest, Delimited rest → Json.scalar.Takes (tok ++ rest) s rest) :
    (readNested n).Reads tok (.scalar s) := by
  cases n <;> exact readAround_scalar htok h

theorem plain_cons {c : Char} (h : isDelimiter c = false) (hc : c ≠ '[' ∧ c ≠ '{') (t : List Char) :
    Plain (c :: t) := by
  refine ⟨⟨c, t, rfl, h⟩, fun d hd => ?_⟩
  cases hd
  exact hc

theorem plain_toDigits (n : Nat) : Plain (Nat.toDigits 10 n) := by
  refine ⟨(spells_toDigits n).starts, ?_⟩
  obtain ⟨c, u, hu, hc⟩ := (spells_toDigits n).exists_head
  intro d hd
  rw [hu] at hd
  cases hd
  exact ⟨ne_of_numeralHead hc (by decide), ne_of_numeralHead hc (by decide)⟩

theorem Readable.reads (h : Readable n v) (level : Nat) :
    (readNested n).Reads (v.write level) v := by
  induction h generalizing level with
  | null =>
    rw [Value.null, write, Scalar.write]
    exact readNested_scalar (plain_cons rfl (by decide) _) fun rest _ =>
      literal_takes 'n' ['u', 'l', 'l'] Scalar.null rest
  | boolean b =>
    rw [write]
    cases b with
    | true =>
      exact readNested_scalar (plain_cons rfl (by decide) _) fun rest _ =>
        literal_takes 't' ['r', 'u', 'e'] (Scalar.boolean true) rest
    | false =>
      exact readNested_scalar (plain_cons rfl (by decide) _) fun rest _ =>
        literal_takes 'f' ['a', 'l', 's', 'e'] (Scalar.boolean false) rest
  | @natural n k h =>
    have hwrite : (Value.natural k).write level = Nat.toDigits 10 k := by
      simp [Value.natural, write, Scalar.write, writeInteger]
    rw [hwrite]
    exact readNested_scalar (plain_toDigits k) fun rest hrest => scalar_natural h hrest
  | text s =>
    rw [Value.text, write, Scalar.write]
    exact readNested_scalar (plain_cons rfl (by decide) _) fun rest _ => scalar_text s rest
  | array _ ih =>
    refine readAround_array (arrayText_write level _) ?_
    rw [List.forall₂_map_right_iff, List.forall₂_same]
    exact fun v hv => ih v hv (level + 1)
  | object _ ih =>
    refine readAround_object (objectText_write level _) ?_
    rw [List.forall₂_map_right_iff, List.forall₂_same]
    exact fun m hm => ⟨spellsText_writeString m.1, ih m hm (level + 1)⟩

/-- A value is read back from a text that holds its written form and blanks around. -/
theorem Readable.read_write (h : Readable 127 v) (hws : Blanks ws) {ws' : List Char}
    (hws' : Blanks ws') : read (ws ++ (v.write 0 ++ ws')) = .ok v :=
  document_reads (h.reads 0) hws hws'

end Value
end GrammarLayout.Json
