import GrammarLayout.Json.Kind
import GrammarLayout.Proofs.Spelling.Token

/-!
# Spellings of a string

A character of a string may be written as it is, by a letter after a backslash, or by its UTF-16
code units in hexadecimal digits, small or capital. The reader takes the string back from each of
its spellings, and the writer chooses one of them. Where a string is only passed over, its code
units may be any.
-/

namespace GrammarLayout.Json

variable {c d : Char} {n : Nat} {s u v t rest tok ws : List Char}

def IsHexDigit (n : Nat) (c : Char) : Prop :=
  n < 16 ∧ (c = n.digitChar ∨ c = n.digitChar.toUpper)

inductive SpellsUnit : Nat → List Char → Prop
  | digits {w x y z : Nat} {a b c d : Char} : IsHexDigit w a → IsHexDigit x b →
      IsHexDigit y c → IsHexDigit z d → SpellsUnit (((w * 16 + x) * 16 + y) * 16 + z) [a, b, c, d]

/-- The characters that have a letter of their own, and the letter. -/
def letterEscapes : List (Char × Char) :=
  [('"', '"'), ('\\', '\\'), ('/', '/'), ('\x08', 'b'), ('\x0c', 'f'), ('\n', 'n'), ('\r', 'r'),
    ('\t', 't')]

/-- The ways to write a character of a string. -/
inductive SpellsChar : Char → List Char → Prop
  | raw {c : Char} : ' ' ≤ c → c ≠ '"' → c ≠ '\\' → SpellsChar c [c]
  | letter {c d : Char} : (c, d) ∈ letterEscapes → SpellsChar c ['\\', d]
  | unit {c : Char} {u : List Char} : SpellsUnit c.toNat u → SpellsChar c ('\\' :: 'u' :: u)
  | pair {c : Char} {u v : List Char} : 0x10000 ≤ c.toNat →
      SpellsUnit (0xD800 + (c.toNat - 0x10000) / 0x400) u →
      SpellsUnit (0xDC00 + (c.toNat - 0x10000) % 0x400) v →
      SpellsChar c ('\\' :: 'u' :: (u ++ '\\' :: 'u' :: v))

inductive SpellsChars : List Char → List Char → Prop
  | nil : SpellsChars [] []
  | cons {c : Char} {s u v : List Char} : SpellsChar c u → SpellsChars s v →
      SpellsChars (c :: s) (u ++ v)

def SpellsText (s : String) (tok : List Char) : Prop :=
  ∃ u, SpellsChars s.toList u ∧ tok = '"' :: (u ++ ['"'])

/-- The characters of a string of which it does not matter what they stand for. -/
inductive PassableChars : List Char → Prop
  | nil : PassableChars []
  | raw {c : Char} {v : List Char} : ' ' ≤ c → c ≠ '"' → c ≠ '\\' → PassableChars v →
      PassableChars (c :: v)
  | letter {c d : Char} {v : List Char} : (c, d) ∈ letterEscapes → PassableChars v →
      PassableChars ('\\' :: d :: v)
  | unit {n : Nat} {u v : List Char} : SpellsUnit n u → PassableChars v →
      PassableChars ('\\' :: 'u' :: (u ++ v))

/-- A string of which it does not matter what it is. -/
def Passable (tok : List Char) : Prop := ∃ u, PassableChars u ∧ tok = '"' :: (u ++ ['"'])

theorem IsHexDigit.hexValue?_eq (h : IsHexDigit n c) : hexValue? c = some n := by
  obtain ⟨hn, rfl | rfl⟩ := h <;> decide +revert

theorem SpellsUnit.takes (h : SpellsUnit n u) (t : List Char) :
    codeUnit.Takes (u ++ t) n t := by
  obtain ⟨ha, hb, hc, hd⟩ := h
  refine ⟨by simp only [List.length_append, List.length_cons]; omega, ?_⟩
  simp only [List.cons_append, List.nil_append, codeUnit, ha.hexValue?_eq, hb.hexValue?_eq,
    hc.hexValue?_eq, hd.hexValue?_eq]

theorem letterEscape?_eq (h : (c, d) ∈ letterEscapes) : letterEscape? d = some c := by
  fin_cases h <;> rfl

theorem toNat_lt (c : Char) : c.toNat < 0x110000 := by
  have := c.valid
  simp only [UInt32.isValidChar, Nat.isValidChar, Char.toNat] at *
  omega

theorem not_surrogate (c : Char) : isLowSurrogate c.toNat = false ∧
    isHighSurrogate c.toNat = false := by
  have := c.valid
  simp only [isLowSurrogate, isHighSurrogate, Char.toNat, UInt32.isValidChar, Nat.isValidChar] at *
  simp only [Bool.and_eq_false_iff, decide_eq_false_iff_not]
  omega

theorem high_of_pair (c : Char) : isHighSurrogate (0xD800 + (c.toNat - 0x10000) / 0x400) := by
  have := toNat_lt c
  simp only [isHighSurrogate, Bool.and_eq_true, decide_eq_true_eq]
  omega

theorem low_of_pair (c : Char) : isLowSurrogate (0xDC00 + (c.toNat - 0x10000) % 0x400) := by
  simp only [isLowSurrogate, Bool.and_eq_true, decide_eq_true_eq]
  omega

theorem ofSurrogates_eq (h : 0x10000 ≤ c.toNat) :
    ofSurrogates (0xD800 + (c.toNat - 0x10000) / 0x400)
      (0xDC00 + (c.toNat - 0x10000) % 0x400) = c := by
  rw [ofSurrogates, Nat.add_sub_cancel_left, Nat.add_sub_cancel_left, Nat.div_add_mod',
    Nat.sub_add_cancel h, Char.ofNat_toNat]

theorem escape_letter (h : (c, d) ∈ letterEscapes) (t : List Char) :
    escape.Takes (d :: t) c t :=
  ⟨Nat.lt_succ_self _, by rw [escape, letterEscape?_eq h]; rfl⟩

theorem escape_codeEscape (h : codeEscape.Takes u c t) : escape.Takes ('u' :: u) c t := by
  obtain ⟨hl, h⟩ := h
  refine ⟨Nat.lt_succ_of_lt hl, ?_⟩
  rw [escape, h]
  rfl

theorem codeEscape_unit (h : SpellsUnit c.toNat u) (t : List Char) :
    codeEscape.Takes (u ++ t) c t := by
  obtain ⟨hl, h⟩ := h.takes t
  obtain ⟨hlow, hhigh⟩ := not_surrogate c
  refine ⟨hl, ?_⟩
  rw [codeEscape, h]
  simp [bind, Except.bind, hlow, hhigh, Parsed.map, pure, Except.pure]

theorem lowSurrogate_takes (h : SpellsUnit n u) (hn : isLowSurrogate n) (t : List Char) :
    lowSurrogate.Takes ('\\' :: 'u' :: (u ++ t)) n t := by
  obtain ⟨hl, h⟩ := h.takes t
  refine ⟨by simp only [List.length_cons]; omega, ?_⟩
  rw [lowSurrogate, h]
  simp [bind, Except.bind, hn, Parsed.behind, Parsed.within, pure, Except.pure]

theorem codeEscape_pair {high low : Nat} (hu : SpellsUnit high u) (hhigh : isHighSurrogate high)
    (hv : SpellsUnit low v) (hlow : isLowSurrogate low) (t : List Char) :
    codeEscape.Takes (u ++ '\\' :: 'u' :: (v ++ t)) (ofSurrogates high low) t := by
  have hnot : isLowSurrogate high = false := by
    simp only [isHighSurrogate, isLowSurrogate, Bool.and_eq_true, Bool.and_eq_false_iff,
      decide_eq_true_eq, decide_eq_false_iff_not] at *
    omega
  obtain ⟨hl, h⟩ := hu.takes ('\\' :: 'u' :: (v ++ t))
  obtain ⟨hl', h'⟩ := lowSurrogate_takes hv hlow t
  refine ⟨Nat.lt_trans hl' hl, ?_⟩
  rw [codeEscape, h]
  simp only [bind, Except.bind, hnot, hhigh, Bool.false_eq_true, if_false, if_true, h',
    pure, Except.pure, Parsed.map, Parsed.within]

theorem stringTail_quote (t : List Char) : Reader.Takes stringTail ('"' :: t) [] t :=
  ⟨Nat.lt_succ_self _, by rw [stringTail]; rfl⟩

theorem stringTail_raw (h : ' ' ≤ c) (hq : c ≠ '"') (hb : c ≠ '\\')
    (ht : Reader.Takes stringTail t s rest) : Reader.Takes stringTail (c :: t) (c :: s) rest := by
  obtain ⟨hl, ht⟩ := ht
  refine ⟨Nat.lt_succ_of_lt hl, ?_⟩
  rw [stringTail, if_neg hq, if_neg hb, if_neg (Char.not_lt.mpr h), ht]
  rfl

theorem stringTail_escape (h : escape.Takes u c t) (ht : Reader.Takes stringTail t s rest) :
    Reader.Takes stringTail ('\\' :: u) (c :: s) rest := by
  obtain ⟨hl, h⟩ := h
  obtain ⟨hl', ht⟩ := ht
  refine ⟨Nat.lt_succ_of_lt (Nat.lt_trans hl' hl), ?_⟩
  rw [stringTail, if_neg (by decide), if_pos rfl, h]
  simp only [bind, Except.bind, ht]
  rfl

theorem SpellsChar.stringTail_takes (h : SpellsChar c u) (ht : Reader.Takes stringTail t s rest) :
    Reader.Takes stringTail (u ++ t) (c :: s) rest := by
  cases h with
  | raw h hq hb => exact stringTail_raw h hq hb ht
  | letter h => exact stringTail_escape (escape_letter h t) ht
  | unit h => exact stringTail_escape (escape_codeEscape (codeEscape_unit h t)) ht
  | pair hc hu hv =>
    have h := codeEscape_pair hu (high_of_pair c) hv (low_of_pair c) t
    rw [ofSurrogates_eq hc] at h
    simpa using stringTail_escape (escape_codeEscape h) ht

theorem SpellsChars.stringTail_takes (h : SpellsChars s u) (t : List Char) :
    Reader.Takes stringTail (u ++ '"' :: t) s t := by
  induction h with
  | nil => exact stringTail_quote t
  | cons hc _ ih =>
    rw [List.append_assoc]
    exact hc.stringTail_takes ih

theorem SpellsText.starts {s : String} (h : SpellsText s tok) : Starts tok := by
  obtain ⟨u, -, rfl⟩ := h
  exact ⟨'"', _, rfl, rfl⟩

theorem SpellsText.stringValue_takes {s : String} (h : SpellsText s tok) (t : List Char) :
    ∃ u, tok = '"' :: u ∧ stringValue.Takes (u ++ t) s t := by
  obtain ⟨u, hu, rfl⟩ := h
  refine ⟨u ++ ['"'], rfl, ?_⟩
  obtain ⟨hl, h⟩ := hu.stringTail_takes t
  rw [List.append_assoc, List.singleton_append]
  refine ⟨hl, ?_⟩
  rw [stringValue, h]
  simp [Except.map, Parsed.map]

theorem SpellsText.text_reads {s : String} (h : SpellsText s tok) : text.Reads tok s := by
  refine ⟨h.starts, fun ws rest hws _ => ?_⟩
  obtain ⟨u, rfl, hl, h⟩ := h.stringValue_takes rest
  have hd : dropBlank (ws ++ ('"' :: u ++ rest)) = '"' :: (u ++ rest) := by
    rw [dropBlank_append hws, List.cons_append, dropBlank_cons rfl]
  refine ⟨?_, ?_⟩
  · simp
    omega
  · rw [text]
    split
    · next r hr =>
      rw [hd] at hr
      cases hr
      rw [h]
      rfl
    · next hr => exact absurd hd (hr _)

theorem skipStringTail_quote (t : List Char) : Reader.Takes skipStringTail ('"' :: t) () t :=
  ⟨Nat.lt_succ_self _, by rw [skipStringTail.eq_def]; rfl⟩

theorem skipStringTail_raw (h : ' ' ≤ c) (hq : c ≠ '"') (hb : c ≠ '\\')
    (ht : Reader.Takes skipStringTail t () rest) :
    Reader.Takes skipStringTail (c :: t) () rest := by
  obtain ⟨hl, ht⟩ := ht
  refine ⟨Nat.lt_succ_of_lt hl, ?_⟩
  rw [skipStringTail.eq_def]
  simp only [if_neg hq, if_neg hb, if_neg (Char.not_lt.mpr h), ht]
  rfl

theorem skipStringTail_letter (h : (c, d) ∈ letterEscapes)
    (ht : Reader.Takes skipStringTail t () rest) :
    Reader.Takes skipStringTail ('\\' :: d :: t) () rest := by
  obtain ⟨hl, ht⟩ := ht
  have hu : d ≠ 'u' := by rintro rfl; cases letterEscape?_eq h
  refine ⟨Nat.lt_succ_of_lt (Nat.lt_succ_of_lt hl), ?_⟩
  have hsome : (letterEscape? d).isSome := by rw [letterEscape?_eq h]; rfl
  rw [skipStringTail.eq_def]
  simp only [if_neg (show '\\' ≠ '"' by decide), if_true, if_neg hu, if_pos hsome, ht]
  rfl

theorem skipStringTail_unit (h : SpellsUnit n u)
    (ht : Reader.Takes skipStringTail t () rest) :
    Reader.Takes skipStringTail ('\\' :: 'u' :: (u ++ t)) () rest := by
  obtain ⟨hl, h⟩ := h.takes t
  obtain ⟨hl', ht⟩ := ht
  refine ⟨Nat.lt_succ_of_lt (Nat.lt_succ_of_lt (Nat.lt_trans hl' hl)), ?_⟩
  rw [skipStringTail.eq_def]
  simp only [if_neg (show '\\' ≠ '"' by decide), if_true, h, bind, Except.bind, ht]
  rfl

theorem PassableChars.takes (h : PassableChars u) (t : List Char) :
    Reader.Takes skipStringTail (u ++ '"' :: t) () t := by
  induction h with
  | nil => exact skipStringTail_quote t
  | raw h hq hb _ ih => exact skipStringTail_raw h hq hb ih
  | letter h _ ih => exact skipStringTail_letter h ih
  | unit h _ ih =>
    rw [List.cons_append, List.cons_append, List.append_assoc]
    exact skipStringTail_unit h ih

/-- The code unit of a control character has two leading zeros. -/
theorem spellsUnit_of_lt (h : n < 256) :
    SpellsUnit n ['0', '0', Nat.digitChar (n / 16), Nat.digitChar (n % 16)] := by
  have hzero : IsHexDigit 0 '0' := ⟨by omega, .inl rfl⟩
  have hhigh : IsHexDigit (n / 16) (Nat.digitChar (n / 16)) := ⟨by omega, .inl rfl⟩
  have hlow : IsHexDigit (n % 16) (Nat.digitChar (n % 16)) := ⟨by omega, .inl rfl⟩
  have h := SpellsUnit.digits hzero hzero hhigh hlow
  simpa only [Nat.zero_mul, Nat.zero_add, Nat.div_add_mod'] using h

theorem spellsChar_writeChar (c : Char) : SpellsChar c (writeChar c) := by
  unfold writeChar
  split
  any_goals exact .letter (by decide)
  next hq hb _ _ _ _ _ =>
  split
  · next h => exact .unit (spellsUnit_of_lt (Nat.lt_trans (Char.lt_def.mp h) (by decide)))
  · next h => exact .raw (Char.not_lt.mp h) hq hb

theorem spellsChars_write (s : List Char) : SpellsChars s (s.flatMap writeChar) := by
  induction s with
  | nil => exact .nil
  | cons c s ih => exact .cons (spellsChar_writeChar c) ih

theorem spellsText_writeString (s : String) : SpellsText s (writeString s) :=
  ⟨_, spellsChars_write s.toList, rfl⟩

end GrammarLayout.Json
