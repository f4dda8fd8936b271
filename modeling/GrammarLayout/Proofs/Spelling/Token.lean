import GrammarLayout.Json.Reader
import Mathlib.Tactic

/-!
# Tokens and what stands around them

A value begins with a character that no blank, comma or closing mark is, and it is followed by one
of these or by the end of the text. So blanks before it can be dropped, and what follows it is not
taken for a part of it.
-/

namespace GrammarLayout.Json

variable {α β : Type} {c : Char} {ws tok t rest : List Char}

def Blanks (ws : List Char) : Prop := ∀ c ∈ ws, c ∈ [' ', '\t', '\n', '\r']

/-- Blanks, commas and closing marks come after values. -/
def isDelimiter (c : Char) : Bool := c ∈ [' ', '\t', '\n', '\r', ',', ']', '\x7d']

/-- The text is at its end or goes on with a delimiter. -/
def Delimited (t : List Char) : Prop := ∀ c ∈ t.head?, isDelimiter c

def Starts (t : List Char) : Prop := ∃ c t', t = c :: t' ∧ isDelimiter c = false

theorem isBlank_iff : isBlank c ↔ c ∈ [' ', '\t', '\n', '\r'] := by
  simp [isBlank, or_assoc]

theorem blanks_nil : Blanks [] := by simp [Blanks]

theorem blanks_singleton (h : isBlank c) : Blanks [c] :=
  List.forall_mem_singleton.mpr (isBlank_iff.mp h)

theorem isBlank_of_not_delimiter (h : isDelimiter c = false) : isBlank c = false := by
  rw [← Bool.not_eq_true, isBlank_iff]
  simp_all [isDelimiter]

theorem delimited_nil : Delimited [] := by simp [Delimited]

theorem delimited_cons (h : isDelimiter c) (t : List Char) : Delimited (c :: t) := by
  simpa [Delimited] using h

theorem delimited_append (h : Blanks ws) (ht : Delimited t) : Delimited (ws ++ t) := by
  cases ws with
  | nil => exact ht
  | cons c ws =>
    have hc := h c List.mem_cons_self
    apply delimited_cons
    simp_all [isDelimiter]
    tauto

theorem dropBlank_append (h : Blanks ws) (t : List Char) : dropBlank (ws ++ t) = dropBlank t :=
  List.dropWhile_append_of_pos fun c hc => isBlank_iff.mpr (h c hc)

theorem Starts.append (h : Starts tok) (t : List Char) : Starts (tok ++ t) := by
  obtain ⟨c, t', rfl, hc⟩ := h
  exact ⟨c, t' ++ t, rfl, hc⟩

theorem Starts.dropBlank_eq (h : Starts t) : dropBlank t = t := by
  obtain ⟨c, t, rfl, hc⟩ := h
  exact dropBlank_cons (isBlank_of_not_delimiter hc) t

namespace Reader

/-- The reader takes the value from the token, with blanks in front of it and a delimiter behind. -/
structure Reads (r : Reader α) (tok : List Char) (a : α) : Prop where
  starts : Starts tok
  takes : ∀ ws rest, Blanks ws → Delimited rest → r.Takes (ws ++ (tok ++ rest)) a rest

variable {r : Reader α} {a : α}

theorem Reads.map (h : r.Reads tok a) (f : α → β) : (r.map f).Reads tok (f a) :=
  ⟨h.starts, fun ws rest hws hrest => (h.takes ws rest hws hrest).map f⟩

theorem Reads.takes_nil (h : r.Reads tok a) (hrest : Delimited rest) :
    r.Takes (tok ++ rest) a rest :=
  h.takes [] rest blanks_nil hrest

end Reader

theorem literal_takes (c : Char) (ws : List Char) (a : α) (t : List Char) :
    (literal c ws a).Takes (c :: (ws ++ t)) a t := by
  have hword : dropWord (c :: ws) (c :: (ws ++ t)) = .ok t := dropWord_append (c :: ws) t
  refine ⟨by simp only [List.length_cons, List.length_append]; omega, ?_⟩
  unfold literal
  split <;> rename_i h <;> cases hword.symm.trans h
  rfl

end GrammarLayout.Json
