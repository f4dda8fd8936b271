import GrammarLayout.Json.Fault

/-!
# Readers

A reader takes a value from the front of a text. It gives back the value and what remains, which
is always shorter, so that reading in a loop comes to an end; or it reports the first fault.
-/

namespace GrammarLayout.Json

variable {α β : Type}

structure Parsed (α : Type) (text : List Char) where
  value : α
  rest : List Char
  shorter : rest.length < text.length

abbrev Reader (α : Type) := (text : List Char) → Except Misread (Parsed α text)

namespace Parsed

variable {s t : List Char}

def map (f : α → β) (p : Parsed α t) : Parsed β t := ⟨f p.value, p.rest, p.shorter⟩

/-- A value that is read from the first character alone. -/
def ofHead (a : α) (c : Char) (t : List Char) : Parsed α (c :: t) := ⟨a, t, Nat.lt_succ_self _⟩

/-- The same value, read from a text that is no shorter. -/
def within (p : Parsed α s) (h : s.length ≤ t.length) : Parsed α t :=
  ⟨p.value, p.rest, Nat.lt_of_lt_of_le p.shorter h⟩

/-- The same value, read from the text with a character in front. -/
def behind (c : Char) (p : Parsed α t) : Parsed α (c :: t) := p.within (Nat.le_succ _)

end Parsed

namespace Reader

def map (f : α → β) (r : Reader α) : Reader β := fun t => (r t).map (Parsed.map f)

/-- The reader takes `a` from the front of `t` and leaves `rest`. -/
def Takes (r : Reader α) (t : List Char) (a : α) (rest : List Char) : Prop :=
  ∃ h, r t = .ok ⟨a, rest, h⟩

theorem Takes.map {r : Reader α} {t rest : List Char} {a : α} (h : r.Takes t a rest)
    (f : α → β) : (r.map f).Takes t (f a) rest := by
  obtain ⟨hl, h⟩ := h
  refine ⟨hl, ?_⟩
  unfold Reader.map
  rw [h]
  rfl

end Reader

/-- Space, tab, line feed and carriage return may stand between tokens. -/
def isBlank (c : Char) : Bool := c = ' ' || c = '\t' || c = '\n' || c = '\r'

def dropBlank (t : List Char) : List Char := t.dropWhile isBlank

theorem length_dropBlank_le (t : List Char) : (dropBlank t).length ≤ t.length :=
  (List.dropWhile_suffix isBlank).length_le

theorem dropBlank_cons {c : Char} (h : isBlank c = false) (t : List Char) :
    dropBlank (c :: t) = c :: t := by
  simp [dropBlank, h]

theorem length_lt_of_dropBlank {t rest : List Char} {c : Char} (h : dropBlank t = c :: rest) :
    rest.length < t.length := by
  have := length_dropBlank_le t
  rw [h] at this
  exact this

/-- The same value, read from the text with the blanks in front. -/
def Parsed.behindBlank {t r : List Char} (h : dropBlank t = r) (p : Parsed α r) : Parsed α t :=
  p.within (h ▸ length_dropBlank_le t)

/-- The same value, read from the text with blanks and one more character in front. -/
def Parsed.behindMark {t r : List Char} {c : Char} (h : dropBlank t = c :: r) (p : Parsed α r) :
    Parsed α t :=
  (p.behind c).behindBlank h

/-- What remains after the letters of a word. -/
def dropWord : List Char → List Char → Except Misread (List Char)
  | [], t => .ok t
  | _ :: _, [] => .error (.before .missingValue [])
  | w :: ws, c :: t =>
    if w = c then dropWord ws t else .error (.upon .misspeltLiteral (c :: t))

theorem dropWord_append (ws t : List Char) : dropWord ws (ws ++ t) = .ok t := by
  induction ws with
  | nil => rfl
  | cons w ws ih => rw [List.cons_append, dropWord, if_pos rfl, ih]

theorem length_le_of_dropWord {ws t rest : List Char} (h : dropWord ws t = .ok rest) :
    rest.length ≤ t.length := by
  induction ws generalizing t with
  | nil => cases h; exact Nat.le_refl _
  | cons w ws ih =>
    cases t with
    | nil => cases h
    | cons c t =>
      unfold dropWord at h
      split at h
      · exact Nat.le_succ_of_le (ih h)
      · cases h

/-- Reads a literal of at least one letter, which stands for `a`. -/
def literal (c : Char) (ws : List Char) (a : α) : Reader α := fun t =>
  match h : dropWord (c :: ws) t with
  | .error m => .error m
  | .ok rest => .ok ⟨a, rest, by
      cases t with
      | nil => cases h
      | cons d t =>
        unfold dropWord at h
        split at h
        · exact Nat.lt_succ_of_le (length_le_of_dropWord h)
        · cases h⟩

end GrammarLayout.Json
