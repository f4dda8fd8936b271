import GrammarLayout.Json.Reader

/-!
# Strings

A string stands between double quotes. Quotes, backslashes and control characters in it are
escaped; any character may be, by its UTF-16 code units in hexadecimal. Reading a written string
gives the string back.
-/

namespace GrammarLayout.Json

def hexValue? (c : Char) : Option Nat :=
  if '0' ≤ c ∧ c ≤ '9' then some (c.toNat - '0'.toNat)
  else if 'a' ≤ c ∧ c ≤ 'f' then some (c.toNat - 'a'.toNat + 10)
  else if 'A' ≤ c ∧ c ≤ 'F' then some (c.toNat - 'A'.toNat + 10)
  else none

/-- One code unit, as four hexadecimal digits. Four bytes are taken before any of them is looked at,
and a text of fewer bytes ends too early whatever they are. -/
def codeUnit : Reader Nat
  | a :: b :: c :: d :: t =>
    match hexValue? a, hexValue? b, hexValue? c, hexValue? d with
    | some w, some x, some y, some z =>
      .ok ⟨((w * 16 + x) * 16 + y) * 16 + z, t, by simp only [List.length_cons]; omega⟩
    | _, _, _, _ => .error ⟨.invalidEscape, byteCount (a :: b :: c :: d :: t) - 4⟩
  | t =>
    if 4 ≤ byteCount t then .error ⟨.invalidEscape, byteCount t - 4⟩
    else .error (.before .unclosedString [])

def isHighSurrogate (n : Nat) : Bool := 0xD800 ≤ n && n ≤ 0xDBFF

def isLowSurrogate (n : Nat) : Bool := 0xDC00 ≤ n && n ≤ 0xDFFF

def ofSurrogates (high low : Nat) : Char :=
  Char.ofNat ((high - 0xD800) * 0x400 + (low - 0xDC00) + 0x10000)

/-- The second half of a surrogate pair, with its escape sign. -/
def lowSurrogate : Reader Nat
  | '\\' :: 'u' :: t => do
    let low ← codeUnit t
    if isLowSurrogate low.value then
      return (low.behind 'u').behind '\\'
    else throw (.before .loneSurrogate low.rest)
  | [] | ['\\'] => .error (.before .unclosedString [])
  | '\\' :: t => .error (.upon .unfinishedPair t)
  | t => .error (.upon .unfinishedPair t)

/-- The character whose code units follow the escape sign. -/
def codeEscape : Reader Char := fun t => do
  let unit ← codeUnit t
  if isLowSurrogate unit.value then throw (.before .loneSurrogate unit.rest)
  else if isHighSurrogate unit.value then
    let low ← lowSurrogate unit.rest
    return (low.map (ofSurrogates unit.value)).within (Nat.le_of_lt unit.shorter)
  else return unit.map Char.ofNat

/-- The characters that one letter after the backslash stands for. -/
def letterEscape? : Char → Option Char
  | '"' => some '"'
  | '\\' => some '\\'
  | '/' => some '/'
  | 'b' => some '\x08'
  | 'f' => some '\x0c'
  | 'n' => some '\n'
  | 'r' => some '\r'
  | 't' => some '\t'
  | _ => none

def escape : Reader Char
  | [] => .error (.before .unclosedString [])
  | c :: t =>
    match letterEscape? c with
    | some d => .ok (.ofHead d c t)
    | none =>
      if c = 'u' then (codeEscape t).map fun p => p.behind c
      else .error (.upon .invalidEscape (c :: t))

/-- The characters of a string up to and with its closing quote. -/
def stringTail (t : List Char) : Except Misread (Parsed (List Char) t) :=
  match t with
  | [] => .error (.before .unclosedString [])
  | c :: t =>
    if c = '"' then .ok (.ofHead [] c t)
    else if c = '\\' then do
      let e ← escape t
      let s ← stringTail e.rest
      return ⟨e.value :: s.value, s.rest, by
        have he := e.shorter
        have hs := s.shorter
        simp only [List.length_cons]
        omega⟩
    else if c < ' ' then .error (.before .controlCharacter t)
    else do
      let s ← stringTail t
      return (s.map (c :: ·)).behind c
termination_by t.length
decreasing_by
  · have he := e.shorter
    simp only [List.length_cons]
    omega
  · simp

/-- Passes over a string that is not needed. Escaped code units have to be written right, but
need not be characters. -/
def skipStringTail (t : List Char) : Except Misread (Parsed Unit t) :=
  match t with
  | [] => .error (.before .unclosedString [])
  | c :: t =>
    if c = '"' then .ok (.ofHead () c t)
    else if c = '\\' then
      match t with
      | [] => .error (.before .unclosedString [])
      | d :: t =>
        if d = 'u' then do
          let unit ← codeUnit t
          let s ← skipStringTail unit.rest
          return ⟨(), s.rest, by
            have hu := unit.shorter
            have hs := s.shorter
            simp only [List.length_cons]
            omega⟩
        else if (letterEscape? d).isSome then do
          let s ← skipStringTail t
          return (s.behind d).behind c
        else .error (.upon .invalidEscape (d :: t))
    else if c < ' ' then .error (.before .controlCharacter (c :: t))
    else do
      let s ← skipStringTail t
      return s.behind c
termination_by t.length
decreasing_by
  · have hu := unit.shorter
    simp only [List.length_cons]
    omega
  · simp only [List.length_cons]
    omega
  · simp

def writeChar (c : Char) : List Char :=
  match c with
  | '"' => ['\\', '"']
  | '\\' => ['\\', '\\']
  | '\x08' => ['\\', 'b']
  | '\x0c' => ['\\', 'f']
  | '\n' => ['\\', 'n']
  | '\r' => ['\\', 'r']
  | '\t' => ['\\', 't']
  | c =>
    if c < ' ' then
      ['\\', 'u', '0', '0', Nat.digitChar (c.toNat / 16), Nat.digitChar (c.toNat % 16)]
    else [c]

def writeString (s : String) : List Char := '"' :: (s.toList.flatMap writeChar ++ ['"'])

end GrammarLayout.Json
