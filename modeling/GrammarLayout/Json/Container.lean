import GrammarLayout.Json.Kind

/-!
# Arrays and objects

Both are read from left to right into a state. For an array the state says which reader takes the
next element, if any more may come; for an object the state and the key say which reader takes
the value of a member. Each place where a text can go wrong has its own fault.
-/

namespace GrammarLayout.Json

variable {σ : Type}

/-- The end of an array that may have no more elements. -/
def closeArray (state : σ) : Reader σ := fun t =>
  match h : dropBlank t with
  | [] => .error (.before .unclosedArray [])
  | ']' :: rest => .ok ⟨state, rest, length_lt_of_dropBlank h⟩
  | ',' :: rest =>
    match dropBlank rest with
    | ']' :: r => .error (.upon .trailingComma (']' :: r))
    | r => .error (.upon .trailingCharacters r)
  | r => .error (.upon .trailingCharacters r)

/-- What is left of an array after the element before, up to where the next element begins;
nothing if the array ends here. -/
def nextElement (t : List Char) : Except Misread (Option (List Char)) :=
  match dropBlank t with
  | [] => .error (.before .unclosedArray [])
  | ']' :: _ => .ok none
  | ',' :: rest =>
    match dropBlank rest with
    | [] => .error (.before .missingValue [])
    | ']' :: r => .error (.upon .trailingComma (']' :: r))
    | r => .ok (some r)
  | r => .error (.upon .expectedCommaOrBracket r)

theorem length_lt_of_nextElement {t r : List Char} (h : nextElement t = .ok (some r)) :
    r.length < t.length := by
  unfold nextElement at h
  split at h
  · cases h
  · cases h
  · next rest hd =>
    have hr := length_dropBlank_le rest
    have ht := length_lt_of_dropBlank hd
    split at h
    · cases h
    · cases h
    · cases h
      omega
  · cases h

def moreElements (item : σ → Option (Reader σ)) (state : σ) (t : List Char) :
    Except Misread (Parsed σ t) :=
  match item state with
  | none => closeArray state t
  | some read =>
    match h : nextElement t with
    | .error m => .error m
    | .ok none => closeArray state t
    | .ok (some r) => do
      let p ← read r
      let q ← moreElements item p.value p.rest
      return q.within (Nat.le_of_lt (Nat.lt_trans p.shorter (length_lt_of_nextElement h)))
termination_by t.length
decreasing_by exact Nat.lt_trans p.shorter (length_lt_of_nextElement h)

/-- The elements of an array of which the opening bracket is gone. -/
def elements (item : σ → Option (Reader σ)) (state : σ) : Reader σ := fun t =>
  match item state with
  | none => closeArray state t
  | some read =>
    match dropBlank t with
    | [] => .error (.before .unclosedArray [])
    | ']' :: _ => closeArray state t
    | _ => do
      let p ← read t
      let q ← moreElements item p.value p.rest
      return q.within (Nat.le_of_lt p.shorter)

def dropColon (t : List Char) : Except Misread (List Char) :=
  match dropBlank t with
  | [] => .error (.before .unclosedObject [])
  | ':' :: rest => .ok rest
  | r => .error (.upon .expectedColon r)

theorem length_lt_of_dropColon {t r : List Char} (h : dropColon t = .ok r) :
    r.length < t.length := by
  unfold dropColon at h
  split at h
  · cases h
  · next hd =>
    cases h
    exact length_lt_of_dropBlank hd
  · cases h

/-- A key that is refused, with what follows it. The end of the object is looked for before the key
is reported. -/
def refusedKey (rest : List Char) (fault : Fault) : Misread :=
  match dropBlank rest with
  | '\x7d' :: r => .before fault r
  | r => .before fault r

/-- One member, of which the opening quote of the key is gone. The key is looked at before the
colon after it. -/
def member (item : σ → String → Except Fault (Reader σ)) (state : σ) : Reader σ := fun t => do
  let key ← stringValue t
  let read ← (item state key.value).mapError (refusedKey key.rest)
  match h : dropColon key.rest with
  | .error m => .error m
  | .ok r =>
    let p ← read r
    return p.within (Nat.le_of_lt (Nat.lt_trans (length_lt_of_dropColon h) key.shorter))

/-- What is left of an object after the member before: the rest of the object's text from behind
the opening quote of the next key, or nothing if the object ends here. -/
def nextKey (t : List Char) : Except Misread (Option (List Char)) :=
  match dropBlank t with
  | [] => .error (.before .unclosedObject [])
  | '\x7d' :: _ => .ok none
  | ',' :: rest =>
    match dropBlank rest with
    | [] => .error (.before .missingValue [])
    | '"' :: r => .ok (some r)
    | '\x7d' :: r => .error (.upon .trailingComma ('\x7d' :: r))
    | r => .error (.upon .keyNotText r)
  | r => .error (.upon .expectedCommaOrBrace r)

def firstKey (t : List Char) : Except Misread (Option (List Char)) :=
  match dropBlank t with
  | [] => .error (.before .unclosedObject [])
  | '\x7d' :: _ => .ok none
  | '"' :: r => .ok (some r)
  | r => .error (.upon .keyNotText r)

theorem length_lt_of_nextKey {t r : List Char} (h : nextKey t = .ok (some r)) :
    r.length < t.length := by
  unfold nextKey at h
  split at h
  · cases h
  · cases h
  · next rest hd =>
    have ht := length_lt_of_dropBlank hd
    split at h
    · cases h
    · next hr =>
      cases h
      exact Nat.lt_trans (length_lt_of_dropBlank hr) ht
    · cases h
    · cases h
  · cases h

theorem length_lt_of_firstKey {t r : List Char} (h : firstKey t = .ok (some r)) :
    r.length < t.length := by
  unfold firstKey at h
  split at h
  · cases h
  · cases h
  · next hd =>
    cases h
    exact length_lt_of_dropBlank hd
  · cases h

def closeObject (state : σ) : Reader σ := fun t =>
  match h : dropBlank t with
  | '\x7d' :: rest => .ok ⟨state, rest, length_lt_of_dropBlank h⟩
  | r => .error (.upon .unclosedObject r)

def moreMembers (item : σ → String → Except Fault (Reader σ)) (state : σ) (t : List Char) :
    Except Misread (Parsed σ t) :=
  match h : nextKey t with
  | .error m => .error m
  | .ok none => closeObject state t
  | .ok (some r) => do
    let p ← member item state r
    let q ← moreMembers item p.value p.rest
    return q.within (Nat.le_of_lt (Nat.lt_trans p.shorter (length_lt_of_nextKey h)))
termination_by t.length
decreasing_by exact Nat.lt_trans p.shorter (length_lt_of_nextKey h)

/-- The members of an object of which the opening brace is gone. -/
def members (item : σ → String → Except Fault (Reader σ)) (state : σ) : Reader σ := fun t =>
  match h : firstKey t with
  | .error m => .error m
  | .ok none => closeObject state t
  | .ok (some r) => do
    let p ← member item state r
    let q ← moreMembers item p.value p.rest
    return q.within (Nat.le_of_lt (Nat.lt_trans p.shorter (length_lt_of_firstKey h)))

end GrammarLayout.Json
