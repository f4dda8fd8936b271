import GrammarLayout.Json.Kind

/-!
# Values that are not needed

A value that nobody asked for is passed over. Only its grammar is checked, the containers around
the place reached are kept on a stack, and they may be nested to any depth.
-/

namespace GrammarLayout.Json

/-- A container whose end has not come yet. -/
inductive Frame
  | array
  | object
  deriving DecidableEq

namespace Frame

def close : Frame → Char
  | array => ']'
  | object => '\x7d'

def unclosed : Frame → Fault
  | array => .unclosedArray
  | object => .unclosedObject

def expectedCommaOrClose : Frame → Fault
  | array => .expectedCommaOrBracket
  | object => .expectedCommaOrBrace

end Frame

/-- Passes over a key and the colon after it. -/
def skipKey : Reader Unit := fun t =>
  match h : dropBlank t with
  | [] => .error (.before .unclosedObject [])
  | '"' :: r => do
    let key ← skipStringTail r
    match hc : dropBlank key.rest with
    | [] => .error (.before .unclosedObject [])
    | ':' :: rest =>
      return ⟨(), rest, by
        have hr := length_lt_of_dropBlank h
        have hk := key.shorter
        have hd := length_lt_of_dropBlank hc
        omega⟩
    | r' => .error (.upon .expectedColon r')
  | r => .error (.upon .keyNotText r)

variable {t : List Char}

/-- Goes on in front of a value in the container: in an object a key comes first. -/
def enter (frame : Frame) (p : Parsed Unit t) : Except Misread (Parsed Unit t) :=
  match frame with
  | .array => .ok p
  | .object => (skipKey p.rest).map fun q => q.within (Nat.le_of_lt p.shorter)

/-- Goes on after a value that is complete, out of all containers that end here. What comes back
are the containers that are still open, at the place of the next value in the innermost. -/
def leave : List Frame → Parsed Unit t → Except Misread (Parsed (List Frame) t)
  | [], p => .ok (p.map fun _ => [])
  | frame :: outer, p =>
    match h : dropBlank p.rest with
    | [] => .error (.before frame.unclosed [])
    | c :: rest =>
      let q : Parsed Unit t := ⟨(), rest, Nat.lt_trans (length_lt_of_dropBlank h) p.shorter⟩
      if c = ',' then (enter frame q).map (Parsed.map fun _ => frame :: outer)
      else if c = frame.close then leave outer q
      else .error (.upon frame.expectedCommaOrClose (c :: rest))

def skipScalar : Reader Unit
  | '"' :: t => (skipStringTail t).map fun p => p.behind '"'
  | [] => .error (.before .missingValue [])
  | 'n' :: t => literal 'n' ['u', 'l', 'l'] () ('n' :: t)
  | 't' :: t => literal 't' ['r', 'u', 'e'] () ('t' :: t)
  | 'f' :: t => literal 'f' ['a', 'l', 's', 'e'] () ('f' :: t)
  | c :: t =>
    if c = '-' ∨ c.isDigit then
      (Numeral.read .invalidNumber (c :: t)).map (Parsed.map fun _ => ())
    else .error (.upon .expectedValue (c :: t))

/-- The container that a character opens. -/
def opens? : Char → Option Frame
  | '[' => some .array
  | '{' => some .object
  | _ => none

/-- Passes over a scalar or the beginning of a container, and goes on from there. -/
def skipStep (stack : List Frame) (t : List Char) : Except Misread (Parsed (List Frame) t) :=
  match h : dropBlank t with
  | [] => .error (.before .missingValue [])
  | c :: r =>
    match opens? c with
    | none => do
      let p ← skipScalar (c :: r)
      leave stack (p.behindBlank h)
    | some frame =>
      match hr : dropBlank r with
      | [] => .error (.before frame.unclosed [])
      | d :: rest =>
        have ht : r.length < t.length := length_lt_of_dropBlank h
        if d = frame.close then
          leave stack ⟨(), rest, Nat.lt_trans (length_lt_of_dropBlank hr) ht⟩
        else (enter frame ⟨(), r, ht⟩).map (Parsed.map fun _ => frame :: stack)

/-- Passes over a value, and then over the rest of the containers around it. -/
def skipWithin (stack : List Frame) (t : List Char) : Except Misread (Parsed Unit t) := do
  let p ← skipStep stack t
  if p.value = [] then return p.map fun _ => ()
  else
    let q ← skipWithin p.value p.rest
    return q.within (Nat.le_of_lt p.shorter)
termination_by t.length
decreasing_by exact p.shorter

def skip : Reader Unit := skipWithin []

end GrammarLayout.Json
