import GrammarLayout.Json.Number
import GrammarLayout.Json.StringLiteral

/-!
# Telling values apart

The first character of a value tells its kind. Where a value of another kind is wanted, a scalar
is read in full before it is refused, so that its own fault comes first.
-/

namespace GrammarLayout.Json

variable {α : Type}

/-- Reads the characters of a string, of which the opening quote is gone. -/
def stringValue : Reader String := fun t => (stringTail t).map (Parsed.map String.ofList)

def scalar : Reader Scalar
  | [] => .error (.before .missingValue [])
  | 'n' :: t => literal 'n' ['u', 'l', 'l'] .null ('n' :: t)
  | 't' :: t => literal 't' ['r', 'u', 'e'] (.boolean true) ('t' :: t)
  | 'f' :: t => literal 'f' ['a', 'l', 's', 'e'] (.boolean false) ('f' :: t)
  | '"' :: t => (stringValue t).map fun p => (p.map .text).behind '"'
  | c :: t =>
    if c = '-' ∨ c.isDigit then number (c :: t) else .error (.upon .expectedValue (c :: t))

/-- What is misread where a value is not of the wanted kind, at the front of the text. -/
def wrongKind (wanted : Wanted) : List Char → Misread
  | '[' :: t => .before (.unexpectedKind .array wanted) ('[' :: t)
  | '{' :: t => .before (.unexpectedKind .object wanted) ('{' :: t)
  | t =>
    match scalar t with
    | .ok s => .before (.unexpectedKind (.scalar s.value) wanted) s.rest
    | .error m => m

def text : Reader String := fun t =>
  match h : dropBlank t with
  | '"' :: r => (stringValue r).map fun p => p.behindMark h
  | r => .error (wrongKind .text r)

def boolean : Reader Bool := fun t =>
  match dropBlank t, length_dropBlank_le t with
  | 't' :: r, h => (literal 't' ['r', 'u', 'e'] true ('t' :: r)).map fun p => p.within h
  | 'f' :: r, h => (literal 'f' ['a', 'l', 's', 'e'] false ('f' :: r)).map fun p => p.within h
  | r, _ => .error (wrongKind .boolean r)

end GrammarLayout.Json
