import GrammarLayout.Json.Scalar

/-!
# What can be wrong with a JSON text

The faults of the grammar come first, then those of a well-formed value that is not of the kind
wanted in its place. A reader reports the first fault in reading order, by how much of the text is
left then; for the message this becomes a line and a column.
-/

namespace GrammarLayout.Json

inductive Found
  | scalar (value : Scalar)
  | array
  | object
  deriving DecidableEq

inductive Wanted
  | text
  | boolean
  | array
  | object
  | record (name : String)
  deriving DecidableEq

inductive Fault
  /-- The text ends inside an array. -/
  | unclosedArray
  /-- The text ends inside an object. -/
  | unclosedObject
  /-- The text ends inside a string. -/
  | unclosedString
  /-- The text ends where a value has to come. -/
  | missingValue
  /-- No value starts like this. -/
  | expectedValue
  /-- A misspelt `null`, `true` or `false`. -/
  | misspeltLiteral
  /-- Neither a comma nor the end follows an element of an array. -/
  | expectedCommaOrBracket
  /-- Neither a comma nor the end follows a member of an object. -/
  | expectedCommaOrBrace
  /-- No colon follows a key. -/
  | expectedColon
  /-- A key of an object is not a string. -/
  | keyNotText
  /-- A comma stands before the end of an array or object. -/
  | trailingComma
  /-- Something follows the value that should be the last. -/
  | trailingCharacters
  /-- A digit is missing, or one follows a leading zero. -/
  | invalidNumber
  /-- A number is too large for any floating point number. -/
  | numberTooLarge
  /-- A backslash is followed by no escape. -/
  | invalidEscape
  /-- Half of a surrogate pair stands alone. -/
  | loneSurrogate
  /-- No escape follows the first half of a surrogate pair. -/
  | unfinishedPair
  /-- A control character stands in a string. -/
  | controlCharacter
  /-- Containers are nested too deeply. -/
  | tooDeep
  | unexpectedKind (found : Found) (wanted : Wanted)
  /-- An array has too few elements for a record. -/
  | tooFewElements (count : Nat) (record : String) (size : Nat)
  | missingField (name : String)
  | repeatedField (name : String)
  deriving DecidableEq

namespace Found

def describe : Found → String
  | scalar s => s.describe
  | array => "sequence"
  | object => "map"

end Found

namespace Wanted

def describe : Wanted → String
  | text => "a string"
  | boolean => "a boolean"
  | array => "a sequence"
  | object => "a map"
  | record name => s!"struct {name}"

end Wanted

namespace Fault

def message : Fault → String
  | unclosedArray => "EOF while parsing a list"
  | unclosedObject => "EOF while parsing an object"
  | unclosedString => "EOF while parsing a string"
  | missingValue => "EOF while parsing a value"
  | expectedValue => "expected value"
  | misspeltLiteral => "expected ident"
  | expectedCommaOrBracket => "expected `,` or `]`"
  | expectedCommaOrBrace => "expected `,` or `\x7d`"
  | expectedColon => "expected `:`"
  | keyNotText => "key must be a string"
  | trailingComma => "trailing comma"
  | trailingCharacters => "trailing characters"
  | invalidNumber => "invalid number"
  | numberTooLarge => "number out of range"
  | invalidEscape => "invalid escape"
  | loneSurrogate => "lone leading surrogate in hex escape"
  | unfinishedPair => "unexpected end of hex escape"
  | controlCharacter => "control character (\\u0000-\\u001F) found while parsing a string"
  | tooDeep => "recursion limit exceeded"
  | unexpectedKind found wanted =>
    s!"invalid type: {found.describe}, expected {wanted.describe}"
  | tooFewElements count record size =>
    s!"invalid length {count}, expected struct {record} with {size} elements"
  | missingField name => s!"missing field `{name}`"
  | repeatedField name => s!"duplicate field `{name}`"

end Fault

def byteCount : List Char → Nat
  | [] => 0
  | c :: t => c.utf8Size + byteCount t

/-- A fault, and the number of bytes that are left when it is noticed. -/
structure Misread where
  fault : Fault
  left : Nat
  deriving DecidableEq

namespace Misread

/-- A fault that is noticed in front of a text. -/
def before (fault : Fault) (t : List Char) : Misread := ⟨fault, byteCount t⟩

/-- A fault that the next byte gives away, or that there is none. -/
def upon (fault : Fault) (t : List Char) : Misread := ⟨fault, byteCount t - 1⟩

end Misread

/-- A place in a text. Lines count from one, and columns are the bytes that a line has in front. -/
structure Position where
  line : Nat
  column : Nat
  deriving DecidableEq

/-- The position after some bytes of a text that begins at a position. -/
def Position.after (p : Position) : Nat → List Char → Position
  | 0, _ | _, [] => p
  | n + 1, c :: t =>
    if c = '\n' then after ⟨p.line + 1, 0⟩ n t
    else after ⟨p.line, p.column + min (n + 1) c.utf8Size⟩ (n + 1 - c.utf8Size) t

structure TextError where
  fault : Fault
  position : Position
  deriving DecidableEq

def TextError.message (e : TextError) : String :=
  s!"{e.fault.message} at line {e.position.line} column {e.position.column}"

def Misread.locate (t : List Char) (m : Misread) : TextError :=
  ⟨m.fault, Position.after ⟨1, 0⟩ (byteCount t - m.left) t⟩

end GrammarLayout.Json
