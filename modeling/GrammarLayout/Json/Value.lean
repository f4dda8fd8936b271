import GrammarLayout.Json.Record

/-!
# Values

A value of any kind, its written form with one element or member on a line, and its reader.
-/

namespace GrammarLayout.Json

inductive Value
  | scalar (value : Scalar)
  | array (elements : List Value)
  | object (members : List (String × Value))

namespace Value

def null : Value := .scalar .null

def text (s : String) : Value := .scalar (.text s)

def natural (n : Nat) : Value := .scalar (.integer n)

def ofOption : Option Value → Value
  | none => null
  | some v => v

end Value

def writeInteger (i : Int) : List Char :=
  if i < 0 then '-' :: Nat.toDigits 10 i.natAbs else Nat.toDigits 10 i.natAbs

def Scalar.write : Scalar → List Char
  | null => ['n', 'u', 'l', 'l']
  | boolean true => ['t', 'r', 'u', 'e']
  | boolean false => ['f', 'a', 'l', 's', 'e']
  | integer i => writeInteger i
  | real x => (numberFormat.write x).toList
  | text s => writeString s

/-- A new line with two spaces for each level of nesting. -/
def newLine (level : Nat) : List Char := '\n' :: List.replicate (2 * level) ' '

namespace Value

mutual

/-- The written form of a value that begins at a level of nesting. -/
def write (level : Nat) : Value → List Char
  | scalar s => s.write
  | array [] => ['[', ']']
  | array (v :: vs) =>
    '[' :: (newLine (level + 1) ++ write (level + 1) v ++ writeElements (level + 1) vs ++
      newLine level ++ [']'])
  | object [] => ['{', '\x7d']
  | object (m :: ms) =>
    '{' :: (newLine (level + 1) ++ writeString m.1 ++ [':', ' '] ++ write (level + 1) m.2 ++
      writeMembers (level + 1) ms ++ newLine level ++ ['\x7d'])

def writeElements (level : Nat) : List Value → List Char
  | [] => []
  | v :: vs => ',' :: (newLine level ++ write level v ++ writeElements level vs)

def writeMembers (level : Nat) : List (String × Value) → List Char
  | [] => []
  | m :: ms => ',' :: (newLine level ++ writeString m.1 ++ [':', ' '] ++ write level m.2 ++
      writeMembers level ms)

end

/-- The written form on lines of its own, without a line break at the end. -/
def pretty (v : Value) : String := String.ofList (v.write 0)

/-- Reads a value whose elements and members are read by `inner`; without it there may be no
containers. -/
def readAround (inner : Option (Reader Value)) : Reader Value := fun t =>
  match h : dropBlank t with
  | '[' :: r =>
    match inner with
    | none => .error (.upon .tooDeep ('[' :: r))
    | some read =>
      (elements (fun vs => some (read.map fun v => vs ++ [v])) [] r).map fun p =>
        (p.map array).behindMark h
  | '{' :: r =>
    match inner with
    | none => .error (.upon .tooDeep ('{' :: r))
    | some read =>
      (members (fun ms key => .ok (read.map fun v => ms ++ [(key, v)])) [] r).map fun p =>
        (p.map object).behindMark h
  | r => (Json.scalar r).map fun p =>
      (p.map .scalar).behindBlank h

/-- Reads a value with containers nested at most `depth` deep. -/
def readNested : Nat → Reader Value
  | 0 => readAround none
  | depth + 1 => readAround (some (readNested depth))

/-- Reads a text that holds one value, with containers nested less than 128 deep. -/
def read (t : List Char) : Except TextError Value := document (readNested 127) t

end Value
end GrammarLayout.Json
