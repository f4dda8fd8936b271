import GrammarLayout.Json.Container
import GrammarLayout.Json.Skip
import GrammarLayout.OrderedMap

/-!
# Records

A record is an object with known members, in any order and each at most once, and with unknown
members that are passed over. It may also be an array of its fields in their order, where fields
at the end may be left off.
-/

namespace GrammarLayout.Json

variable {σ α β : Type}

/-- A field of a record that is read into `σ`: whether the state has it already, and how to read
it into the state. -/
structure FieldShape (σ : Type) where
  name : String
  given : σ → Bool
  read : σ → Reader σ

/-- A record that is read into `σ` field by field. At the end the state is the record, unless a
field is missing that has to be there. -/
structure RecordShape (σ α : Type) where
  name : String
  fields : List (FieldShape σ)
  blank : σ
  /-- The record, or the name of the first field that is missing. -/
  build : σ → Except String α

namespace RecordShape

variable (shape : RecordShape σ α)

/-- The reader for a member of the object form. A field must not come twice. -/
def member (state : σ) (key : String) : Except Fault (Reader σ) :=
  match shape.fields.find? fun f => f.name = key with
  | none => .ok (skip.map fun _ => state)
  | some f => if f.given state then .error (.repeatedField key) else .ok (f.read state)

/-- The reader for the next element of the array form, while there are fields to come. -/
def element (state : σ) : Option (Reader σ) :=
  (shape.fields.find? fun f => !f.given state).map fun f => f.read state

/-- The number of fields that the state has. -/
def count (state : σ) : Nat := shape.fields.countP fun f => f.given state

/-- Reads a record in either form. -/
def read : Reader α := fun t =>
  match h : dropBlank t with
  | '[' :: r => do
    let p ← elements shape.element shape.blank r
    match shape.build p.value with
    | .ok a => return (p.map fun _ => a).behindMark h
    | .error _ =>
      let fault := .tooFewElements (shape.count p.value) shape.name shape.fields.length
      throw (.before fault p.rest)
  | '{' :: r => do
    let p ← members shape.member shape.blank r
    match shape.build p.value with
    | .ok a => return (p.map fun _ => a).behindMark h
    | .error field => throw (.before (.missingField field) p.rest)
  | r => .error (wrongKind (.record shape.name) r)

end RecordShape

def list (item : Reader α) : Reader (List α) := fun t =>
  match h : dropBlank t with
  | '[' :: r =>
    (elements (fun as => some (item.map fun a => as ++ [a])) [] r).map fun p =>
      p.behindMark h
  | r => .error (wrongKind .array r)

/-- Reads an object as a map. A key that comes again replaces the value it had. -/
def map (item : Reader α) : Reader (OrderedMap String α) := fun t =>
  match h : dropBlank t with
  | '{' :: r =>
    (members (fun m key => .ok (item.map fun a => m.insert key a)) .empty r).map fun p =>
      p.behindMark h
  | r => .error (wrongKind .object r)

/-- Reads a text that holds one value and nothing else. -/
def document (read : Reader α) (t : List Char) : Except TextError α :=
  match read t with
  | .error m => .error (m.locate t)
  | .ok p =>
    match dropBlank p.rest with
    | [] => .ok p.value
    | r => .error ((Misread.upon .trailingCharacters r).locate t)

end GrammarLayout.Json
