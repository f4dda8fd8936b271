import GrammarLayout.Text.Lowercase

/-!
# Source types and storage types

The type of a declaration is a name. It is classified once, in any case of its ASCII letters, and
mapped to the type in which values are stored, if there is one.
-/

namespace GrammarLayout

inductive SourceType
  | int
  | time
  | color
  | px
  | float
  | double
  | grammarTokens
  | displayType
  | refnameType
  | vbo
  | bool
  /-- Strings under any of their names. -/
  | stringLike
  | unknown
  deriving DecidableEq

def SourceType.ofName (name : String) : SourceType :=
  let lower := Text.asciiLowercase name
  if lower = "int" then int
  else if lower = "time" then time
  else if lower = "color" then color
  else if lower = "px" then px
  else if lower = "float" then float
  else if lower = "double" then double
  else if lower = "grammartokens" then grammarTokens
  else if lower = "displaytype" then displayType
  else if lower = "refnametype" then refnameType
  else if lower = "vbo" then vbo
  else if lower = "bool" then bool
  else if lower ∈ ["string", "std::string", "const char *", "char *"] then stringLike
  else unknown

inductive StorageType
  | int
  | float
  | double
  | grammarTokens
  | nodeIndex
  /-- A pointer into a resource that is managed elsewhere. -/
  | vertexColorPtr
  deriving DecidableEq

inductive TypeError
  | boolean
  | stringLike
  | unrecognized
  deriving DecidableEq

def TypeError.message : TypeError → String
  | boolean => "not supported for this target"
  | stringLike => "not a valid storage type"
  | unrecognized => "unrecognized source type, cannot translate"

namespace StorageType

def ofSource : SourceType → Except TypeError StorageType
  | .int | .time | .color | .px => .ok int
  | .float => .ok float
  | .double => .ok double
  | .grammarTokens | .displayType | .refnameType => .ok grammarTokens
  | .vbo => .ok vertexColorPtr
  | .bool => .error .boolean
  | .stringLike => .error .stringLike
  | .unknown => .error .unrecognized

def ofName (name : String) : Except TypeError StorageType := ofSource (.ofName name)

/-- The type as generated code spells it. -/
def targetName : StorageType → String
  | int => "int"
  | float => "float"
  | double => "double"
  | grammarTokens => "GrammarTokens"
  | nodeIndex => "NodeIndex"
  | vertexColorPtr => "__global VertexAndColor*"

/-- Fields of an exempt type are in no buffer. -/
def isExempt (t : StorageType) : Bool := t = vertexColorPtr

/-- Whether a value has to be cast to the enumeration when it is read. -/
def needsEnumCast (t : StorageType) : Bool := t = grammarTokens

/-- The type of the raw values. Enumerations and node indices are whole numbers. -/
def primitive : StorageType → String
  | float => "float"
  | double => "double"
  | int | grammarTokens | nodeIndex | vertexColorPtr => "int"

end StorageType
end GrammarLayout
