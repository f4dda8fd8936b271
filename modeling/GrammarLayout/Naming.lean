import GrammarLayout.Storage

/-!
# Names

Properties are told apart by their key, which ignores case and the separator of compound
references. Fields and buffers have identifiers, which generated code uses.
-/

namespace GrammarLayout.Naming

/-- The text with every separator replaced by an underscore, unless it begins with `self@`. -/
def collapseSeparators (cs : List Char) : List Char :=
  if ['s', 'e', 'l', 'f', '@'].isPrefixOf cs then cs
  else cs.map fun c => if c = '@' then '_' else c

/-- The key of a property: lower case, and `role@property` becomes `role_property`. The form
`self@property` stays. -/
def propertyKey (property : String) : String :=
  String.ofList (collapseSeparators (Text.lowercase property.toList))

/-- Lower case without dashes and spaces. -/
def clean (name : String) : String :=
  String.ofList ((Text.lowercase name.toList).filter fun c => c ≠ '-' && c ≠ ' ')

/-- The identifier of a field. Exempt fields keep their property name. -/
def fieldIdent (ownerName : Option String) (property : String) (type : StorageType) : String :=
  if type.isExempt then property
  else
    match ownerName with
    | none => if property = "display" then "displayname" else clean property
    | some owner => "fld_" ++ clean owner ++ "_" ++ clean property

def readExpr (ident : String) (type : StorageType) : String :=
  if type.needsEnumCast then "(enum unionvariants) " ++ ident else ident

def bufferName (type : StorageType) : String :=
  String.ofList (((Text.lowercase type.targetName.toList).filter fun c =>
    c ≠ ' ' && c ≠ '*' && c ≠ '-').map fun c => if c = ':' then '_' else c) ++ "_buffer_1"

end GrammarLayout.Naming
