import GrammarLayout.Json.Value
import GrammarLayout.Layout.Basic

/-!
# Layouts as JSON

The JSON form of a layout lists its buffers and its fields, both in the order in which they came
to be.
-/

namespace GrammarLayout

open Json

def Buffer.toJson (b : Buffer) : Value := .object [
  ("name", .text b.name),
  ("type", .text b.element.targetName),
  ("primitive", .text b.element.primitive),
  ("count", .natural b.count)]

namespace Layout

def fieldToJson (l : Layout) (f : Field) : Value := .object [
  ("owner", .ofOption ((l.ownerNameOf f).map .text)),
  ("property", .text f.property),
  ("type", .text f.type.targetName),
  ("ident", .text f.ident),
  ("read", .text f.readExpr),
  ("buffer", .ofOption (f.buffer?.map .text)),
  ("offset", .ofOption (f.offset?.map .natural))]

def toJson (l : Layout) : Value := .object [
  ("buffers", .array (l.buffers.map Buffer.toJson)),
  ("fields", .array (l.fields.map l.fieldToJson))]

/-- The JSON form of a field, which there is if its owner has a name in the grammar. -/
def fieldToJson? (l : Layout) (f : Field) : Except Panic Value :=
  match l.grammar.ownerName f.owner with
  | .ok _ => .ok (l.fieldToJson f)
  | .error handle => .error (.foreign handle)

def toJson? (l : Layout) : Except Panic Value :=
  (l.fields.mapM l.fieldToJson?).map fun fields =>
    .object [("buffers", .array (l.buffers.map Buffer.toJson)), ("fields", .array fields)]

end Layout
end GrammarLayout
