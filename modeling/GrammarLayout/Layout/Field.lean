import GrammarLayout.Grammar
import GrammarLayout.Naming

/-!
# Fields and buffers

A draft says what a field is; placing it says where its data are. All fields of one storage type
share a buffer, at offsets that count them. Fields of an exempt type are in no buffer.
-/

namespace GrammarLayout

/-- What a field is, before it is placed. -/
structure Draft where
  owner : Owner
  property : String
  type : StorageType
  ident : String
  deriving DecidableEq

/-- The draft of a field; the identifier depends on the owner's name. -/
def Draft.named (owner : Owner) (ownerName : Option String) (property : String)
    (type : StorageType) : Draft :=
  ⟨owner, property, type, Naming.fieldIdent ownerName property type⟩

structure Slot where
  buffer : String
  offset : Nat
  deriving DecidableEq

/-- A placed field; it has no slot exactly if its type is exempt. -/
structure Field extends Draft where
  slot : Option Slot
  deriving DecidableEq

namespace Field

variable (f : Field)

def key : String := Naming.propertyKey f.property

def readExpr : String := Naming.readExpr f.ident f.type

def buffer? : Option String := f.slot.map Slot.buffer

def offset? : Option Nat := f.slot.map Slot.offset

end Field

/-- A buffer and the number of fields in it. -/
structure Buffer where
  element : StorageType
  count : Nat
  deriving DecidableEq

def Buffer.name (b : Buffer) : String := Naming.bufferName b.element

/-- Buffers in the order in which they were opened. -/
abbrev Buffers := List Buffer

namespace Buffers

def find? (bs : Buffers) (name : String) : Option Buffer := List.find? (fun b => b.name = name) bs

/-- Takes the next offset in the buffer that has the name for a type; it is opened if there is
none. -/
def reserve (type : StorageType) : Buffers → Nat × Buffers
  | [] => (0, [⟨type, 1⟩])
  | b :: bs =>
    if b.name = Naming.bufferName type then (b.count, { b with count := b.count + 1 } :: bs)
    else
      let r := reserve type bs
      (r.1, b :: r.2)

def place (bs : Buffers) (d : Draft) : Field × Buffers :=
  if d.type.isExempt then (⟨d, none⟩, bs)
  else
    let r := bs.reserve d.type
    (⟨d, some ⟨Naming.bufferName d.type, r.1⟩⟩, r.2)

theorem draft_place (bs : Buffers) (d : Draft) : (bs.place d).1.toDraft = d := by
  unfold place
  split <;> rfl

end Buffers
end GrammarLayout
