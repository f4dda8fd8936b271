import GrammarLayout.Layout.Basic

/-!
# Listings

A layout is listed in two sections of rows: the buffers as they were opened, then the fields as
they are declared. The cells of a row stand in columns, and colour codes go around cells, so that
they never move a column. The formatter pads to a limited width only: a program that lists a layout
with a wider column stops.
-/

namespace GrammarLayout

/-- The codes that switch on the colour of each kind of text, and the one that ends it. -/
structure Palette where
  header : String
  name : String
  type : String
  detail : String
  reset : String
  deriving DecidableEq

namespace Palette

def on : Palette := ⟨"\x1b[1;34m", "\x1b[34m", "\x1b[32m", "\x1b[2m", "\x1b[0m"⟩

def off : Palette := ⟨"", "", "", "", ""⟩

def ofBool (coloured : Bool) : Palette := if coloured then on else off

def isEnabled (p : Palette) : Bool := p.reset ≠ ""

end Palette

namespace Listing

/-- The kinds of text in a row; plain text has no colour. -/
inductive Style
  | plain
  | name
  | type
  | detail
  deriving DecidableEq

structure Cell where
  style : Style
  text : String
  deriving DecidableEq

abbrev Row := List Cell

/-- Puts the text between the codes of its style. -/
def paint (p : Palette) (style : Style) (text : List Char) : List Char :=
  match style with
  | .plain => text
  | .name => p.name.toList ++ text ++ p.reset.toList
  | .type => p.type.toList ++ text ++ p.reset.toList
  | .detail => p.detail.toList ++ text ++ p.reset.toList

/-- The number of bytes of the longest cell in a column. -/
def columnWidth (rows : List Row) (column : Nat) : Nat :=
  (rows.map fun row => (row[column]?.map fun c => c.text.utf8ByteSize).getD 0).foldl
    max 0

def columnWidths (rows : List Row) : List Nat :=
  (List.range ((rows.map List.length).foldl max 0)).map (columnWidth rows)

/-- The text, filled up with spaces to a number of characters. -/
def pad (width : Nat) (text : String) : List Char :=
  text.toList ++ List.replicate (width - text.toList.length) ' '

/-- The cells of a row, two spaces apart. All but the last are padded to the width of their
column. -/
def writeRow (p : Palette) (widths : List Nat) (row : Row) : List Char :=
  [' ', ' '].intercalate (row.zipIdx.map fun (c, column) =>
    if column + 1 = row.length then paint p c.style c.text.toList
    else paint p c.style (pad (widths[column]?.getD 0) c.text))

def writeSection (p : Palette) (heading : String) (rows : List Row) : List Char :=
  let widths := columnWidths rows
  p.header.toList ++ '[' :: (heading.toList ++ ']' :: p.reset.toList) ++ ['\n'] ++
    rows.flatMap fun row => writeRow p widths row ++ ['\n']

/-- The greatest width that the formatter pads to. -/
def widthLimit : Nat := 65535

def pad? (width : Nat) (text : String) : Except Panic (List Char) :=
  if widthLimit < width then .error .width else .ok (pad width text)

/-- A cell of a row with so many of them. -/
def writeCell? (p : Palette) (widths : List Nat) (length : Nat) (cell : Cell × Nat) :
    Except Panic (List Char) :=
  if cell.2 + 1 = length then .ok (paint p cell.1.style cell.1.text.toList)
  else (pad? (widths[cell.2]?.getD 0) cell.1.text).map (paint p cell.1.style)

def writeRow? (p : Palette) (widths : List Nat) (row : Row) : Except Panic (List Char) :=
  (row.zipIdx.mapM (writeCell? p widths row.length)).map [' ', ' '].intercalate

/-- A heading and the rows, each of which the formatter writes. -/
def writeSection? (p : Palette) (heading : String) (rows : List Row) :
    Except Panic (List Char) := do
  let widths := columnWidths rows
  let lines ← rows.mapM fun row => (writeRow? p widths row).map (· ++ ['\n'])
  return p.header.toList ++ '[' :: (heading.toList ++ ']' :: p.reset.toList) ++ ['\n'] ++
    lines.flatten

def bufferRow (b : Buffer) : Row := [
  ⟨.name, b.name⟩,
  ⟨.type, b.element.targetName⟩,
  ⟨.detail, toString b.count ++ " x " ++ b.element.primitive⟩]

def location (f : Field) : String :=
  match f.slot with
  | some s => s.buffer ++ "[" ++ toString s.offset ++ "]"
  | none => "-"

def fieldRow (l : Layout) (f : Field) : Row := [
  ⟨.plain, f.ident⟩,
  ⟨.type, f.type.targetName⟩,
  ⟨.plain, location f⟩,
  ⟨.detail, (l.ownerNameOf f).getD "*" ++ "." ++ f.property⟩]

/-- The row of a field, which there is if its owner has a name to be listed under. -/
def fieldRow? (l : Layout) (f : Field) : Except Panic Row :=
  match l.grammar.ownerName f.owner with
  | .ok _ => .ok (fieldRow l f)
  | .error handle => .error (.foreign handle)

end Listing

/-- The listing of a layout, whatever the widths of its columns. -/
def Layout.listing (l : Layout) (p : Palette) : String :=
  String.ofList (Listing.writeSection p "buffers" (l.buffers.map Listing.bufferRow) ++ '\n' ::
    Listing.writeSection p "fields" (l.sortedFields.map (Listing.fieldRow l)))

def Layout.dump (l : Layout) (p : Palette) : Except Panic String := do
  let buffers ← Listing.writeSection? p "buffers" (l.buffers.map Listing.bufferRow)
  let rows ← l.sortedFields.mapM (Listing.fieldRow? l)
  let fields ← Listing.writeSection? p "fields" rows
  return String.ofList (buffers ++ '\n' :: fields)

end GrammarLayout
