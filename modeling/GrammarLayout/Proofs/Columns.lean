import GrammarLayout.Proofs.Colours

/-!
# Columns line up

The columns of a section are as wide as the number of bytes of their longest cells, and cells are
filled up to a number of characters. A text has no more characters than bytes, so every cell is
shorter than its column is wide, and the next cell stands in the same place in all rows.
-/

namespace GrammarLayout.Listing

variable {α : Type} {rows : List Row} {row : Row} {c : Cell} {k : Nat}

theorem length_le_utf8ByteSize (text : String) : text.toList.length ≤ text.utf8ByteSize := by
  have hlist : ∀ cs : List Char, cs.length ≤ String.utf8Len cs := by
    intro cs
    induction cs with
    | nil => exact Nat.le_refl 0
    | cons c cs ih =>
      have hpos : 0 < c.utf8Size := c.utf8Size_pos
      rw [List.length_cons, String.utf8Len_cons]
      omega
  rw [← String.utf8Len_toList]
  exact hlist text.toList

theorem le_foldl_max {xs : List Nat} {b x : Nat} (h : x ≤ b ∨ x ∈ xs) : x ≤ xs.foldl max b := by
  induction xs generalizing b with
  | nil => simpa using h
  | cons y ys ih =>
    apply ih
    rcases h with hb | hmem
    · exact .inl (Nat.le_trans hb (Nat.le_max_left b y))
    · rcases List.mem_cons.mp hmem with rfl | hmem
      · exact .inl (Nat.le_max_right b x)
      · exact .inr hmem

theorem utf8ByteSize_le_columnWidth (hrow : row ∈ rows) (hc : row[k]? = some c) :
    c.text.utf8ByteSize ≤ columnWidth rows k := by
  have hmem : c.text.utf8ByteSize ∈
      rows.map fun row => (row[k]?.map fun c => c.text.utf8ByteSize).getD 0 := by
    apply List.mem_map.mpr
    exact ⟨row, hrow, by rw [hc]; rfl⟩
  exact le_foldl_max (.inr hmem)

theorem length_le_columnWidth (hrow : row ∈ rows) (hc : row[k]? = some c) :
    c.text.toList.length ≤ columnWidth rows k :=
  (length_le_utf8ByteSize c.text).trans (utf8ByteSize_le_columnWidth hrow hc)

theorem columnWidths_getElem? (hrow : row ∈ rows) (hk : k < row.length) :
    (columnWidths rows)[k]? = some (columnWidth rows k) := by
  have hlength : row.length ≤ (rows.map List.length).foldl max 0 :=
    le_foldl_max (.inr (List.mem_map_of_mem hrow))
  rw [columnWidths, List.getElem?_map, List.getElem?_range (Nat.lt_of_lt_of_le hk hlength)]
  rfl

/-- The texts stand in a row that goes on with the column of the given number: each of them in
full, and the next one after two or more spaces in the next column. Columns are counted in
characters from the beginning of the row. -/
inductive StandAt (column : Nat → Nat) : Nat → List String → List Char → Prop
  | last (k : Nat) (text : String) : StandAt column k [text] text.toList
  | next {k gap : Nat} {text : String} {texts : List String} {rest : List Char}
      (hgap : 2 ≤ gap) (hcolumn : column (k + 1) = column k + text.toList.length + gap)
      (h : StandAt column (k + 1) texts rest) :
      StandAt column k (text :: texts) (text.toList ++ List.replicate gap ' ' ++ rest)

def columnStart (widths : List Nat) : Nat → Nat
  | 0 => 0
  | k + 1 => columnStart widths k + widths[k]?.getD 0 + 2

theorem pad_append_gap (width : Nat) (text : String) : pad width text ++ [' ', ' '] =
    text.toList ++ List.replicate (width - text.toList.length + 2) ' ' := by
  rw [pad, List.append_assoc, ← List.replicate_append_replicate]
  rfl

/-- What is written for a cell of a row of `n` without colours: the last one is not filled up. -/
def cellText (widths : List Nat) (n : Nat) (cell : Cell × Nat) : List Char :=
  if cell.2 + 1 = n then cell.1.text.toList else pad (widths[cell.2]?.getD 0) cell.1.text

theorem writeRow_off (widths : List Nat) (row : Row) : writeRow .off widths row =
    [' ', ' '].intercalate (row.zipIdx.map (cellText widths row.length)) := by
  rw [writeRow_eq, padded, List.map_map]
  congr 2
  funext cell
  cases cell with
  | mk c column => exact paint_off _ _

/-- Where no cell but the last is too long for its column, the cells of a row stand in the columns,
from any one on. -/
theorem standAt_cells {widths : List Nat} {n : Nat} (hne : row ≠ []) (hn : k + row.length = n)
    (hfit : ∀ i c, row[i]? = some c → k + i + 1 < n →
      c.text.toList.length ≤ widths[k + i]?.getD 0) :
    StandAt (columnStart widths) k (row.map Cell.text)
      ([' ', ' '].intercalate ((row.zipIdx k).map (cellText widths n))) := by
  induction row generalizing k with
  | nil => exact absurd rfl hne
  | cons c row ih =>
    cases row with
    | nil =>
      have hlast : k + 1 = n := hn
      have htext : cellText widths n (c, k) = c.text.toList := if_pos hlast
      rw [List.zipIdx_cons, List.zipIdx_nil, List.map_singleton, List.map_singleton,
        List.intercalate_singleton, htext]
      exact .last k c.text
    | cons c' row =>
      rw [List.length_cons, List.length_cons] at hn
      have hinner : k + 1 < n := by omega
      have hrest := ih (k := k + 1) (List.cons_ne_nil c' row)
        (by rw [List.length_cons]; omega) fun i d hd hi => by
          rw [Nat.add_right_comm]
          exact hfit (i + 1) d hd (by omega)
      have hwidth : c.text.toList.length ≤ widths[k]?.getD 0 := hfit 0 c rfl hinner
      have hcolumn : columnStart widths (k + 1) = columnStart widths k + c.text.toList.length +
          (widths[k]?.getD 0 - c.text.toList.length + 2) := by
        rw [columnStart]
        omega
      have htext : cellText widths n (c, k) = pad (widths[k]?.getD 0) c.text :=
        if_neg (Nat.ne_of_lt hinner)
      have hmore : ((c' :: row).zipIdx (k + 1)).map (cellText widths n) ≠ [] := by
        simp
      have hwritten : [' ', ' '].intercalate (((c :: c' :: row).zipIdx k).map (cellText widths n)) =
          c.text.toList ++ List.replicate (widths[k]?.getD 0 - c.text.toList.length + 2) ' ' ++
            [' ', ' '].intercalate (((c' :: row).zipIdx (k + 1)).map (cellText widths n)) := by
        rw [List.zipIdx_cons, List.map_cons, List.intercalate_cons_of_ne_nil hmore, htext,
          pad_append_gap]
      rw [hwritten]
      exact .next (Nat.le_add_left 2 _) hcolumn hrest

theorem standAt_writeRow (hrow : row ∈ rows) (hne : row ≠ []) :
    StandAt (columnStart (columnWidths rows)) 0 (row.map Cell.text)
      (writeRow .off (columnWidths rows) row) := by
  rw [writeRow_off]
  apply standAt_cells hne (Nat.zero_add row.length)
  intro i c hc hi
  rw [Nat.zero_add] at hi ⊢
  rw [columnWidths_getElem? hrow (Nat.lt_of_succ_lt hi), Option.getD_some]
  exact length_le_columnWidth hrow hc

/-- A section of a listing: under its heading it has one row for each of the items, in their order.
A row is what is written for its item, whatever characters are in it, and in all rows the cells
stand in the same columns. -/
def LinesUp (heading : String) (items : List α) (cells : α → List String)
    (text : List Char) : Prop :=
  ∃ (rowOf : α → List Char) (column : Nat → Nat),
    text = '[' :: heading.toList ++ [']', '\n'] ++ items.flatMap (fun x => rowOf x ++ ['\n']) ∧
      column 0 = 0 ∧ ∀ x ∈ items, StandAt column 0 (cells x) (rowOf x)

theorem linesUp_writeSection (heading : String) (items : List α) (rowOf : α → Row)
    (hne : ∀ x, rowOf x ≠ []) : LinesUp heading items (fun x => (rowOf x).map Cell.text)
      (writeSection .off heading (items.map rowOf)) := by
  refine ⟨fun x => writeRow .off (columnWidths (items.map rowOf)) (rowOf x),
    columnStart (columnWidths (items.map rowOf)), ?_, rfl, ?_⟩
  · rw [writeSection_off, List.flatMap_map]
  · intro x hx
    exact standAt_writeRow (List.mem_map_of_mem hx) (hne x)

/-- The listing of a layout has two sections with an empty line between them, one for the buffers
as they were opened and one for the fields as they are declared. In both of them the columns line
up. -/
theorem linesUp_listing (l : Layout) : ∃ buffers fields : List Char,
    l.listing .off = String.ofList (buffers ++ '\n' :: fields) ∧
      LinesUp "buffers" l.buffers (fun b => [b.name, b.element.targetName,
        toString b.count ++ " x " ++ b.element.primitive]) buffers ∧
      LinesUp "fields" l.sortedFields (fun f => [f.ident, f.type.targetName, location f,
        (l.ownerNameOf f).getD "*" ++ "." ++ f.property]) fields :=
  ⟨_, _, rfl, linesUp_writeSection "buffers" l.buffers bufferRow fun _ => List.cons_ne_nil _ _,
    linesUp_writeSection "fields" l.sortedFields (fieldRow l) fun _ => List.cons_ne_nil _ _⟩

end GrammarLayout.Listing
