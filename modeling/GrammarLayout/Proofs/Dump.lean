import GrammarLayout.Proofs.Columns
import GrammarLayout.Proofs.Handles
import GrammarLayout.Proofs.Packing

/-!
# When a layout can be dumped

The formatter stops at a column that is too wide to be padded. Of the columns that are padded only
that of the identifiers can be: types and buffers have short names, and an offset is a word.
-/

namespace GrammarLayout
namespace Listing

variable {rows : List Row} {row : Row} {widths : List Nat} {p : Palette} {heading : String}

/-- A column that is padded in the row is too wide. -/
def Overwide (widths : List Nat) (row : Row) : Prop :=
  ∃ k, k + 1 < row.length ∧ widthLimit < widths[k]?.getD 0

/-- What is written for a cell if its column is not too wide. -/
def writtenCell (p : Palette) (widths : List Nat) (length : Nat) (cell : Cell × Nat) : List Char :=
  if cell.2 + 1 = length then paint p cell.1.style cell.1.text.toList
  else paint p cell.1.style (pad (widths[cell.2]?.getD 0) cell.1.text)

theorem writeCell?_eq (p : Palette) (widths : List Nat) (length : Nat) (cell : Cell × Nat) :
    writeCell? p widths length cell =
      if cell.2 + 1 ≠ length ∧ widthLimit < widths[cell.2]?.getD 0 then .error .width
      else .ok (writtenCell p widths length cell) := by
  unfold writeCell? writtenCell pad?
  by_cases hl : cell.2 + 1 = length
  · simp [hl]
  · by_cases hw : widthLimit < widths[cell.2]?.getD 0 <;> simp [hl, hw, Except.map]

theorem writeRow_eq_writtenCell (p : Palette) (widths : List Nat) (row : Row) :
    writeRow p widths row =
      [' ', ' '].intercalate (row.zipIdx.map (writtenCell p widths row.length)) := by
  unfold writeRow writtenCell
  rfl

theorem writeRow?_of_narrow (h : ¬ Overwide widths row) (p : Palette) :
    writeRow? p widths row = .ok (writeRow p widths row) := by
  have hcells : row.zipIdx.mapM (writeCell? p widths row.length) =
      .ok (row.zipIdx.map (writtenCell p widths row.length)) := by
    apply mapM_eq_ok
    rintro ⟨c, k⟩ hc
    rw [writeCell?_eq, if_neg]
    rintro ⟨hk, hw⟩
    have hlt := (List.getElem?_eq_some_iff.mp (List.mem_zipIdx_iff_getElem?.mp hc)).1
    exact h ⟨k, by dsimp only at hk; omega, hw⟩
  rw [writeRow?, hcells, writeRow_eq_writtenCell]
  rfl

theorem writeRow?_of_overwide (h : Overwide widths row) (p : Palette) :
    writeRow? p widths row = .error .width := by
  obtain ⟨k, hk, hw⟩ := h
  have hcells : row.zipIdx.mapM (writeCell? p widths row.length) = .error .width := by
    apply mapM_eq_error (v := writtenCell p widths row.length)
    · have hget := List.getElem?_eq_getElem (Nat.lt_of_succ_lt hk)
      refine ⟨(row[k], k), List.mem_zipIdx_iff_getElem?.mpr hget, ?_⟩
      rw [writeCell?_eq, if_pos ⟨Nat.ne_of_lt hk, hw⟩]
    · intro cell _
      rw [writeCell?_eq]
      split
      · exact .inr rfl
      · exact .inl rfl
  rw [writeRow?, hcells]
  rfl

def SectionOverwide (rows : List Row) : Prop :=
  ∃ row ∈ rows, Overwide (columnWidths rows) row

theorem writeSection?_of_narrow (h : ¬ SectionOverwide rows) (p : Palette) (heading : String) :
    writeSection? p heading rows = .ok (writeSection p heading rows) := by
  have hlines : (rows.mapM fun row =>
      (writeRow? p (columnWidths rows) row).map (· ++ ['\n'])) =
        .ok (rows.map fun row => writeRow p (columnWidths rows) row ++ ['\n']) := by
    apply mapM_eq_ok
    intro row hrow
    rw [writeRow?_of_narrow fun ho => h ⟨row, hrow, ho⟩]
    rfl
  unfold writeSection? writeSection
  dsimp only
  rw [hlines, List.flatMap_def]
  rfl

theorem writeSection?_of_overwide (h : SectionOverwide rows) (p : Palette) (heading : String) :
    writeSection? p heading rows = .error .width := by
  obtain ⟨row, hrow, ho⟩ := h
  have hlines : (rows.mapM fun row =>
      (writeRow? p (columnWidths rows) row).map (· ++ ['\n'])) = .error .width := by
    apply mapM_eq_error (v := fun row => writeRow p (columnWidths rows) row ++ ['\n'])
    · exact ⟨row, hrow, by rw [writeRow?_of_overwide ho]; rfl⟩
    · intro row' _
      by_cases ho' : Overwide (columnWidths rows) row'
      · rw [writeRow?_of_overwide ho']
        exact .inr rfl
      · rw [writeRow?_of_narrow ho']
        exact .inl rfl
  unfold writeSection?
  dsimp only
  rw [hlines]
  rfl

theorem lt_foldl_max {xs : List Nat} {b x : Nat} (h : x < xs.foldl max b) :
    x < b ∨ ∃ y ∈ xs, x < y := by
  induction xs generalizing b with
  | nil => exact .inl h
  | cons y ys ih =>
    rcases ih h with hb | ⟨z, hz, hx⟩
    · rcases Nat.lt_or_ge x b with hb' | hb'
      · exact .inl hb'
      · exact .inr ⟨y, List.mem_cons_self, by omega⟩
    · exact .inr ⟨z, List.mem_cons_of_mem y hz, hx⟩

theorem exists_cell_of_lt {rows : List Row} {k n : Nat} (h : n < columnWidth rows k) :
    ∃ row ∈ rows, ∃ c, row[k]? = some c ∧ n < c.text.utf8ByteSize := by
  rcases lt_foldl_max h with h | ⟨y, hy, hlt⟩
  · omega
  · obtain ⟨row, hrow, rfl⟩ := List.mem_map.mp hy
    cases hc : row[k]? with
    | none => simp [hc] at hlt
    | some c => exact ⟨row, hrow, c, hc, by simpa [hc] using hlt⟩

/-- In a section of rows of one length, what is too wide is a cell that is not the last. -/
theorem sectionOverwide_iff {n : Nat} (hn : ∀ row ∈ rows, row.length = n) :
    SectionOverwide rows ↔ ∃ row ∈ rows, ∃ k c, k + 1 < n ∧ row[k]? = some c ∧
      widthLimit < c.text.utf8ByteSize := by
  constructor
  · rintro ⟨row, hrow, k, hk, hw⟩
    rw [columnWidths_getElem? hrow (Nat.lt_of_succ_lt hk), Option.getD_some] at hw
    obtain ⟨row', hrow', c, hc, hlt⟩ := exists_cell_of_lt hw
    exact ⟨row', hrow', k, c, hn row hrow ▸ hk, hc, hlt⟩
  · rintro ⟨row, hrow, k, c, hk, hc, hlt⟩
    have hk' : k + 1 < row.length := (hn row hrow).symm ▸ hk
    refine ⟨row, hrow, k, hk', ?_⟩
    rw [columnWidths_getElem? hrow (Nat.lt_of_succ_lt hk'), Option.getD_some]
    exact hlt.trans_le (utf8ByteSize_le_columnWidth hrow hc)

theorem utf8ByteSize_le (text : String) : text.utf8ByteSize ≤ 4 * text.toList.length := by
  have hlist : ∀ cs : List Char, String.utf8Len cs ≤ 4 * cs.length := by
    intro cs
    induction cs with
    | nil => exact Nat.le_refl 0
    | cons c cs ih =>
      have hfour := c.utf8Size_le_four
      rw [List.length_cons, String.utf8Len_cons]
      omega
  rw [← String.utf8Len_toList]
  exact hlist text.toList

theorem utf8ByteSize_toString_le {n : Nat} (h : n < 2 ^ 32) : (toString n).utf8ByteSize ≤ 40 := by
  have hdigits : (toString n).toList = Nat.toDigits 10 n := (String.ofList_eq.mp rfl).symm
  have hlength : (Nat.toDigits 10 n).length ≤ 10 :=
    (Nat.length_toDigits_le_iff (by decide) (by decide)).mpr (h.trans (by decide))
  have hsize := utf8ByteSize_le (toString n)
  rw [hdigits] at hsize
  omega

theorem utf8ByteSize_targetName_le (t : StorageType) : t.targetName.utf8ByteSize ≤ 100 := by
  cases t <;> decide

theorem utf8ByteSize_bufferName_le (t : StorageType) :
    (Naming.bufferName t).utf8ByteSize ≤ 100 := by
  rw [Naming.bufferName_eq]
  cases t <;> decide

/-- The slot is in a buffer that goes by the name for a type, at an offset that is a word. -/
def Ordinary (s : Slot) : Prop := (∃ t, s.buffer = Naming.bufferName t) ∧ s.offset < 2 ^ 32

theorem utf8ByteSize_location_le {f : Field} (h : ∀ s, f.slot = some s → Ordinary s) :
    (location f).utf8ByteSize ≤ 200 := by
  unfold location
  cases hs : f.slot with
  | none => decide
  | some s =>
    obtain ⟨⟨t, hname⟩, hoffset⟩ := h s hs
    have hbuffer := utf8ByteSize_bufferName_le t
    have hdigits := utf8ByteSize_toString_le hoffset
    have hopen : "[".utf8ByteSize = 1 := by decide
    have hclose : "]".utf8ByteSize = 1 := by decide
    simp only [String.utf8ByteSize_append, hname, hopen, hclose]
    omega

theorem not_sectionOverwide_buffers (bs : Buffers) : ¬ SectionOverwide (bs.map bufferRow) := by
  have hlength : ∀ row ∈ bs.map bufferRow, row.length = 3 := by simp [bufferRow]
  rw [sectionOverwide_iff hlength]
  rintro ⟨row, hrow, k, c, hk, hc, hw⟩
  obtain ⟨b, _, rfl⟩ := List.mem_map.mp hrow
  have hname : b.name.utf8ByteSize ≤ 100 := utf8ByteSize_bufferName_le b.element
  have htype := utf8ByteSize_targetName_le b.element
  have hk' : k = 0 ∨ k = 1 := by omega
  rcases hk' with rfl | rfl
  all_goals
    cases hc
    simp only [widthLimit] at hw
    omega

theorem sectionOverwide_fields {l : Layout} {fs : List Field}
    (h : ∀ f ∈ fs, ∀ s, f.slot = some s → Ordinary s) :
    SectionOverwide (fs.map (fieldRow l)) ↔ ∃ f ∈ fs, widthLimit < f.ident.utf8ByteSize := by
  have hlength : ∀ row ∈ fs.map (fieldRow l), row.length = 4 := by simp [fieldRow]
  rw [sectionOverwide_iff hlength]
  constructor
  · rintro ⟨row, hrow, k, c, hk, hc, hw⟩
    obtain ⟨f, hf, rfl⟩ := List.mem_map.mp hrow
    have htype := utf8ByteSize_targetName_le f.type
    have hlocation := utf8ByteSize_location_le (h f hf)
    have hk' : k = 0 ∨ k = 1 ∨ k = 2 := by omega
    rcases hk' with rfl | rfl | rfl
    · cases hc
      exact ⟨f, hf, hw⟩
    all_goals
      cases hc
      simp only [widthLimit] at hw
      omega
  · rintro ⟨f, hf, hw⟩
    exact ⟨fieldRow l f, List.mem_map_of_mem hf, 0, _, by decide, rfl, hw⟩

end Listing

namespace Layout

variable {l : Layout}

/-- A field has an identifier that is too long for a column. -/
def TooWide (l : Layout) : Prop := ∃ f ∈ l.fields, Listing.widthLimit < f.ident.utf8ByteSize

instance (l : Layout) : Decidable l.TooWide := inferInstanceAs (Decidable (∃ f ∈ l.fields, _))

/-- Dumping is listing, unless an identifier is too long; this is the only way to fail. -/
theorem dump_eq (howners : ∀ f ∈ l.fields, l.grammar.Knows f.owner)
    (hslots : ∀ f ∈ l.fields, ∀ s, f.slot = some s → Listing.Ordinary s) (p : Palette) :
    l.dump p = if l.TooWide then .error .width else .ok (l.listing p) := by
  have hrows : l.sortedFields.mapM (Listing.fieldRow? l) =
      .ok (l.sortedFields.map (Listing.fieldRow l)) := by
    apply mapM_eq_ok
    intro f hf
    rw [Listing.fieldRow?, ownerName_eq (howners f (List.mem_mergeSort.mp hf))]
  have hwide : Listing.SectionOverwide (l.sortedFields.map (Listing.fieldRow l)) ↔ l.TooWide := by
    have hsorted : ∀ f ∈ l.sortedFields, ∀ s, f.slot = some s → Listing.Ordinary s :=
      fun f hf => hslots f (List.mem_mergeSort.mp hf)
    rw [Listing.sectionOverwide_fields hsorted]
    simp only [sortedFields, List.mem_mergeSort, TooWide]
  unfold dump
  rw [Listing.writeSection?_of_narrow (Listing.not_sectionOverwide_buffers l.buffers), hrows]
  by_cases hw : l.TooWide
  · rw [if_pos hw]
    simp only [bind, Except.bind, Listing.writeSection?_of_overwide (hwide.mpr hw)]
  · rw [if_neg hw]
    simp only [bind, Except.bind, Listing.writeSection?_of_narrow fun h => hw (hwide.mp h)]
    rfl

end Layout
end GrammarLayout
