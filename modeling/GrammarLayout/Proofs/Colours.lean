import GrammarLayout.Listing
import GrammarLayout.Proofs.DeclarationOrder
import GrammarLayout.Proofs.Keys

/-!
# Colours only decorate

The codes around the cells of a listing can be deleted again. The texts of the cells may hold codes
of their own, or parts of codes, which are deleted or not as they are without colours: a cell is
followed by an escape character, a space or the end of the line, and none of these completes a code
that a text breaks off in.
-/

namespace GrammarLayout

def Palette.codes (p : Palette) : List (List Char) :=
  [p.header, p.name, p.type, p.detail, p.reset].map String.toList

namespace Listing

/-- The code that a text begins with. -/
def codeAt? (cs : List Char) : Option (List Char) :=
  Palette.on.codes.find? fun code => code.isPrefixOf cs

/-- The text without the codes in it, which are looked for from left to right. The number counts
the characters of the last code found that are still to be passed over. What comes together where
a code is left out is not looked at again. -/
def deleteCodes : Nat → List Char → List Char
  | _, [] => []
  | n + 1, _ :: cs => deleteCodes n cs
  | 0, c :: cs =>
    match codeAt? (c :: cs) with
    | some code => deleteCodes (code.length - 1) cs
    | none => c :: deleteCodes 0 cs

def uncoloured (text : String) : String := String.ofList (deleteCodes 0 text.toList)

variable {c : Char} {cs xs ys rest code : List Char} {n : Nat}

/-! ## Codes in front of a text -/

theorem exists_code_eq (h : code ∈ Palette.on.codes) : ∃ t, code = '\x1b' :: t := by
  have hhead : ∀ code ∈ Palette.on.codes, code.head? = some '\x1b' := by decide
  exact List.head?_eq_some_iff.mp (hhead code h)

/-- No code begins with another one. -/
theorem code_eq_of_begins : ∀ code ∈ Palette.on.codes, ∀ code' ∈ Palette.on.codes,
    code <+: code' → code = code' := by
  decide

theorem prefix_of_codeAt? (h : codeAt? cs = some code) : code <+: cs :=
  List.isPrefixOf_iff_prefix.mp
    (List.find?_some (p := fun code : List Char => code.isPrefixOf cs) h)

theorem codeAt?_cons (h : c ≠ '\x1b') (cs : List Char) : codeAt? (c :: cs) = none := by
  cases hcode : codeAt? (c :: cs) with
  | none => rfl
  | some code =>
    obtain ⟨t, rfl⟩ := exists_code_eq (List.mem_of_find?_eq_some hcode)
    obtain ⟨cs', hcs⟩ := prefix_of_codeAt? hcode
    exact absurd (List.cons.inj hcs).1.symm h

theorem codeAt?_code_append (h : code ∈ Palette.on.codes) (ys : List Char) :
    codeAt? (code ++ ys) = some code := by
  cases hfound : codeAt? (code ++ ys) with
  | none =>
    have hnot := List.find?_eq_none.mp hfound code h
    exact absurd (List.isPrefixOf_iff_prefix.mpr (List.prefix_append code ys)) hnot
  | some code' =>
    have hmem : code' ∈ Palette.on.codes := List.mem_of_find?_eq_some hfound
    rcases List.prefix_or_prefix_of_prefix (prefix_of_codeAt? hfound) (List.prefix_append code ys)
      with hbegin | hbegin
    · rw [code_eq_of_begins code' hmem code h hbegin]
    · rw [code_eq_of_begins code h code' hmem hbegin]

/-! ## Deleting codes -/

theorem deleteCodes_cons (h : c ≠ '\x1b') (cs : List Char) :
    deleteCodes 0 (c :: cs) = c :: deleteCodes 0 cs := by
  rw [deleteCodes, codeAt?_cons h]

theorem deleteCodes_eq_self (h : '\x1b' ∉ cs) : deleteCodes 0 cs = cs := by
  induction cs with
  | nil => rfl
  | cons c cs ih =>
    rw [List.mem_cons, not_or] at h
    rw [deleteCodes_cons (Ne.symm h.1), ih h.2]

theorem deleteCodes_length_append (xs ys : List Char) :
    deleteCodes xs.length (xs ++ ys) = deleteCodes 0 ys := by
  induction xs with
  | nil => rfl
  | cons x xs ih => exact ih

theorem deleteCodes_code_append (h : code ∈ Palette.on.codes) (ys : List Char) :
    deleteCodes 0 (code ++ ys) = deleteCodes 0 ys := by
  have hfound := codeAt?_code_append h ys
  obtain ⟨t, rfl⟩ := exists_code_eq h
  rw [List.cons_append] at hfound
  rw [List.cons_append, deleteCodes, hfound]
  exact deleteCodes_length_append t ys

/-! ## Where no code goes on -/

/-- No code that begins before the text reaches into it. -/
def Boundary (ys : List Char) : Prop :=
  ∀ y ∈ ys.head?, ∀ code ∈ Palette.on.codes, y ∉ code.tail

theorem boundary_cons (h : ∀ code ∈ Palette.on.codes, c ∉ code.tail) (cs : List Char) :
    Boundary (c :: cs) := by
  intro y hy
  obtain rfl := Option.some.inj hy
  exact h

theorem Boundary.codeAt?_append (h : Boundary ys) (x : Char) (xs : List Char) :
    codeAt? (x :: (xs ++ ys)) = codeAt? (x :: xs) := by
  apply List.find?_congr
  intro code hcode
  obtain ⟨t, rfl⟩ := exists_code_eq hcode
  cases ys with
  | nil => rw [List.append_nil]
  | cons y ys =>
    have hy : y ∉ t := h y rfl _ hcode
    rw [List.isPrefixOf, List.isPrefixOf, isPrefixOf_append_cons hy]

/-- Codes are deleted on the two sides of a boundary on their own. -/
theorem Boundary.deleteCodes_append (h : Boundary ys) (hn : n ≤ xs.length) :
    deleteCodes n (xs ++ ys) = deleteCodes n xs ++ deleteCodes 0 ys := by
  induction xs generalizing n with
  | nil =>
    obtain rfl := Nat.le_zero.mp hn
    rfl
  | cons x xs ih =>
    cases n with
    | succ n => exact ih (Nat.le_of_succ_le_succ hn)
    | zero =>
      rw [List.cons_append, deleteCodes, deleteCodes, h.codeAt?_append]
      split
      · next code hcode =>
        have hlength := (prefix_of_codeAt? hcode).length_le
        rw [List.length_cons] at hlength
        exact ih (by omega)
      · rw [ih (Nat.zero_le _)]
        rfl

/-! ## Rows and sections -/

theorem codes_ofBool : ∀ coloured, ∀ code ∈ (Palette.ofBool coloured).codes,
    code = [] ∨ code ∈ Palette.on.codes := by
  decide

/-- With colours and without, a text between codes is left with its own codes deleted. -/
theorem deleteCodes_between (coloured : Bool) {code : List Char}
    (hcode : code ∈ (Palette.ofBool coloured).codes) (text : List Char) (h : Boundary rest) :
    deleteCodes 0 (code ++ text ++ (Palette.ofBool coloured).reset.toList ++ rest) =
      deleteCodes 0 text ++ deleteCodes 0 rest := by
  have hfront : ∀ {code}, code ∈ (Palette.ofBool coloured).codes → ∀ ys,
      deleteCodes 0 (code ++ ys) = deleteCodes 0 ys := by
    intro code hcode ys
    rcases codes_ofBool coloured code hcode with rfl | hon
    · rfl
    · exact deleteCodes_code_append hon ys
  have hreset : (Palette.ofBool coloured).reset.toList ∈ (Palette.ofBool coloured).codes := by
    simp [Palette.codes]
  have hrest : Boundary ((Palette.ofBool coloured).reset.toList ++ rest) := by
    cases coloured with
    | false => exact h
    | true => exact boundary_cons (by decide) _
  rw [List.append_assoc, List.append_assoc, hfront hcode, hrest.deleteCodes_append (Nat.zero_le _),
    hfront hreset]

theorem deleteCodes_paint (coloured : Bool) (style : Style) (text : List Char)
    (h : Boundary rest) :
    deleteCodes 0 (paint (Palette.ofBool coloured) style text ++ rest) =
      deleteCodes 0 text ++ deleteCodes 0 rest := by
  cases style with
  | plain => exact h.deleteCodes_append (Nat.zero_le _)
  | name => exact deleteCodes_between coloured (by simp [Palette.codes]) text h
  | type => exact deleteCodes_between coloured (by simp [Palette.codes]) text h
  | detail => exact deleteCodes_between coloured (by simp [Palette.codes]) text h

/-- The texts of the cells of a row with their padding. -/
def padded (widths : List Nat) (row : Row) : List (Style × List Char) :=
  row.zipIdx.map fun (c, column) =>
    (c.style, if column + 1 = row.length then c.text.toList
      else pad (widths[column]?.getD 0) c.text)

def bareRow (widths : List Nat) (row : Row) : List Char :=
  [' ', ' '].intercalate ((padded widths row).map fun cell => deleteCodes 0 cell.2)

theorem writeRow_eq (p : Palette) (widths : List Nat) (row : Row) : writeRow p widths row =
    [' ', ' '].intercalate ((padded widths row).map fun cell => paint p cell.1 cell.2) := by
  rw [writeRow, padded, List.map_map]
  congr 2
  funext ⟨c, column⟩
  exact (apply_ite (paint p c.style) _ _ _).symm

theorem deleteCodes_row (coloured : Bool) (widths : List Nat) (row : Row) (h : Boundary rest) :
    deleteCodes 0 (writeRow (Palette.ofBool coloured) widths row ++ rest) =
      bareRow widths row ++ deleteCodes 0 rest := by
  rw [writeRow_eq, bareRow]
  generalize padded widths row = cells
  induction cells with
  | nil => rfl
  | cons cell cells ih =>
    cases cells with
    | nil =>
      simp only [List.map_cons, List.map_nil, List.intercalate_singleton]
      exact deleteCodes_paint coloured cell.1 cell.2 h
    | cons cell' cells =>
      -- The next cell is two spaces behind, and these end the first one.
      simp only [List.map_cons, List.intercalate_cons_cons, List.append_assoc, List.cons_append,
        List.nil_append] at ih ⊢
      rw [deleteCodes_paint coloured cell.1 cell.2 (boundary_cons (by decide) _),
        deleteCodes_cons (by decide), deleteCodes_cons (by decide), ih]

theorem deleteCodes_rows (coloured : Bool) (widths : List Nat) (rows : List Row)
    (rest : List Char) :
    deleteCodes 0 (rows.flatMap (fun row => writeRow (Palette.ofBool coloured) widths row ++ ['\n'])
        ++ rest) =
      rows.flatMap (fun row => bareRow widths row ++ ['\n']) ++ deleteCodes 0 rest := by
  induction rows with
  | nil => rfl
  | cons row rows ih =>
    simp only [List.flatMap_cons, List.append_assoc, List.cons_append, List.nil_append] at ih ⊢
    rw [deleteCodes_row coloured widths row (boundary_cons (by decide) _),
      deleteCodes_cons (by decide), ih]

/-- A section without the codes in its heading and its cells. -/
def bareSection (heading : String) (rows : List Row) : List Char :=
  deleteCodes 0 ('[' :: (heading.toList ++ [']'])) ++ '\n' ::
    rows.flatMap fun row => bareRow (columnWidths rows) row ++ ['\n']

theorem writeSection_append (p : Palette) (heading : String) (rows : List Row)
    (rest : List Char) : writeSection p heading rows ++ rest =
      p.header.toList ++ ('[' :: (heading.toList ++ [']'])) ++ p.reset.toList ++
        '\n' :: (rows.flatMap (fun row => writeRow p (columnWidths rows) row ++ ['\n']) ++
          rest) := by
  simp [writeSection]

theorem deleteCodes_section (coloured : Bool) (heading : String) (rows : List Row)
    (rest : List Char) :
    deleteCodes 0 (writeSection (Palette.ofBool coloured) heading rows ++ rest) =
      bareSection heading rows ++ deleteCodes 0 rest := by
  have hheader : (Palette.ofBool coloured).header.toList ∈ (Palette.ofBool coloured).codes := by
    simp [Palette.codes]
  rw [writeSection_append, deleteCodes_between coloured hheader _ (boundary_cons (by decide) _),
    deleteCodes_cons (c := '\n') (by decide), deleteCodes_rows, bareSection]
  simp

/-- The listing of a layout, without any codes. -/
def bareListing (l : Layout) : List Char :=
  bareSection "buffers" (l.buffers.map bufferRow) ++ '\n' ::
    bareSection "fields" (l.sortedFields.map (fieldRow l))

theorem uncoloured_listing (coloured : Bool) (l : Layout) :
    uncoloured (l.listing (Palette.ofBool coloured)) = String.ofList (bareListing l) := by
  have hfields := deleteCodes_section coloured "fields" (l.sortedFields.map (fieldRow l)) []
  rw [List.append_nil, deleteCodes, List.append_nil] at hfields
  rw [uncoloured, Layout.listing, String.toList_ofList, deleteCodes_section,
    deleteCodes_cons (by decide), hfields, bareListing]

/-! ## Listings without escape characters -/

theorem escape_notMem_pad {text : String} (h : '\x1b' ∉ text.toList) (width : Nat) :
    '\x1b' ∉ pad width text := by
  rw [pad, List.mem_append, not_or]
  refine ⟨h, fun hspace => ?_⟩
  exact absurd (List.eq_of_mem_replicate hspace) (by decide)

theorem paint_off (style : Style) (text : List Char) : paint .off style text = text := by
  cases style <;> simp [paint, Palette.off]

theorem escape_notMem_padded {row : Row} (h : ∀ cell ∈ row, '\x1b' ∉ cell.text.toList)
    (widths : List Nat) : ∀ cell ∈ padded widths row, '\x1b' ∉ cell.2 := by
  intro cell hcell
  obtain ⟨⟨c, column⟩, hc, rfl⟩ := List.mem_map.mp hcell
  have hplain : '\x1b' ∉ c.text.toList := h c (List.fst_mem_of_mem_zipIdx hc)
  dsimp only
  split
  · exact hplain
  · exact escape_notMem_pad hplain _

theorem bareRow_eq {row : Row} (h : ∀ cell ∈ row, '\x1b' ∉ cell.text.toList)
    (widths : List Nat) : bareRow widths row = writeRow .off widths row := by
  rw [writeRow_eq, bareRow]
  congr 1
  apply List.map_congr_left
  intro cell hcell
  rw [paint_off, deleteCodes_eq_self (escape_notMem_padded h widths cell hcell)]

theorem writeSection_off (heading : String) (rows : List Row) : writeSection .off heading rows =
    '[' :: heading.toList ++ [']', '\n'] ++
      rows.flatMap fun row => writeRow .off (columnWidths rows) row ++ ['\n'] := by
  simp [writeSection, Palette.off]

theorem bareSection_eq {heading : String} {rows : List Row} (hh : '\x1b' ∉ heading.toList)
    (h : ∀ row ∈ rows, ∀ cell ∈ row, '\x1b' ∉ cell.text.toList) :
    bareSection heading rows = writeSection .off heading rows := by
  have hheading : '\x1b' ∉ '[' :: (heading.toList ++ [']']) := by
    simpa using hh
  have hrows : rows.flatMap (fun row => bareRow (columnWidths rows) row ++ ['\n']) =
      rows.flatMap fun row => writeRow .off (columnWidths rows) row ++ ['\n'] := by
    apply List.flatMap_congr
    intro row hrow
    rw [bareRow_eq (h row hrow)]
  rw [bareSection, deleteCodes_eq_self hheading, hrows, writeSection_off]
  simp

theorem bareListing_eq {l : Layout}
    (hb : ∀ b ∈ l.buffers, ∀ cell ∈ bufferRow b, '\x1b' ∉ cell.text.toList)
    (hf : ∀ f ∈ l.fields, ∀ cell ∈ fieldRow l f, '\x1b' ∉ cell.text.toList) :
    String.ofList (bareListing l) = l.listing .off := by
  have hbuffers : ∀ row ∈ l.buffers.map bufferRow, ∀ cell ∈ row, '\x1b' ∉ cell.text.toList := by
    intro row hrow
    obtain ⟨b, hmem, rfl⟩ := List.mem_map.mp hrow
    exact hb b hmem
  have hfields : ∀ row ∈ l.sortedFields.map (fieldRow l), ∀ cell ∈ row,
      '\x1b' ∉ cell.text.toList := by
    intro row hrow
    obtain ⟨f, hmem, rfl⟩ := List.mem_map.mp hrow
    exact hf f (l.perm_sortedFields.mem_iff.mp hmem)
  rw [bareListing, bareSection_eq (by decide) hbuffers, bareSection_eq (by decide) hfields,
    Layout.listing]

theorem escape_notMem_type (type : StorageType) :
    ∀ text ∈ [Naming.bufferName type, type.targetName, type.primitive],
      '\x1b' ∉ text.toList := by
  cases type <;> decide +kernel

theorem escape_notMem_numeral (n : Nat) : '\x1b' ∉ (toString n).toList := by
  intro h
  have hdigit : '\x1b'.isDigit = true := by
    apply Nat.isDigit_of_mem_toDigits (b := 10) (n := n) (by decide) (by decide)
    rwa [← Nat.toList_repr]
  exact absurd hdigit (by decide)

theorem escape_notMem_bufferRow (b : Buffer) :
    ∀ cell ∈ bufferRow b, '\x1b' ∉ cell.text.toList := by
  have htype := escape_notMem_type b.element
  have hcount := escape_notMem_numeral b.count
  simp only [List.forall_mem_cons] at htype
  obtain ⟨hname, htarget, hprimitive, _⟩ := htype
  simp only [bufferRow, List.forall_mem_cons, String.toList_append, List.mem_append, not_or]
  exact ⟨hname, htarget, ⟨⟨hcount, by decide⟩, hprimitive⟩, by simp⟩

/-- None of the names that a field is listed with has an escape character. -/
structure Unescaped (l : Layout) (f : Field) : Prop where
  ident : '\x1b' ∉ f.ident.toList
  property : '\x1b' ∉ f.property.toList
  owner : ∀ name ∈ l.ownerNameOf f, '\x1b' ∉ name.toList

instance (l : Layout) (f : Field) : Decidable (Unescaped l f) :=
  decidable_of_iff ('\x1b' ∉ f.ident.toList ∧ '\x1b' ∉ f.property.toList ∧
      ∀ name ∈ (l.ownerNameOf f).toList, '\x1b' ∉ name.toList)
    ⟨fun ⟨hi, hp, ho⟩ => ⟨hi, hp, by simpa using ho⟩,
      fun h => ⟨h.ident, h.property, by simpa using h.owner⟩⟩

theorem escape_notMem_location {l : Layout} {f : Field} (h : l.buffers.Holds l.fields)
    (hf : f ∈ l.fields) : '\x1b' ∉ (location f).toList := by
  unfold location
  split
  · next slot hs =>
    have hbuffer := h.buffer?_eq hf
    rw [Field.buffer?, hs] at hbuffer
    split at hbuffer
    · cases hbuffer
    · have hname : '\x1b' ∉ slot.buffer.toList := by
        rw [Option.some.inj hbuffer]
        exact escape_notMem_type f.type _ List.mem_cons_self
      have hoffset := escape_notMem_numeral slot.offset
      simp only [String.toList_append, List.mem_append, not_or]
      exact ⟨⟨⟨hname, by decide⟩, hoffset⟩, by decide⟩
  · decide

theorem Unescaped.fieldRow {l : Layout} {f : Field} (hu : Unescaped l f)
    (h : l.buffers.Holds l.fields) (hf : f ∈ l.fields) :
    ∀ cell ∈ fieldRow l f, '\x1b' ∉ cell.text.toList := by
  have htarget := escape_notMem_type f.type f.type.targetName (by simp)
  have howner : '\x1b' ∉ ((l.ownerNameOf f).getD "*").toList := by
    cases hn : l.ownerNameOf f with
    | none => decide
    | some name => exact hu.owner name hn
  simp only [Listing.fieldRow, List.forall_mem_cons, String.toList_append, List.mem_append, not_or]
  exact ⟨hu.ident, htarget, escape_notMem_location h hf, ⟨⟨howner, by decide⟩, hu.property⟩,
    by simp⟩

/-- With the codes deleted, a listing is the same with colours as without; and if no name has an
escape character, it is the one without colours. -/
theorem colours_only_decorate {g : Grammar} {l : Layout} (h : Layout.Reachable g l) :
    uncoloured (l.listing .on) = uncoloured (l.listing .off) ∧
      ((∀ f ∈ l.fields, Unescaped l f) → uncoloured (l.listing .on) = l.listing .off) := by
  have hon : uncoloured (l.listing .on) = String.ofList (bareListing l) := uncoloured_listing true l
  have hoff : uncoloured (l.listing .off) = String.ofList (bareListing l) :=
    uncoloured_listing false l
  constructor
  · rw [hon, hoff]
  · intro hnames
    rw [hon]
    apply bareListing_eq
    · intro b _
      exact escape_notMem_bufferRow b
    · intro f hf
      exact (hnames f hf).fieldRow h.holds hf

/-- A class whose names are codes but for the escape character. -/
def codeLike : Grammar where
  interfaces := [{ name := "Node" }]
  classes := [⟨"[2m", ⟨0⟩, ⟨[("[0m", ⟨"int", false⟩), ("[1;34m", ⟨"vbo", false⟩)], by simp⟩,
    .empty, .empty⟩]

theorem codeLike_only_decorated : ∃ l, Layout.plan codeLike .empty = .ok l ∧
    (∀ f ∈ l.fields, Unescaped l f) ∧ uncoloured (l.listing .on) = l.listing .off := by
  obtain ⟨l, hl⟩ := Layout.exists_plan (g := codeLike) (s := .empty) (by decide +kernel)
  have hnames : (Layout.plan codeLike .empty).toOption.map (fun l =>
      decide (∀ f ∈ l.fields, Unescaped l f)) = some true := by
    decide +kernel
  rw [hl] at hnames
  have hunescaped := of_decide_eq_true (Option.some.inj hnames)
  exact ⟨l, hl, hunescaped, (colours_only_decorate (Layout.reachable_of_plan hl)).2 hunescaped⟩

end Listing
end GrammarLayout
