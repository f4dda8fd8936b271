import GrammarLayout.Command.Run
import GrammarLayout.Proofs.Handles
import GrammarLayout.Proofs.Packing
import GrammarLayout.Proofs.Spelling.Value

/-!
# What the JSON form of a layout holds

Read as a JSON document, the rendered text of a layout gives every buffer and every field in the
order in which they came to be, with all their names, whatever characters these are made of.
-/

namespace GrammarLayout.Layout

open Json

variable {α : Type} {g : Grammar} {l : Layout} {n : Nat} {f : Field}

theorem readable_ofOption {a : Option α} {k : α → Value} (h : ∀ x, a = some x → (k x).Readable n) :
    (Value.ofOption (a.map k)).Readable n := by
  cases a with
  | none => exact .null
  | some x => exact h x rfl

theorem readable_buffer {b : Buffer} (h : b.count < UInt64.size) : b.toJson.Readable (n + 1) := by
  refine .object fun m hm => ?_
  fin_cases hm
  · exact .text _
  · exact .text _
  · exact .text _
  · exact .natural h

theorem readable_field (h : ∀ k, f.offset? = some k → k < UInt64.size) :
    (l.fieldToJson f).Readable (n + 1) := by
  refine .object fun m hm => ?_
  fin_cases hm
  · exact readable_ofOption fun _ _ => .text _
  · exact .text _
  · exact .text _
  · exact .text _
  · exact .text _
  · exact readable_ofOption fun _ _ => .text _
  · exact readable_ofOption fun k hk => .natural (h k hk)

theorem Reachable.exists_count_gt (h : Reachable g l) (hf : f ∈ l.fields) {k : Nat}
    (hk : f.offset? = some k) : ∃ b ∈ l.buffers, k < b.count := by
  cases he : f.type.isExempt with
  | true => simp [Field.offset?, h.holds.slot_exempt f hf he] at hk
  | false =>
    obtain ⟨b, hb, _, k', hk', hs⟩ := h.holds.exists_buffer hf he
    simp only [Field.offset?, hs, Option.map_some, Option.some.injEq] at hk
    exact ⟨b, hb, hk ▸ hk'⟩

theorem readable_toJson (hcount : ∀ b ∈ l.buffers, b.count < UInt64.size)
    (hoffset : ∀ f ∈ l.fields, ∀ k, f.offset? = some k → k < UInt64.size) :
    l.toJson.Readable (n + 3) := by
  refine .object fun m hm => ?_
  fin_cases hm
  · refine .array fun v hv => ?_
    obtain ⟨b, hb, rfl⟩ := List.mem_map.mp hv
    exact readable_buffer (hcount b hb)
  · refine .array fun v hv => ?_
    obtain ⟨f, hf, rfl⟩ := List.mem_map.mp hv
    exact readable_field (hoffset f hf)

theorem Reachable.readable (h : Reachable g l)
    (hcount : ∀ b ∈ l.buffers, b.count < UInt64.size) : l.toJson.Readable (n + 3) := by
  apply readable_toJson hcount
  intro f hf k hk
  obtain ⟨b, hb, hlt⟩ := h.exists_count_gt hf hk
  exact Nat.lt_trans hlt (hcount b hb)

/-- The JSON form loses nothing. Whatever the palette, it is read back as an object of the buffers
and the fields with all they have, as long as the counts are of 64 bits; and every field has an
owner that is known, of which the name is given, or none for universal data. -/
theorem Reachable.read_render (h : Reachable g l)
    (hcount : ∀ b ∈ l.buffers, b.count < UInt64.size) (p : Palette) :
    Value.read (Command.render l .json p).toList = .ok (.object [
        ("buffers", .array (l.buffers.map fun b => .object [
          ("name", .text b.name),
          ("type", .text b.element.targetName),
          ("primitive", .text b.element.primitive),
          ("count", .natural b.count)])),
        ("fields", .array (l.fields.map fun f => .object [
          ("owner", .ofOption ((l.ownerNameOf f).map .text)),
          ("property", .text f.property),
          ("type", .text f.type.targetName),
          ("ident", .text f.ident),
          ("read", .text f.readExpr),
          ("buffer", .ofOption (f.buffer?.map .text)),
          ("offset", .ofOption (f.offset?.map .natural))]))]) ∧
      (∀ p', Command.render l .json p' = Command.render l .json p) ∧
      ∀ f ∈ l.fields, l.grammar.ownerName f.owner = .ok (l.ownerNameOf f) := by
  refine ⟨?_, fun _ => rfl, fun f hf => h.ownerName_eq hf⟩
  have hlines : (Command.render l .json p).toList = [] ++ (l.toJson.write 0 ++ ['\n']) := by
    rw [Command.render, String.toList_append, Value.pretty, String.toList_ofList]
    rfl
  rw [hlines]
  exact (h.readable hcount).read_write blanks_nil (blanks_singleton rfl)

def awkward : Grammar where
  interfaces := [{ name := "\"Node\"" }]
  classes := [⟨"a\\b\n", ⟨0⟩, .empty, .empty, .empty⟩]

def awkwardLayout : Layout :=
  ((empty awkward).after (.ofClass ⟨0⟩) "x\x01\"y" (some .int)).after (.ofInterface ⟨0⟩) "\t"
    (some .vertexColorPtr)

/-- Characters that have to be escaped come back. -/
theorem awkward_names_read_back : Reachable awkward awkwardLayout ∧
    (∀ b ∈ awkwardLayout.buffers, b.count < UInt64.size) ∧
    Value.read (Command.render awkwardLayout .json .on).toList = .ok (.object [
      ("buffers", .array [.object [
        ("name", .text "int_buffer_1"),
        ("type", .text "int"),
        ("primitive", .text "int"),
        ("count", .natural 1)]]),
      ("fields", .array [
        .object [
          ("owner", .text "a\\b\n"),
          ("property", .text "x\x01\"y"),
          ("type", .text "int"),
          ("ident", .text "fld_a\\b\n_x\x01\"y"),
          ("read", .text "fld_a\\b\n_x\x01\"y"),
          ("buffer", .text "int_buffer_1"),
          ("offset", .natural 0)],
        .object [
          ("owner", .text "\"Node\""),
          ("property", .text "\t"),
          ("type", .text "__global VertexAndColor*"),
          ("ident", .text "\t"),
          ("read", .text "\t"),
          ("buffer", .null),
          ("offset", .null)]])]) := by
  have h : Reachable awkward awkwardLayout :=
    (Reachable.empty.request (.ofClass ⟨0⟩) "x\x01\"y" (some .int)).request (.ofInterface ⟨0⟩) "\t"
      (some .vertexColorPtr)
  have hcount : ∀ b ∈ awkwardLayout.buffers, b.count < UInt64.size := by decide +kernel
  have hbuffers : awkwardLayout.buffers = [⟨.int, 1⟩] := by decide +kernel
  have hfields : awkwardLayout.fields = [
      ⟨⟨.ofClass ⟨0⟩, "x\x01\"y", .int, "fld_a\\b\n_x\x01\"y"⟩, some ⟨"int_buffer_1", 0⟩⟩,
      ⟨⟨.ofInterface ⟨0⟩, "\t", .vertexColorPtr, "\t"⟩, none⟩] := by decide +kernel
  refine ⟨h, hcount, ?_⟩
  rw [(h.read_render hcount .on).1, hbuffers, hfields]
  rfl

end GrammarLayout.Layout
