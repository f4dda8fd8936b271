import GrammarLayout.Proofs.Registry.Handles

/-!
# Listings of registries

What a finished registry is dumped to has its columns in line. It is dumped unless an identifier is
too long to be padded, and then the formatter stops.
-/

namespace GrammarLayout.Registry

variable {overflow : Overflow} {g : Grammar} {r : Registry}

/-- The text of a layout has two sections with an empty line between them, one for the buffers as
they were opened and one for the fields as they are declared. In both the columns line up. -/
def LinedUp (l : Layout) (text : String) : Prop :=
  ∃ buffers fields : List Char, text = String.ofList (buffers ++ '\n' :: fields) ∧
    Listing.LinesUp "buffers" l.buffers (fun b => [b.name, b.element.targetName,
      toString b.count ++ " x " ++ b.element.primitive]) buffers ∧
    Listing.LinesUp "fields" l.sortedFields (fun f => [f.ident, f.type.targetName,
      Listing.location f, (l.ownerNameOf f).getD "*" ++ "." ++ f.property]) fields

/-- A dump without colours is a text with its columns in line, unless an identifier is too long. -/
theorem columns_line_up (h : Reachable overflow g r) :
    (r.finish.TooWide ∧ r.finish.dump .off = .error .width) ∨
      (¬ r.finish.TooWide ∧ ∃ text, r.finish.dump .off = .ok text ∧ LinedUp r.finish text) := by
  rw [h.dump_eq]
  by_cases hw : r.finish.TooWide
  · exact .inl ⟨hw, if_pos hw⟩
  · exact .inr ⟨hw, _, if_neg hw, Listing.linesUp_listing r.finish⟩

def accented : List Question := [
  ⟨.universal, "größe", some .float⟩,
  ⟨.universal, "x", some .float⟩,
  ⟨.universal, "メッシュ", some .vertexColorPtr⟩]

theorem accented_line_up :
    ∃ r, Reachable .wraps .empty r ∧ r.finish.fields.map (fun f => f.ident) =
        ["größe", "x", "メッシュ"] ∧
      ∃ text, r.finish.dump .off = .ok text ∧ LinedUp r.finish text := by
  have hreachable : Reachable .wraps .empty ((empty .empty).afterAll .wraps accented) :=
    Reachable.empty.afterAll accented
  refine ⟨_, hreachable, by decide +kernel, ?_⟩
  have hnarrow : ¬ ((empty .empty).afterAll .wraps accented).finish.TooWide := by decide +kernel
  obtain hwide | hdump := columns_line_up hreachable
  · exact absurd hwide.1 hnarrow
  · exact hdump.2

/-- Not every registry that is finished has a listing. -/
theorem not_all_listed : ¬ ∀ g r, Reachable .wraps g r →
    ∃ text, r.finish.dump .off = .ok text ∧ LinedUp r.finish text := by
  intro hall
  have hreachable : Reachable .wraps .empty (bare overlong) := Reachable.empty.request _ _ _
  obtain ⟨text, htext, _⟩ := hall _ _ hreachable
  rw [hreachable.dump_eq, if_pos (tooWide_bare widthLimit_lt_overlong)] at htext
  cases htext

end GrammarLayout.Registry
