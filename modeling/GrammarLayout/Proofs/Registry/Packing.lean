import GrammarLayout.Proofs.Registry.Finish

/-!
# Packed registries

Whatever requests have been made of a registry, its fields lie in its buffers without gaps. Where
the length of a full buffer starts again from zero this takes fewer fields than there are words;
where the program stops at a full buffer it always holds.
-/

namespace GrammarLayout.Registry

variable {overflow : Overflow} {g : Grammar} {r : Registry}

/-- The registry is packed when it is finished, and its buffers go by the names that it gives
them. -/
structure Packed (r : Registry) : Prop where
  finish : r.finish.Packed
  find?_finish : ∀ n, r.finish.buffers.find? n = (r.buffers.get? n).map Buffer.numbered
  names : ∀ e ∈ r.buffers.entries, e.2.name = e.1 ∧ e.2.numbered.name = e.1

theorem find?_numbered {es : List (String × Buffer)}
    (h : ∀ e ∈ es, e.1 = Naming.bufferName e.2.element) (n : String) :
    GrammarLayout.Buffers.find? (es.map fun e => e.2.numbered) n =
      (OrderedMap.lookup n es).map Buffer.numbered := by
  induction es with
  | nil => rfl
  | cons e es ih =>
    obtain ⟨name, b⟩ := e
    have hname : name = b.numbered.name := h _ List.mem_cons_self
    have hrest := ih fun e he => h e (List.mem_cons_of_mem _ he)
    by_cases hk : name = n
    · simp [GrammarLayout.Buffers.find?, OrderedMap.lookup, ← hname, hk]
    · rw [OrderedMap.lookup, if_neg hk, ← hrest]
      simp [GrammarLayout.Buffers.find?, ← hname, hk]

theorem Buffers.Named.find?_numbered {bs : Buffers} (h : bs.Named) (n : String) :
    bs.numbered.find? n = (bs.get? n).map Buffer.numbered := by
  have hfind := Registry.find?_numbered (fun e he => (h e he).1) n
  unfold Buffers.numbered OrderedMap.values
  rw [List.map_map]
  exact hfind

/-- Registries are packed, whichever requests have led to them. -/
theorem packed_of_reachable (h : Reachable overflow g r)
    (hlt : overflow = .wraps → r.fields.length < 2 ^ 32) : r.Packed where
  finish := Layout.packed_of_holds (h.holds hlt)
  find?_finish := h.named.find?_numbered
  names e he := ⟨(h.named e he).2, (h.named e he).1.symm⟩

/-- Two fields of one type, with an exempt field and a request that fails between them. -/
def weighing : List Question := [
  ⟨.universal, "weight", some .float⟩,
  ⟨.universal, "mesh", some .vertexColorPtr⟩,
  ⟨.universal, "depth", none⟩,
  ⟨.universal, "height", some .float⟩]

theorem packed_after_failure :
    ∃ r, Reachable .wraps .empty r ∧ r.fields.length < 2 ^ 32 ∧
      r.fields.map (fun f => (f.property, f.slot.map Slot.offset)) =
        [("weight", some 0), ("mesh", none), ("height", some 1)] ∧ r.Packed := by
  have hreachable : Reachable .wraps .empty ((empty .empty).afterAll .wraps weighing) :=
    Reachable.empty.afterAll weighing
  have hlt : ((empty .empty).afterAll .wraps weighing).fields.length < 2 ^ 32 := by
    decide +kernel
  exact ⟨_, hreachable, hlt, by decide +kernel, packed_of_reachable hreachable fun _ => hlt⟩

end GrammarLayout.Registry
