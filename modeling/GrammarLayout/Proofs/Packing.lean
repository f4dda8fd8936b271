import GrammarLayout.Proofs.Request
import Mathlib.Data.Set.Function

/-!
# Packing

The fields of one storage type are packed into one buffer without gaps, in the order in which they
were added. The statement about a whole layout follows from one about buffers and fields that
placing a draft keeps: the slots of the fields of a type are the places of its buffer, in order.
-/

namespace GrammarLayout

theorem Naming.bufferName_eq (t : StorageType) :
    Naming.bufferName t =
      match t with
      | .int => "int_buffer_1"
      | .float => "float_buffer_1"
      | .double => "double_buffer_1"
      | .grammarTokens => "grammartokens_buffer_1"
      | .nodeIndex => "nodeindex_buffer_1"
      | .vertexColorPtr => "__globalvertexandcolor_buffer_1" := by
  cases t <;> decide +kernel

theorem Naming.bufferName_inj {s t : StorageType} :
    Naming.bufferName s = Naming.bufferName t ↔ s = t := by
  cases s <;> cases t <;> simp [Naming.bufferName_eq]

/-- Since no two types share a name, a buffer is told by its name as well as by its type. -/
theorem Buffer.name_eq_iff {b : Buffer} {t : StorageType} :
    b.name = Naming.bufferName t ↔ b.element = t :=
  Naming.bufferName_inj

theorem StorageType.isExempt_eq_true {t : StorageType} :
    t.isExempt = true ↔ t = .vertexColorPtr := by
  simp [StorageType.isExempt]

theorem StorageType.isExempt_eq_false {t : StorageType} :
    t.isExempt = false ↔ t ≠ .vertexColorPtr := by
  simp [StorageType.isExempt]

theorem getElem?_filter_countP {α : Type} {p : α → Bool} {xs : List α} {i : Nat} {x : α}
    (hi : xs[i]? = some x) (hx : p x) :
    (xs.filter p)[(xs.take i).countP p]? = some x := by
  obtain ⟨hlt, rfl⟩ := List.getElem?_eq_some_iff.mp hi
  have hsplit : xs.filter p = (xs.take i).filter p ++ xs[i] :: (xs.drop (i + 1)).filter p := by
    rw [← List.filter_cons_of_pos hx, ← List.filter_append, List.getElem_cons_drop,
      List.take_append_drop]
  rw [hsplit, List.countP_eq_length_filter, List.getElem?_append_right (Nat.le_refl _),
    Nat.sub_self]
  rfl

namespace Buffers

variable {bs : Buffers} {t : StorageType}

/-- The number of fields in the buffer of a type; zero as long as there is none. -/
def countOf (type : StorageType) : Buffers → Nat
  | [] => 0
  | b :: bs => if b.element = type then b.count else countOf type bs

theorem reserve_fst (bs : Buffers) (t : StorageType) : (bs.reserve t).1 = countOf t bs := by
  induction bs with
  | nil => rfl
  | cons b bs ih => by_cases h : b.element = t <;> simp [reserve, Buffer.name_eq_iff, countOf, h, ih]

theorem countOf_reserve (bs : Buffers) (t s : StorageType) :
    countOf s (bs.reserve t).2 = if s = t then countOf t bs + 1 else countOf s bs := by
  induction bs with
  | nil => simp [reserve, countOf, eq_comm]
  | cons b bs ih =>
    by_cases h : b.element = t
    · subst h
      simp only [reserve, Buffer.name_eq_iff, countOf, if_true, eq_comm (a := s)]
      split <;> rfl
    · by_cases hs : b.element = s
      · subst hs
        simp [reserve, Buffer.name_eq_iff, countOf, h]
      · simp [reserve, Buffer.name_eq_iff, countOf, h, hs, ih]

theorem elements_reserve (bs : Buffers) (t : StorageType) :
    (bs.reserve t).2.map Buffer.element =
      if t ∈ bs.map Buffer.element then bs.map Buffer.element
      else bs.map Buffer.element ++ [t] := by
  induction bs with
  | nil => simp [reserve]
  | cons b bs ih =>
    by_cases h : b.element = t
    · simp [reserve, Buffer.name_eq_iff, h]
    · have h' : t ≠ b.element := Ne.symm h
      simp only [reserve, Buffer.name_eq_iff, if_neg h, List.map_cons, ih, List.mem_cons, h',
        false_or]
      split <;> simp

theorem count_pos_reserve (h : ∀ b ∈ bs, 0 < b.count) (t : StorageType) :
    ∀ b ∈ (bs.reserve t).2, 0 < b.count := by
  induction bs with
  | nil => simp [reserve]
  | cons b bs ih =>
    have hb := h b (by simp)
    have ht := ih fun c hc => h c (by simp [hc])
    by_cases he : b.element = t
    · simp only [reserve, Buffer.name_eq_iff, if_pos he, List.mem_cons, forall_eq_or_imp]
      exact ⟨Nat.succ_pos _, fun c hc => h c (by simp [hc])⟩
    · simp only [reserve, Buffer.name_eq_iff, if_neg he, List.mem_cons, forall_eq_or_imp]
      exact ⟨hb, ht⟩

theorem exists_mem_of_countOf_pos (h : 0 < countOf t bs) :
    ∃ b ∈ bs, b.element = t ∧ b.count = countOf t bs := by
  induction bs with
  | nil => simp [countOf] at h
  | cons b bs ih =>
    by_cases hb : b.element = t
    · exact ⟨b, by simp, hb, by simp [countOf, hb]⟩
    · simp only [countOf, if_neg hb] at h ⊢
      obtain ⟨c, hc, he, hn⟩ := ih h
      exact ⟨c, List.mem_cons_of_mem _ hc, he, hn⟩

theorem countOf_element (hn : (bs.map Buffer.element).Nodup) {b : Buffer} (hb : b ∈ bs) :
    countOf b.element bs = b.count := by
  induction bs with
  | nil => simp at hb
  | cons c bs ih =>
    rw [List.map_cons, List.nodup_cons] at hn
    rcases List.mem_cons.mp hb with rfl | hb
    · simp [countOf]
    · have hc : c.element ≠ b.element := fun e => hn.1 (e ▸ List.mem_map_of_mem hb)
      simp [countOf, hc, ih hn.2 hb]

/-- The buffers hold the fields without gaps: the slots of the fields of a type are the places of
its buffer, in order. -/
structure Holds (bs : Buffers) (fs : List Field) : Prop where
  elements_nodup : (bs.map Buffer.element).Nodup
  element_placed : ∀ b ∈ bs, b.element.isExempt = false
  count_pos : ∀ b ∈ bs, 0 < b.count
  slots : ∀ t : StorageType, t.isExempt = false →
    (fs.filter fun f => f.type = t).map Field.slot =
      (List.range (countOf t bs)).map fun k => some ⟨Naming.bufferName t, k⟩
  slot_exempt : ∀ f ∈ fs, f.type.isExempt = true → f.slot = none

theorem holds_nil : Holds [] [] := by
  constructor <;> simp [countOf]

/-- Placing one more draft keeps the packing. -/
theorem Holds.place {fs : List Field} (h : Holds bs fs) (d : Draft) :
    Holds (bs.place d).2 (fs ++ [(bs.place d).1]) := by
  cases hd : d.type.isExempt with
  | true =>
    -- An exempt field is in no buffer, and so in none of the lists of slots.
    have hp : bs.place d = (⟨d, none⟩, bs) := by simp [Buffers.place, hd]
    rw [hp]
    refine ⟨h.elements_nodup, h.element_placed, h.count_pos, ?_, ?_⟩
    · intro t ht
      have hne : d.type ≠ t := by
        rintro rfl
        simp [hd] at ht
      simpa [List.filter_append, hne] using h.slots t ht
    · intro f hf he
      rcases List.mem_append.mp hf with hf | hf
      · exact h.slot_exempt f hf he
      · rw [List.mem_singleton.mp hf]
  | false =>
    have hp : bs.place d =
        (⟨d, some ⟨Naming.bufferName d.type, countOf d.type bs⟩⟩, (bs.reserve d.type).2) := by
      simp [Buffers.place, hd, reserve_fst]
    rw [hp]
    refine ⟨?_, ?_, count_pos_reserve h.count_pos d.type, ?_, ?_⟩
    · rw [elements_reserve]
      split
      · exact h.elements_nodup
      · next hm => exact List.nodup_append.mpr ⟨h.elements_nodup, by simp, by
          intro a ha b hb e
          rw [List.mem_singleton] at hb
          exact hm (hb ▸ e ▸ ha)⟩
    · intro b hb
      have hm : b.element ∈ (bs.reserve d.type).2.map Buffer.element := List.mem_map_of_mem hb
      rw [elements_reserve] at hm
      have hcases : b.element ∈ bs.map Buffer.element ∨ b.element = d.type := by
        split at hm
        · exact .inl hm
        · simpa using hm
      rcases hcases with hm | he
      · obtain ⟨c, hc, he⟩ := List.mem_map.mp hm
        exact he ▸ h.element_placed c hc
      · rw [he, hd]
    · intro t ht
      rw [List.filter_append, List.map_append, h.slots t ht, countOf_reserve]
      by_cases he : t = d.type
      · subst he
        simp [List.range_succ]
      · simp [he, Ne.symm he]
    · intro f hf he
      rcases List.mem_append.mp hf with hf | hf
      · exact h.slot_exempt f hf he
      · rw [List.mem_singleton.mp hf] at he
        simp [hd] at he

/-- The slot of the next field of a type after some fields. -/
def slotAfter (fs : List Field) (type : StorageType) : Option Slot :=
  if type.isExempt then none
  else some ⟨Naming.bufferName type, fs.countP fun f => f.type = type⟩

namespace Holds

variable {fs : List Field} {f : Field}

theorem slot_eq_some (h : Holds bs fs) (hf : f ∈ fs) (he : f.type.isExempt = false) :
    ∃ k < countOf f.type bs, f.slot = some ⟨Naming.bufferName f.type, k⟩ := by
  have hm : f.slot ∈ (fs.filter fun f' => f'.type = f.type).map Field.slot :=
    List.mem_map_of_mem (List.mem_filter.mpr ⟨hf, by simp⟩)
  rw [h.slots f.type he] at hm
  obtain ⟨k, hk, hs⟩ := List.mem_map.mp hm
  exact ⟨k, List.mem_range.mp hk, hs.symm⟩

theorem countOf_eq (h : Holds bs fs) (he : t.isExempt = false) :
    fs.countP (fun f => f.type = t) = countOf t bs := by
  have hlength := congrArg List.length (h.slots t he)
  rwa [List.length_map, List.length_map, List.length_range, ← List.countP_eq_length_filter]
    at hlength

theorem countOf_le (h : Holds bs fs) (he : t.isExempt = false) : countOf t bs ≤ fs.length :=
  h.countOf_eq he ▸ List.countP_le_length

theorem slot_eq (h : Holds bs fs) {i : Nat} (hi : fs[i]? = some f) :
    f.slot = slotAfter (fs.take i) f.type := by
  unfold slotAfter
  split
  · next he => exact h.slot_exempt f (List.mem_of_getElem? hi) he
  · next he =>
    have hget := congrArg (Option.map Field.slot)
      (getElem?_filter_countP (p := fun f' => f'.type = f.type) hi (by simp))
    rw [← List.getElem?_map, h.slots f.type (by simpa using he), List.getElem?_map,
      Option.map_some, Option.map_eq_some_iff] at hget
    obtain ⟨k, hk, hs⟩ := hget
    obtain ⟨_, hk⟩ := List.getElem?_eq_some_iff.mp hk
    rw [← hs, ← hk, List.getElem_range]

theorem slot_eq_none_iff (h : Holds bs fs) (hf : f ∈ fs) :
    f.slot = none ↔ f.type.isExempt = true := by
  refine ⟨fun hs => ?_, h.slot_exempt f hf⟩
  by_contra he
  obtain ⟨k, _, hk⟩ := h.slot_eq_some hf (by simpa using he)
  simp [hk] at hs

theorem buffer?_eq (h : Holds bs fs) (hf : f ∈ fs) :
    f.buffer? = if f.type.isExempt then none else some (Naming.bufferName f.type) := by
  cases he : f.type.isExempt with
  | true => simp [Field.buffer?, h.slot_exempt f hf he]
  | false =>
    obtain ⟨k, _, hs⟩ := h.slot_eq_some hf he
    simp [Field.buffer?, hs]

theorem exists_field (h : Holds bs fs) {b : Buffer} (hb : b ∈ bs) {k : Nat} (hk : k < b.count) :
    ∃ f ∈ fs, f.type = b.element ∧ f.slot = some ⟨b.name, k⟩ := by
  have he := h.element_placed b hb
  have hm : some (⟨b.name, k⟩ : Slot) ∈
      (fs.filter fun f => f.type = b.element).map Field.slot := by
    rw [h.slots _ he, countOf_element h.elements_nodup hb]
    exact List.mem_map.mpr ⟨k, List.mem_range.mpr hk, rfl⟩
  obtain ⟨f, hf, hs⟩ := List.mem_map.mp hm
  obtain ⟨hf, ht⟩ := List.mem_filter.mp hf
  exact ⟨f, hf, by simpa using ht, hs⟩

theorem exists_buffer (h : Holds bs fs) (hf : f ∈ fs) (he : f.type.isExempt = false) :
    ∃ b ∈ bs, b.element = f.type ∧
      ∃ k < b.count, f.slot = some ⟨b.name, k⟩ := by
  obtain ⟨k, hk, hs⟩ := h.slot_eq_some hf he
  obtain ⟨b, hb, hbe, hbc⟩ := exists_mem_of_countOf_pos (Nat.zero_lt_of_lt hk)
  exact ⟨b, hb, hbe, k, hbc ▸ hk, by rw [hs, Buffer.name, hbe]⟩

theorem slots_pairwise (h : Holds bs fs) :
    fs.Pairwise fun f f' => f.type.isExempt = false → f.slot ≠ f'.slot := by
  rw [List.pairwise_iff_getElem]
  intro i j hi hj hij he hs
  obtain ⟨k, hk, hsi⟩ := h.slot_eq_some (List.getElem_mem hi) he
  have he' : fs[j].type.isExempt = false := by
    have hn := (h.slot_eq_none_iff (List.getElem_mem hj)).not
    rw [← hs, hsi] at hn
    simpa using hn
  obtain ⟨k', _, hsj⟩ := h.slot_eq_some (List.getElem_mem hj) he'
  have ht : fs[i].type = fs[j].type := by
    rw [hsi, hsj, Option.some.injEq, Slot.mk.injEq] at hs
    exact Naming.bufferName_inj.mp hs.1
  have hnodup : ((fs.filter fun f => f.type = fs[i].type).map Field.slot).Nodup := by
    rw [h.slots _ he]
    exact List.nodup_range.map fun a b e => by simpa using e
  rw [List.Nodup, List.pairwise_map, List.pairwise_filter, List.pairwise_iff_getElem] at hnodup
  exact hnodup i j hi hj hij (by simp) (by simp [ht]) hs

theorem filter_buffer (h : Holds bs fs) (he : t.isExempt = false) :
    (fs.filter fun f => f.buffer? = some (Naming.bufferName t)) =
      fs.filter fun f => f.type = t := by
  apply List.filter_congr
  intro f hf
  rw [decide_eq_decide, h.buffer?_eq hf]
  cases hfe : f.type.isExempt with
  | true =>
    have hne : f.type ≠ t := by
      rintro rfl
      simp [hfe] at he
    simp [hne]
  | false => simp [Naming.bufferName_inj]

theorem find?_eq_some (h : Holds bs fs) {b : Buffer} (hb : b ∈ bs) : bs.find? b.name = some b := by
  have hn : bs.Pairwise fun c c' => c.element ≠ c'.element := List.pairwise_map.mp h.elements_nodup
  obtain ⟨front, back, rfl⟩ := List.append_of_mem hb
  have hf : ∀ c ∈ front, c.name ≠ b.name := by
    intro c hc he
    exact (List.pairwise_append.mp hn).2.2 c hc b (by simp) (Naming.bufferName_inj.mp he)
  refine List.find?_eq_some_iff_append.mpr ⟨by simp, front, back, rfl, ?_⟩
  intro c hc
  simpa using hf c hc

theorem mem_iff (h : Holds bs fs) {b : Buffer} :
    b ∈ bs ↔ b.element.isExempt = false ∧ 0 < b.count ∧
      fs.countP (fun f => f.type = b.element) = b.count := by
  constructor
  · intro hb
    have he := h.element_placed b hb
    exact ⟨he, h.count_pos b hb, by rw [h.countOf_eq he, countOf_element h.elements_nodup hb]⟩
  · rintro ⟨he, hpos, hb⟩
    rw [h.countOf_eq he] at hb
    obtain ⟨b', hb', he', hc'⟩ := exists_mem_of_countOf_pos (hb ▸ hpos)
    have heq : b' = b := by
      cases b
      cases b'
      simp_all
    exact heq ▸ hb'

end Holds

theorem mem_of_find? {n : String} {b : Buffer} (h : bs.find? n = some b) :
    b ∈ bs ∧ b.name = n :=
  ⟨List.mem_of_find?_eq_some h, by simpa using List.find?_some h⟩

end Buffers

namespace Layout

variable {l : Layout}

def slotAt (l : Layout) (i : Nat) : Option Slot := (l.fields[i]?).bind Field.slot

def placedPositions (l : Layout) : Set Nat :=
  {i | ∃ f, l.fields[i]? = some f ∧ f.type ≠ .vertexColorPtr}

def places (l : Layout) : Set Slot :=
  {place | ∃ b ∈ l.buffers, place.buffer = b.name ∧ place.offset < b.count}

/-- Every field that is not exempt has its own place in the buffer of its type, and every place of
every buffer is the one of such a field. -/
structure Packed (l : Layout) : Prop where
  bijOn_slot : Set.BijOn l.slotAt l.placedPositions (some '' l.places)
  /-- Offsets in a buffer count its fields in the order of their creation. -/
  offsets : ∀ n b, l.buffers.find? n = some b →
    (l.fieldsIn n).map Field.offset? = (List.range b.count).map some
  fieldsIn_unknown : ∀ n, l.buffers.find? n = none → l.fieldsIn n = []
  shared_iff : ∀ f ∈ l.fields, ∀ f' ∈ l.fields, f.buffer?.isSome → f'.buffer?.isSome →
    (f.buffer? = f'.buffer? ↔ f.type = f'.type)
  element : ∀ f ∈ l.fields, ∀ n, f.buffer? = some n →
    ∃ b, l.buffers.find? n = some b ∧ b.element = f.type
  nonempty : ∀ b ∈ l.buffers, 0 < b.count
  buffer_none_iff : ∀ f ∈ l.fields, f.buffer? = none ↔ f.type = .vertexColorPtr
  offset_none_iff : ∀ f ∈ l.fields, f.offset? = none ↔ f.type = .vertexColorPtr

section Holds

variable (h : l.buffers.Holds l.fields)
include h

theorem slotAt_mapsTo : Set.MapsTo l.slotAt l.placedPositions (some '' l.places) := by
  rintro i ⟨f, hi, hf⟩
  have he := StorageType.isExempt_eq_false.mpr hf
  obtain ⟨b, hb, _, k, hk, hs⟩ := h.exists_buffer (List.mem_of_getElem? hi) he
  exact ⟨⟨b.name, k⟩, ⟨b, hb, rfl, hk⟩, by simp [slotAt, hi, hs]⟩

theorem slotAt_injOn : Set.InjOn l.slotAt l.placedPositions := by
  rintro i ⟨f, hi, hf⟩ j ⟨f', hj, hf'⟩ he
  rw [slotAt, slotAt, hi, hj, Option.bind_some, Option.bind_some] at he
  obtain ⟨hil, rfl⟩ := List.getElem?_eq_some_iff.mp hi
  obtain ⟨hjl, rfl⟩ := List.getElem?_eq_some_iff.mp hj
  have hp := List.pairwise_iff_getElem.mp h.slots_pairwise
  rcases Nat.lt_trichotomy i j with hij | hij | hij
  · exact absurd he (hp i j hil hjl hij (StorageType.isExempt_eq_false.mpr hf))
  · exact hij
  · exact absurd he.symm (hp j i hjl hil hij (StorageType.isExempt_eq_false.mpr hf'))

theorem slotAt_surjOn : Set.SurjOn l.slotAt l.placedPositions (some '' l.places) := by
  rintro _ ⟨⟨_, k⟩, ⟨b, hb, rfl, hk⟩, rfl⟩
  obtain ⟨f, hf, ht, hs⟩ := h.exists_field hb hk
  obtain ⟨i, hi⟩ := List.getElem?_of_mem hf
  have he : f.type ≠ .vertexColorPtr :=
    StorageType.isExempt_eq_false.mp (ht ▸ h.element_placed b hb)
  exact ⟨i, ⟨f, hi, he⟩, by simp [slotAt, hi, hs]⟩

theorem offsets_fieldsIn {n : String} {b : Buffer} (hb : l.buffers.find? n = some b) :
    (l.fieldsIn n).map Field.offset? = (List.range b.count).map some := by
  obtain ⟨hm, rfl⟩ := Buffers.mem_of_find? hb
  have he := h.element_placed b hm
  have hs := congrArg (List.map fun slot => slot.map Slot.offset) (h.slots _ he)
  rw [List.map_map, List.map_map, Buffers.countOf_element h.elements_nodup hm] at hs
  rw [fieldsIn, Buffer.name, h.filter_buffer he]
  exact hs

theorem find?_of_buffer {f : Field} (hf : f ∈ l.fields) {n : String} (hn : f.buffer? = some n) :
    ∃ b, l.buffers.find? n = some b ∧ b.element = f.type := by
  have he : f.type.isExempt = false := by
    by_contra he
    simp [h.buffer?_eq hf, he] at hn
  obtain ⟨b, hb, ht, k, _, hk⟩ := h.exists_buffer hf he
  have hname : b.name = n := by simpa [Field.buffer?, hk] using hn
  exact ⟨b, hname ▸ h.find?_eq_some hb, ht⟩

theorem fieldsIn_eq_nil {n : String} (hn : l.buffers.find? n = none) : l.fieldsIn n = [] := by
  rw [fieldsIn, List.filter_eq_nil_iff]
  intro f hf hb
  obtain ⟨b, hfind, _⟩ := find?_of_buffer h hf (by simpa using hb)
  rw [hn] at hfind
  cases hfind

end Holds

theorem Reachable.holds {g : Grammar} (h : Reachable g l) : l.buffers.Holds l.fields := by
  refine h.invariant (P := fun l => l.buffers.Holds l.fields) Buffers.holds_nil ?_
  intro l owner property given hl
  rcases after_cases l owner property given with ha | ⟨type, name, ha⟩
  · rw [ha]
    exact hl
  · rw [ha]
    exact hl.place _

/-- What the buffers hold without gaps is packed. -/
theorem packed_of_holds (h : l.buffers.Holds l.fields) : l.Packed where
  bijOn_slot := ⟨slotAt_mapsTo h, slotAt_injOn h, slotAt_surjOn h⟩
  offsets _ _ hb := offsets_fieldsIn h hb
  fieldsIn_unknown _ hn := fieldsIn_eq_nil h hn
  shared_iff f hf f' hf' hb hb' := by
    rw [h.buffer?_eq hf] at hb ⊢
    rw [h.buffer?_eq hf'] at hb' ⊢
    split at hb
    · cases hb
    · split at hb'
      · cases hb'
      · simp [Naming.bufferName_inj, *]
  element _ hf _ hn := find?_of_buffer h hf hn
  nonempty := h.count_pos
  buffer_none_iff f hf := by
    rw [← StorageType.isExempt_eq_true, ← h.slot_eq_none_iff hf, Field.buffer?,
      Option.map_eq_none_iff]
  offset_none_iff f hf := by
    rw [← StorageType.isExempt_eq_true, ← h.slot_eq_none_iff hf, Field.offset?,
      Option.map_eq_none_iff]

end Layout
end GrammarLayout
