import GrammarLayout.Layout.Registry
import GrammarLayout.Proofs.Packing

/-!
# Buffers that count in words

Placing a draft takes the next word of the buffer of its type. Unless that buffer is full, the words
read as numbers are what a layout counts.
-/

namespace GrammarLayout
namespace Registry

variable {overflow : Overflow}

theorem toNat_succ {b : Buffer} (h : b.isFull = false) :
    (b.length + 1).toNat = b.length.toNat + 1 := by
  have hlt := b.length.toNat_lt
  have hne : b.length.toNat + 1 ≠ UInt32.size := by simpa [Buffer.isFull] using h
  have hone : (1 : UInt32).toNat = 1 := rfl
  rw [UInt32.toNat_add, hone]
  exact Nat.mod_eq_of_lt (by simp only [UInt32.size] at hne; omega)

namespace Buffers

variable {bs bs' : Buffers} {d : Draft} {f : Field} {fs : List GrammarLayout.Field}

def bufferFor (bs : Buffers) (type : StorageType) : Buffer :=
  (bs.get? (Naming.bufferName type)).getD ⟨Naming.bufferName type, type, 0⟩

/-- The buffer of a type with one more place, among the others. -/
def widen (bs : Buffers) (type : StorageType) : Buffers :=
  bs.insert (Naming.bufferName type)
    { bs.bufferFor type with length := (bs.bufferFor type).length + 1 }

theorem openFor_fst (bs : Buffers) (type : StorageType) :
    (bs.openFor (Naming.bufferName type) type).1 = bs.bufferFor type := by
  unfold openFor bufferFor
  cases bs.get? (Naming.bufferName type) <;> rfl

theorem insert_openFor (bs : Buffers) (name : String) (type : StorageType) (b : Buffer) :
    (bs.openFor name type).2.insert name b = bs.insert name b := by
  unfold openFor
  cases bs.get? name with
  | none => exact OrderedMap.eq_of_entries_eq (OrderedMap.put_put name _ b bs.entries)
  | some _ => rfl

theorem openFor_snd (h : (bs.bufferFor d.type).isFull) :
    (bs.openFor (Naming.bufferName d.type) d.type).2 = bs := by
  unfold bufferFor at h
  unfold openFor
  cases hb : bs.get? (Naming.bufferName d.type) with
  | none =>
    rw [hb] at h
    cases h
  | some _ => rfl

/-- What comes of placing a draft. -/
inductive Placing (overflow : Overflow) (bs : Buffers) (d : Draft) :
    Except Failure Field × Buffers → Prop
  | exempt (he : d.type.isExempt = true) : Placing overflow bs d (.ok ⟨d, none⟩, bs)
  /-- A full buffer stops the program before anything has changed. -/
  | full (he : d.type.isExempt = false) (hstops : overflow = .stops)
      (hfull : (bs.bufferFor d.type).isFull) :
      Placing overflow bs d (.error .overflow, bs)
  | placed (he : d.type.isExempt = false)
      (hroom : overflow = .stops → (bs.bufferFor d.type).isFull = false) :
      Placing overflow bs d
        (.ok ⟨d, some ⟨(bs.bufferFor d.type).name, (bs.bufferFor d.type).length⟩⟩,
          bs.widen d.type)

theorem placing (overflow : Overflow) (bs : Buffers) (d : Draft) :
    Placing overflow bs d (bs.place overflow d) := by
  unfold place
  cases he : d.type.isExempt with
  | true => exact .exempt he
  | false =>
    by_cases hfull : overflow = .stops ∧ (bs.bufferFor d.type).isFull
    · have hpush : (bs.bufferFor d.type).push overflow = .error .overflow := by
        rw [Buffer.push, if_pos hfull]
      simp only [openFor_fst, hpush, openFor_snd hfull.2]
      exact .full he hfull.1 hfull.2
    · have hpush : (bs.bufferFor d.type).push overflow = .ok ((bs.bufferFor d.type).length,
          { bs.bufferFor d.type with length := (bs.bufferFor d.type).length + 1 }) := by
        rw [Buffer.push, if_neg hfull]
      simp only [openFor_fst, hpush, insert_openFor]
      exact .placed he fun hstops => by simpa [hstops] using hfull

/-- Every buffer is kept under its name, which is that for its type. -/
def Named (bs : Buffers) : Prop :=
  ∀ e ∈ bs.entries, e.1 = Naming.bufferName e.2.element ∧ e.2.name = e.1

theorem Named.bufferFor (h : bs.Named) (type : StorageType) :
    (bs.bufferFor type).name = Naming.bufferName type ∧ (bs.bufferFor type).element = type := by
  unfold Buffers.bufferFor
  cases hb : bs.get? (Naming.bufferName type) with
  | none => exact ⟨rfl, rfl⟩
  | some b =>
    obtain ⟨helement, hname⟩ := h _ (OrderedMap.mem_of_lookup hb)
    exact ⟨hname, (Naming.bufferName_inj.mp helement).symm⟩

theorem Named.widen (h : bs.Named) (type : StorageType) : (bs.widen type).Named := by
  intro e he
  rcases OrderedMap.mem_put he with rfl | he
  · obtain ⟨hname, helement⟩ := h.bufferFor type
    exact ⟨by rw [helement], hname⟩
  · exact h e he

theorem reserve_put {type : StorageType} {es : List (String × Buffer)}
    (h : ∀ e ∈ es, e.1 = Naming.bufferName e.2.element) {b : Buffer}
    (hb : (OrderedMap.lookup (Naming.bufferName type) es).getD ⟨Naming.bufferName type, type, 0⟩ = b)
    (hroom : b.isFull = false) :
    GrammarLayout.Buffers.reserve type (es.map fun e => e.2.numbered) =
      (b.length.toNat, (OrderedMap.put (Naming.bufferName type)
        { b with length := b.length + 1 } es).map fun e => e.2.numbered) := by
  induction es with
  | nil =>
    subst hb
    rfl
  | cons e es ih =>
    obtain ⟨name, c⟩ := e
    have hname : name = Naming.bufferName c.element := h _ List.mem_cons_self
    have hrest := ih fun e he => h e (List.mem_cons_of_mem _ he)
    by_cases hk : name = Naming.bufferName type
    · rw [OrderedMap.lookup, if_pos hk, Option.getD_some] at hb
      subst hb
      simp only [List.map_cons, GrammarLayout.Buffers.reserve, GrammarLayout.Buffer.name,
        Buffer.numbered, ← hname, if_pos hk, OrderedMap.put, toNat_succ hroom]
    · rw [OrderedMap.lookup, if_neg hk] at hb
      simp only [List.map_cons, GrammarLayout.Buffers.reserve, GrammarLayout.Buffer.name,
        OrderedMap.put, if_neg hk, hrest hb]
      rw [if_neg]
      rwa [Buffer.numbered, ← hname]

theorem Named.numbered_widen (h : bs.Named) {type : StorageType}
    (hroom : (bs.bufferFor type).isFull = false) :
    bs.numbered.reserve type =
      ((bs.bufferFor type).length.toNat, (bs.widen type).numbered) := by
  have hput := reserve_put (fun e he => (h e he).1) rfl hroom
  unfold Buffers.numbered OrderedMap.values
  rw [List.map_map, List.map_map]
  exact hput

theorem Placing.named {x : Except Failure Field} (h : Placing overflow bs d (x, bs'))
    (hn : bs.Named) : bs'.Named := by
  cases h with
  | exempt => exact hn
  | full => exact hn
  | placed => exact hn.widen d.type

/-- Read as numbers, a place in a buffer that is not full is the one that a layout takes. -/
theorem Placing.numbered (h : Placing overflow bs d (.ok f, bs')) (hn : bs.Named)
    (hroom : d.type.isExempt = false → (bs.bufferFor d.type).isFull = false) :
    bs.numbered.place d = (f.numbered, bs'.numbered) := by
  cases h with
  | exempt he => simp [GrammarLayout.Buffers.place, he, Field.numbered]
  | placed he _ =>
    simp [GrammarLayout.Buffers.place, he, hn.numbered_widen (hroom he), Field.numbered,
      Slot.numbered, (hn.bufferFor d.type).1]

theorem countOf_eq_lookup (type : StorageType) {es : List (String × Buffer)}
    (h : ∀ e ∈ es, e.1 = Naming.bufferName e.2.element) :
    GrammarLayout.Buffers.countOf type (es.map fun e => e.2.numbered) =
      ((OrderedMap.lookup (Naming.bufferName type) es).getD
        ⟨Naming.bufferName type, type, 0⟩).length.toNat := by
  induction es with
  | nil => rfl
  | cons e es ih =>
    obtain ⟨name, b⟩ := e
    have hname : name = Naming.bufferName b.element := h _ List.mem_cons_self
    have hrest := ih fun e he => h e (List.mem_cons_of_mem _ he)
    by_cases hb : b.element = type
    · simp [GrammarLayout.Buffers.countOf, OrderedMap.lookup, Buffer.numbered, hname, hb]
    · have hk : name ≠ Naming.bufferName type := by
        rw [hname, Ne, Naming.bufferName_inj]
        exact hb
      simp [GrammarLayout.Buffers.countOf, OrderedMap.lookup, hk, ← hrest, Buffer.numbered, hb]

theorem Named.toNat_length (h : bs.Named) (type : StorageType) :
    (bs.bufferFor type).length.toNat = GrammarLayout.Buffers.countOf type bs.numbered := by
  have hcount := countOf_eq_lookup type fun e he => (h e he).1
  unfold Buffers.numbered OrderedMap.values
  rw [List.map_map]
  exact hcount.symm

/-- A buffer that holds fewer fields than there are words is not full. -/
theorem Named.isFull_eq_false (h : bs.Named) (hh : bs.numbered.Holds fs) {type : StorageType}
    (ht : type.isExempt = false) (hlt : fs.length + 1 < 2 ^ 32) :
    (bs.bufferFor type).isFull = false := by
  have hle := hh.countOf_le ht
  rw [← h.toNat_length] at hle
  have hne : (bs.bufferFor type).length.toNat + 1 ≠ UInt32.size := by
    simp only [UInt32.size]
    omega
  simpa [Buffer.isFull] using hne

/-- A place that is counted rightly: the program stops at a full buffer, or there are too few fields
for one. -/
theorem Placing.isFull_eq_false (h : Placing overflow bs d (.ok f, bs')) (hn : bs.Named)
    (hh : bs.numbered.Holds fs) (hlt : overflow = .wraps → fs.length + 1 < 2 ^ 32)
    (he : d.type.isExempt = false) : (bs.bufferFor d.type).isFull = false := by
  cases overflow with
  | wraps => exact hn.isFull_eq_false hh he (hlt rfl)
  | stops =>
    cases h with
    | exempt he' => simp [he] at he'
    | placed _ hroom => exact hroom rfl

end Buffers
end Registry
end GrammarLayout
