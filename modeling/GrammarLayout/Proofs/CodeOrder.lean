import Mathlib.Data.String.Basic
import Mathlib.Tactic.SplitIfs

/-!
# Code points and bytes in order

Texts are ordered by their code points. The order of their bytes is the same one: what a smaller
code point is encoded as comes before what a greater one is encoded as, whatever follows.
-/

namespace GrammarLayout.Text

variable {s t : String}

def codePoints (s : String) : List Nat := s.toList.map Char.toNat

def bytes (s : String) : List UInt8 := s.toUTF8.data.toList

theorem bytes_eq (s : String) : bytes s = s.toList.flatMap String.utf8EncodeChar := by
  rw [bytes, String.toUTF8_eq_toByteArray, ← String.utf8Encode_toList, List.utf8Encode,
    List.toList_data_toByteArray]

section Ordered

variable {β : Type} [LT β] {encode : Char → List β} {c d : Char} {cs ds : List Char}

/-- The codes of two characters differ in the direction in which these differ, before either of
the codes ends. -/
structure Ordered (encode : Char → List β) : Prop where
  ne_nil : ∀ c, encode c ≠ []
  lt : ∀ {c d}, c < d → ∀ xs ys, encode c ++ xs < encode d ++ ys

namespace Ordered

theorem flatMap_lt (h : Ordered encode) (hlt : cs < ds) :
    cs.flatMap encode < ds.flatMap encode := by
  induction hlt with
  | @nil d ds =>
    obtain ⟨y, ys, hd⟩ := List.exists_cons_of_ne_nil (h.ne_nil d)
    rw [List.flatMap_nil, List.flatMap_cons, hd]
    exact List.nil_lt_cons y _
  | rel hcd =>
    rw [List.flatMap_cons, List.flatMap_cons]
    exact h.lt hcd _ _
  | cons _ ih =>
    rw [List.flatMap_cons, List.flatMap_cons]
    exact List.append_left_lt ih

variable [Std.Irrefl fun x y : β => x < y] [Std.Asymm fun x y : β => x < y]

theorem flatMap_lt_iff (h : Ordered encode) :
    cs.flatMap encode < ds.flatMap encode ↔ cs < ds := by
  refine ⟨fun hlt => ?_, h.flatMap_lt⟩
  by_contra hnot
  rcases List.le_iff_lt_or_eq.mp (List.not_lt.mp hnot) with hgt | rfl
  · exact List.lt_asymm hlt (h.flatMap_lt hgt)
  · exact List.lt_irrefl _ hlt

end Ordered

end Ordered

theorem ordered_codePoint : Ordered fun c => [c.toNat] where
  ne_nil := by simp
  lt h xs ys := by
    rw [List.singleton_append, List.singleton_append, List.cons_lt_cons_iff]
    exact .inl h

theorem codePoints_lt_iff : codePoints s < codePoints t ↔ s < t := by
  have h : s.toList.flatMap (fun c => [c.toNat]) < t.toList.flatMap (fun c => [c.toNat]) ↔
      s.toList < t.toList := ordered_codePoint.flatMap_lt_iff
  rw [← List.map_eq_flatMap, ← List.map_eq_flatMap] at h
  exact h.trans String.lt_iff_toList_lt.symm

theorem codePoints_le_iff : codePoints s ≤ codePoints t ↔ s ≤ t := by
  rw [← not_lt, codePoints_lt_iff, String.not_lt]

theorem eq_empty_of_le (h : s ≤ "") : s = "" := by
  by_contra hne
  obtain ⟨c, cs, hs⟩ := List.exists_cons_of_ne_nil (mt String.toList_eq_nil_iff.mp hne)
  apply String.not_lt.mpr h
  rw [String.lt_iff_toList_lt, hs]
  exact List.nil_lt_cons c cs

theorem byte_lt_byte {m n : Nat} (hm : m < 256) (hn : n < 256) :
    UInt8.ofNat m < UInt8.ofNat n ↔ m < n := by
  rw [UInt8.lt_iff_toNat_lt, UInt8.toNat_ofNat', UInt8.toNat_ofNat', Nat.mod_eq_of_lt hm,
    Nat.mod_eq_of_lt hn]

theorem byte_eq_byte {m n : Nat} (hm : m < 256) (hn : n < 256) :
    UInt8.ofNat m = UInt8.ofNat n ↔ m = n := by
  rw [← UInt8.toNat_inj, UInt8.toNat_ofNat', UInt8.toNat_ofNat', Nat.mod_eq_of_lt hm,
    Nat.mod_eq_of_lt hn]

theorem lt_by_sextets {m n : Nat} (h : m < n) :
    m / 262144 < n / 262144 ∨ m / 262144 = n / 262144 ∧
      (m / 4096 % 64 < n / 4096 % 64 ∨ m / 4096 % 64 = n / 4096 % 64 ∧
        (m / 64 % 64 < n / 64 % 64 ∨ m / 64 % 64 = n / 64 % 64 ∧ m % 64 < n % 64)) := by
  have h₁ : m / 64 ≤ n / 64 := by omega
  have h₂ : m / 4096 ≤ n / 4096 := by omega
  have h₃ : m / 262144 ≤ n / 262144 := by omega
  rcases Nat.lt_or_eq_of_le h₃ with h₃ | h₃
  · exact .inl h₃
  · rcases Nat.lt_or_eq_of_le h₂ with h₂ | h₂
    · omega
    · rcases Nat.lt_or_eq_of_le h₁ with h₁ | h₁ <;> omega

theorem toNat_lt_max (c : Char) : c.toNat < 0x110000 := by
  rcases c.valid with h | ⟨_, h⟩
  · exact Nat.lt_trans h (by decide)
  · exact h

/-- Longer codes have greater leading bytes, and codes of one length are compared group by group
of bits. -/
theorem ordered_utf8 : Ordered String.utf8EncodeChar where
  ne_nil c := by
    simp only [String.utf8EncodeChar]
    split_ifs <;> simp
  lt {c d} h xs ys := by
    have hlt : c.val.toNat < d.val.toNat := h
    have hmax : d.val.toNat < 0x110000 := toNat_lt_max d
    simp only [String.utf8EncodeChar]
    generalize c.val.toNat = m at hlt
    generalize d.val.toNat = n at hlt hmax
    have hbits := lt_by_sextets hlt
    have hm : m / 262144 % 8 = m / 262144 := Nat.mod_eq_of_lt (by omega)
    have hn : n / 262144 % 8 = n / 262144 := Nat.mod_eq_of_lt (by omega)
    split_ifs
    all_goals
      simp (disch := omega) only [List.cons_append, List.nil_append, List.cons_lt_cons_iff,
        byte_lt_byte, byte_eq_byte, hm, hn, Nat.add_lt_add_iff_right, Nat.add_right_cancel_iff]
      omega

theorem bytes_lt_iff : bytes s < bytes t ↔ s < t := by
  rw [bytes_eq, bytes_eq, ordered_utf8.flatMap_lt_iff, String.lt_iff_toList_lt]

/-- The order of bytes is that of code points. -/
theorem bytes_le_iff : bytes s ≤ bytes t ↔ s ≤ t := by
  rw [← List.not_lt, bytes_lt_iff, String.not_lt]

end GrammarLayout.Text
