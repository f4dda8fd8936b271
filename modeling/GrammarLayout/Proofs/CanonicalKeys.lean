import GrammarLayout.Proofs.References

/-!
# Keys are canonical

What lower case leads to is lower case already, so it makes no difference to take it again; and
where a separator is left in a key, the key begins in such a way that it stays. The key of a key is
therefore that key, and a property may be looked up by its name or by its key.
-/

namespace GrammarLayout

namespace Text

variable {c x : Char} {before cs : List Char} {r : CaseRun} {rs : List CaseRun}
  {i k m n : Nat}

/-- The code points of a run of `k` from `start` on, as the bits of a number. -/
def CaseRun.bitsFrom (r : CaseRun) (start : Nat) : Nat → Nat
  | 0 => 0
  | k + 1 => r.bitsFrom start k ||| 2 ^ (start + r.stride * k)

/-- All code points of some runs as the bits of one number, each run moved to its `start`. -/
def runBits (start : CaseRun → Nat) : List CaseRun → Nat
  | [] => 0
  | r :: rs => r.bitsFrom (start r) ((r.last - r.first) / r.stride + 1) ||| runBits start rs

theorem CaseRun.testBit_bitsFrom (r : CaseRun) (start : Nat) (h : i < k) :
    (r.bitsFrom start k).testBit (start + r.stride * i) = true := by
  induction k with
  | zero => exact absurd h (Nat.not_lt_zero i)
  | succ k ih =>
    rw [bitsFrom, Nat.testBit_or, Bool.or_eq_true]
    rcases Nat.lt_succ_iff_lt_or_eq.mp h with hlt | rfl
    · exact .inl (ih hlt)
    · exact .inr Nat.testBit_two_pow_self

theorem testBit_runBits (start : CaseRun → Nat) (hr : r ∈ rs) (hle : n ≤ r.last - r.first)
    (hstride : n % r.stride = 0) : (runBits start rs).testBit (start r + n) = true := by
  induction rs with
  | nil => cases hr
  | cons r' rs ih =>
    rw [runBits, Nat.testBit_or, Bool.or_eq_true]
    rcases List.mem_cons.mp hr with rfl | hmem
    · have hindex : n / r.stride < (r.last - r.first) / r.stride + 1 :=
        Nat.lt_succ_of_le (Nat.div_le_div_right hle)
      have hbit := r.testBit_bitsFrom (start r) hindex
      rw [Nat.mul_div_cancel' (Nat.dvd_of_mod_eq_zero hstride)] at hbit
      exact .inl hbit
    · exact .inr (ih hmem)

theorem caseRuns_apart :
    runBits CaseRun.target caseRuns &&& (runBits CaseRun.first caseRuns ||| 2 ^ 'İ'.toNat) = 0 := by
  decide +kernel

/-- The dot above stays and so do both of the small sigmas; the capital one goes to one of these. -/
theorem lowerChar_small : lowerChar '\u0307' = ['\u0307'] ∧ lowerChar 'ς' = ['ς'] ∧
    lowerChar 'σ' = ['σ'] ∧ lowerChar 'Σ' = ['σ'] := by
  decide +kernel

theorem lowerChar_of_image? (h : CaseRun.image? caseRuns n = some x.toNat) :
    lowerChar x = [x] := by
  obtain ⟨r, hr, hfirst, hlast, hstride, hto⟩ := exists_run_of_image? h
  have htarget : (runBits CaseRun.target caseRuns).testBit x.toNat = true := by
    rw [hto]
    exact testBit_runBits CaseRun.target hr (by omega) hstride
  have hclear : (runBits CaseRun.first caseRuns ||| 2 ^ 'İ'.toNat).testBit x.toNat = false := by
    have hapart := congrArg (Nat.testBit · x.toNat) caseRuns_apart
    simpa only [Nat.testBit_and, htarget, Bool.true_and, Nat.zero_testBit] using hapart
  rw [Nat.testBit_or, Bool.or_eq_false_iff] at hclear
  have hdotted : x ≠ 'İ' := by
    rintro rfl
    exact absurd Nat.testBit_two_pow_self (Bool.eq_false_iff.mp hclear.2)
  have hnone : CaseRun.image? caseRuns x.toNat = none := by
    cases hagain : CaseRun.image? caseRuns x.toNat with
    | none => rfl
    | some m =>
      obtain ⟨r', hr', hfirst', hlast', hstride', _⟩ := exists_run_of_image? hagain
      have hinside := testBit_runBits CaseRun.first hr' (by omega) hstride'
      rw [Nat.add_sub_of_le hfirst'] at hinside
      exact absurd hinside (Bool.eq_false_iff.mp hclear.1)
  rw [lowerChar, if_neg hdotted, hnone]

theorem lowerChar_of_mem_lowerChar (h : x ∈ lowerChar c) : lowerChar x = [x] := by
  rcases mem_lowerChar_cases h with rfl | rfl | himage | ⟨rfl, hstays⟩
  · rw [lowerChar_of_ascii (by decide)]
    rfl
  · exact lowerChar_small.1
  · exact lowerChar_of_image? himage
  · exact hstays

theorem lowerChar_of_mem_lowerAfter (h : x ∈ lowerAfter before cs) : lowerChar x = [x] := by
  obtain ⟨_, hfinal, hsmall, _⟩ := lowerChar_small
  induction cs generalizing before with
  | nil => cases h
  | cons c cs ih =>
    rw [lowerAfter, List.mem_append] at h
    rcases h with hx | hx
    · split at hx
      · split at hx
        · rw [List.mem_singleton.mp hx]
          exact hfinal
        · rw [List.mem_singleton.mp hx]
          exact hsmall
      · exact lowerChar_of_mem_lowerChar hx
    · exact ih hx

theorem lowerAfter_eq_self (h : ∀ x ∈ cs, lowerChar x = [x]) : lowerAfter before cs = cs := by
  induction cs generalizing before with
  | nil => rfl
  | cons c cs ih =>
    rw [List.forall_mem_cons] at h
    have hsigma : c ≠ 'Σ' := by
      rintro rfl
      have hcapital := lowerChar_small.2.2.2.symm.trans h.1
      exact absurd (List.singleton_inj.mp hcapital) (by decide)
    rw [lowerAfter, if_neg hsigma, h.1, ih h.2]
    rfl

theorem lowercase_lowercase (cs : List Char) : lowercase (lowercase cs) = lowercase cs :=
  lowerAfter_eq_self fun _ => lowerChar_of_mem_lowerAfter

end Text

namespace Naming

variable {cs : List Char}

theorem separator_notMem_underscored (cs : List Char) : '@' ∉ underscored cs := by
  intro h
  obtain ⟨c, _, hc⟩ := List.mem_map.mp h
  split at hc
  · exact absurd hc (by decide)
  · next hne => exact hne hc

theorem lowerChar_of_mem_underscored (h : ∀ x ∈ cs, Text.lowerChar x = [x]) :
    ∀ x ∈ underscored cs, Text.lowerChar x = [x] := by
  intro x hx
  obtain ⟨c, hc, rfl⟩ := List.mem_map.mp hx
  split
  · exact Text.endsWord_underscore.lower
  · exact h c hc

theorem collapseSeparators_eq_self (h : '@' ∉ cs) : collapseSeparators cs = cs := by
  rw [collapseSeparators]
  split
  · rfl
  · exact underscored_eq_self h

/-- Either no separator is left in a key, or the key begins with `self@` and is the lower case of
the property. -/
theorem propertyKey_cases (p : String) :
    '@' ∉ (propertyKey p).toList ∧
        (propertyKey p).toList = underscored (Text.lowercase p.toList) ∨
      "self@".toList <+: (propertyKey p).toList ∧
        (propertyKey p).toList = Text.lowercase p.toList := by
  rw [toList_propertyKey, collapseSeparators]
  split
  · next hself => exact .inr ⟨List.isPrefixOf_iff_prefix.mp hself, rfl⟩
  · exact .inl ⟨separator_notMem_underscored _, rfl⟩

theorem lowercase_propertyKey (p : String) :
    Text.lowercase (propertyKey p).toList = (propertyKey p).toList := by
  have hlower : ∀ x ∈ Text.lowercase p.toList, Text.lowerChar x = [x] :=
    fun _ => Text.lowerChar_of_mem_lowerAfter
  rcases propertyKey_cases p with ⟨_, hkey⟩ | ⟨_, hkey⟩
  · rw [hkey]
    exact Text.lowerAfter_eq_self (lowerChar_of_mem_underscored hlower)
  · rw [hkey]
    exact Text.lowercase_lowercase p.toList

theorem propertyKey_propertyKey (p : String) : propertyKey (propertyKey p) = propertyKey p := by
  rw [← String.toList_inj, toList_propertyKey, lowercase_propertyKey]
  rcases propertyKey_cases p with ⟨hnone, _⟩ | ⟨hself, _⟩
  · exact collapseSeparators_eq_self hnone
  · have hbegin : ['s', 'e', 'l', 'f', '@'].isPrefixOf (propertyKey p).toList :=
      List.isPrefixOf_iff_prefix.mpr hself
    rw [collapseSeparators, if_pos hbegin]

end Naming

namespace Layout

open Naming

/-- Keys are their own keys, a separator is left only in those that begin with `self@`, and a field
is found by the key of a property as it is found by the property. -/
theorem keys_canonical :
    (∀ p, propertyKey (propertyKey p) = propertyKey p) ∧
      (∀ p, '@' ∈ (propertyKey p).toList → "self@".toList <+: (propertyKey p).toList) ∧
      ∀ (l : Layout) (owner : Owner) (p : String),
        l.field? owner (propertyKey p) = l.field? owner p := by
  refine ⟨propertyKey_propertyKey, ?_, ?_⟩
  · intro p hmem
    rcases propertyKey_cases p with ⟨hnone, _⟩ | ⟨hself, _⟩
    · exact absurd hmem hnone
    · exact hself
  · intro l owner p
    exact l.field?_congr owner (propertyKey_propertyKey p)

/-- The first name keeps its separators: its dotted capital I goes to two characters, and its last
sigma is a final one. The second name loses them. -/
theorem capitals_found_by_key :
    '@' ∈ (propertyKey "SELF@GRÖẞE@İΣ").toList ∧
      "self@".toList <+: (propertyKey "SELF@GRÖẞE@İΣ").toList ∧
      propertyKey "SELF@GRÖẞE@İΣ" = "self@größe@i\u0307ς" ∧
      ∃ l f, plan SinkRef.accented SinkRef.accentedSinks = .ok l ∧
        l.field? (.ofClass ⟨0⟩) "LEFT@GRÖẞE@Σ_INIT" = .ok (some f) ∧
        l.field? (.ofClass ⟨0⟩) (propertyKey "LEFT@GRÖẞE@Σ_INIT") = .ok (some f) ∧
        f.type = .int := by
  have hmem : '@' ∈ (propertyKey "SELF@GRÖẞE@İΣ").toList := by decide +kernel
  obtain ⟨l, f, hl, hf, htype⟩ : ∃ l f, plan SinkRef.accented SinkRef.accentedSinks = .ok l ∧
      l.field? (.ofClass ⟨0⟩) "LEFT@GRÖẞE@Σ_INIT" = .ok (some f) ∧ f.type = .int :=
    exists_field_of_type _ _ (by decide +kernel)
  have hkey := keys_canonical.2.2 l (.ofClass ⟨0⟩) "LEFT@GRÖẞE@Σ_INIT"
  exact ⟨hmem, keys_canonical.2.1 _ hmem, by decide +kernel, l, f, hl, hf, hkey.trans hf, htype⟩

end Layout
end GrammarLayout
