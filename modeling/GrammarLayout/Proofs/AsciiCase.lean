import GrammarLayout.Proofs.Keys

/-!
# Full lower case within ASCII

On ASCII letters full lower case is ASCII lower case. From outside, only two characters come into
ASCII, the dotted capital I and the Kelvin sign. All other ASCII characters are in a lower case text
only where the text itself has them in one of their two cases.
-/

namespace GrammarLayout.Text

variable {c x : Char} {before cs xs : List Char} {m n : Nat}

theorem exists_run_of_image? {rs : List CaseRun} (h : CaseRun.image? rs n = some m) :
    ∃ r ∈ rs, r.first ≤ n ∧ n ≤ r.last ∧ (n - r.first) % r.stride = 0 ∧
      m = r.target + (n - r.first) := by
  induction rs with
  | nil => cases h
  | cons r rs ih =>
    unfold CaseRun.image? at h
    split at h
    · cases h
    · next hfirst =>
      split at h
      · next hlast =>
        exact ⟨r, List.mem_cons_self, Nat.le_of_not_lt hfirst, hlast.1, hlast.2,
          (Option.some.inj h).symm⟩
      · obtain ⟨r', hr', hspec⟩ := ih h
        exact ⟨r', List.mem_cons_of_mem r hr', hspec⟩

theorem caseRuns_valid : ∀ r ∈ caseRuns, r.target + (r.last - r.first) < 0xD800 ∨
    0xDFFF < r.target ∧ r.target + (r.last - r.first) < 0x110000 := by
  decide +kernel

/-- Of all runs that begin outside of ASCII, only that of the Kelvin sign leads into it. -/
theorem caseRuns_ascii : ∀ r ∈ caseRuns, r.last < 128 ∨ 128 ≤ r.target ∨
    r = ⟨0x212A, 0x212A, 1, 0x6B⟩ := by
  decide +kernel

theorem lowerChar_of_ascii (h : c.toNat < 128) : lowerChar c = [c.toLower] := by
  have hall : ∀ n < 128, lowerChar (Char.ofNat n) = [(Char.ofNat n).toLower] := by
    decide +kernel
  have hc := hall c.toNat h
  rwa [Char.ofNat_toNat] at hc

theorem toLower_of_not_ascii (h : ¬ c.toNat < 128) : c.toLower = c := by
  unfold Char.toLower
  split
  · next hupper =>
    have hle : c.toNat ≤ 'Z'.toNat := hupper.2
    exact absurd (Nat.lt_of_le_of_lt hle (by decide)) h
  · rfl

/-- An ASCII character that is not the lower case of anything outside of ASCII. -/
structure Plain (x : Char) : Prop where
  ascii : x.toNat < 128
  ne_i : x ≠ 'i'
  ne_k : x ≠ 'k'

theorem toNat_of_image? (h : CaseRun.image? caseRuns n = some m) : (Char.ofNat m).toNat = m := by
  obtain ⟨r, hr, hfirst, hlast, _, rfl⟩ := exists_run_of_image? h
  have hvalid : (r.target + (n - r.first)).isValidChar := by
    have hbound := caseRuns_valid r hr
    unfold Nat.isValidChar
    omega
  rw [Char.ofNat, dif_pos hvalid]
  rfl

/-- A character goes to the two of the dotted capital I, to where its run leads, or stays. -/
theorem mem_lowerChar_cases (h : x ∈ lowerChar c) :
    x = 'i' ∨ x = '\u0307' ∨ CaseRun.image? caseRuns c.toNat = some x.toNat ∨
      x = c ∧ lowerChar c = [c] := by
  by_cases hdotted : c = 'İ'
  · rw [lowerChar, if_pos hdotted] at h
    rcases List.mem_pair.mp h with hi | hdot
    · exact .inl hi
    · exact .inr (.inl hdot)
  · cases himage : CaseRun.image? caseRuns c.toNat with
    | some n =>
      rw [lowerChar, if_neg hdotted, himage] at h
      rw [List.mem_singleton.mp h, toNat_of_image? himage]
      exact .inr (.inr (.inl rfl))
    | none =>
      have hstays : lowerChar c = [c] := by rw [lowerChar, if_neg hdotted, himage]
      rw [hstays] at h
      exact .inr (.inr (.inr ⟨List.mem_singleton.mp h, hstays⟩))

theorem Plain.ascii_of_mem_lowerChar (h : Plain x) (hx : x ∈ lowerChar c) : c.toNat < 128 := by
  rcases mem_lowerChar_cases hx with hi | rfl | himage | ⟨rfl, _⟩
  · exact absurd hi h.ne_i
  · exact absurd h.ascii (by decide)
  · obtain ⟨r, hr, hfirst, hlast, _, hto⟩ := exists_run_of_image? himage
    have hascii := h.ascii
    rcases caseRuns_ascii r hr with hin | hout | rfl
    · exact Nat.lt_of_le_of_lt hlast hin
    · omega
    · have hk : x.toNat = 'k'.toNat := by
        rw [hto, show c.toNat = 0x212A from Nat.le_antisymm hlast hfirst]
        rfl
      exact absurd (Char.toNat_inj.mp hk) h.ne_k
  · exact h.ascii

theorem Plain.mem_lowerChar_iff (h : Plain x) : x ∈ lowerChar c ↔ c.toLower = x := by
  constructor
  · intro hx
    rw [lowerChar_of_ascii (h.ascii_of_mem_lowerChar hx)] at hx
    exact (List.mem_singleton.mp hx).symm
  · intro hx
    have hc : c.toNat < 128 := by
      by_contra hc
      rw [toLower_of_not_ascii hc] at hx
      exact hc (hx ▸ h.ascii)
    rw [lowerChar_of_ascii hc, hx]
    exact List.mem_singleton_self x

theorem lowerChar_ne_nil (c : Char) : lowerChar c ≠ [] := by
  unfold lowerChar
  split
  · exact List.cons_ne_nil _ _
  · split <;> exact List.cons_ne_nil _ _

theorem exists_lowerAfter_cons (before : List Char) (c : Char) (cs : List Char) :
    ∃ ys ≠ [], lowerAfter before (c :: cs) = ys ++ lowerAfter (c :: before) cs ∧
      ∀ {x}, Plain x → (x ∈ ys ↔ c.toLower = x) := by
  by_cases hc : c = 'Σ'
  · -- Neither sigma is in ASCII.
    obtain ⟨y, hy, hlower⟩ : ∃ y : Char, ¬ y.toNat < 128 ∧
        lowerAfter before (c :: cs) = [y] ++ lowerAfter (c :: before) cs := by
      rw [lowerAfter, if_pos hc]
      split
      · exact ⟨'ς', by decide, rfl⟩
      · exact ⟨'σ', by decide, rfl⟩
    refine ⟨[y], List.cons_ne_nil y [], hlower, fun {x} hx => ?_⟩
    constructor
    · intro hxy
      rw [List.mem_singleton.mp hxy] at hx
      exact absurd hx.ascii hy
    · intro hxc
      rw [← hxc, hc] at hx
      exact absurd hx.ascii (by decide)
  · refine ⟨lowerChar c, lowerChar_ne_nil c, by rw [lowerAfter, if_neg hc], ?_⟩
    exact Plain.mem_lowerChar_iff

theorem mem_lowerAfter_iff (h : Plain x) :
    x ∈ lowerAfter before cs ↔ x ∈ cs.map Char.toLower := by
  induction cs generalizing before with
  | nil => rfl
  | cons c cs ih =>
    obtain ⟨ys, _, hlower, hys⟩ := exists_lowerAfter_cons before c cs
    rw [hlower, List.mem_append, hys h, ih, List.map_cons, List.mem_cons, eq_comm]

/-- The lower case of a text has a plain character exactly if its ASCII lower case has it. -/
theorem mem_lowercase_iff (h : Plain x) : x ∈ lowercase cs ↔ x ∈ cs.map Char.toLower :=
  mem_lowerAfter_iff h

theorem lowerAfter_of_ascii (h : ∀ c ∈ cs, c.toNat < 128) :
    lowerAfter before cs = cs.map Char.toLower := by
  induction cs generalizing before with
  | nil => rfl
  | cons c cs ih =>
    have hc : c.toNat < 128 := h c List.mem_cons_self
    have hsigma : c ≠ 'Σ' := by
      rintro rfl
      exact absurd hc (by decide)
    rw [lowerAfter, if_neg hsigma, lowerChar_of_ascii hc,
      ih fun c' hc' => h c' (List.mem_cons_of_mem c hc')]
    rfl

theorem ascii_of_lowerAfter (h : ∀ x ∈ lowerAfter before cs, Plain x) :
    ∀ c ∈ cs, c.toNat < 128 := by
  induction cs generalizing before with
  | nil =>
    intro c hc
    cases hc
  | cons c cs ih =>
    obtain ⟨ys, hne, hlower, hys⟩ := exists_lowerAfter_cons before c cs
    rw [hlower] at h
    intro c' hc'
    rcases List.mem_cons.mp hc' with rfl | hc'
    · obtain ⟨y, hy⟩ := List.exists_mem_of_ne_nil ys hne
      have hplain : Plain y := h y (List.mem_append_left _ hy)
      by_contra hascii
      apply hascii
      rw [← toLower_of_not_ascii hascii, (hys hplain).mp hy]
      exact hplain.ascii
    · exact ih (fun x hx => h x (List.mem_append_right ys hx)) c' hc'

/-- A text of plain characters is the lower case of those texts that have it as their ASCII lower
case, and of no others. -/
theorem lowercase_eq_iff (h : ∀ x ∈ xs, Plain x) :
    lowercase cs = xs ↔ cs.map Char.toLower = xs := by
  constructor
  · intro hlower
    rw [← hlower] at h ⊢
    exact (lowerAfter_of_ascii (ascii_of_lowerAfter h)).symm
  · intro hmap
    have hascii : ∀ c ∈ cs, c.toNat < 128 := by
      intro c hc
      by_contra hascii
      have hplain : Plain c.toLower := h _ (hmap ▸ List.mem_map_of_mem hc)
      rw [toLower_of_not_ascii hascii] at hplain
      exact hascii hplain.ascii
    rw [← hmap]
    exact lowerAfter_of_ascii hascii

end GrammarLayout.Text
