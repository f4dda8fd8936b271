import GrammarLayout.Json.Number
import GrammarLayout.Proofs.Spelling.Token

/-!
# Spellings of a number

A numeral is taken in full, up to the delimiter behind it. The digits of a whole number of up to
64 bits are read as that number.
-/

namespace GrammarLayout.Json

variable {c : Char} {n : Nat} {ds u v t tok : List Char}
  (fault : Fault)

def IsDigits (ds : List Char) : Prop := ds ≠ [] ∧ ∀ c ∈ ds, c.isDigit

/-- Decimal digits of which the first is no superfluous zero. -/
def IsWhole (ds : List Char) : Prop := ds = ['0'] ∨ IsDigits ds ∧ ds.head? ≠ some '0'

inductive SpellsFraction : List Char → List Char → Prop
  | none : SpellsFraction [] []
  | point {ds : List Char} : IsDigits ds → SpellsFraction ds ('.' :: ds)

inductive SpellsExponent : Option (Bool × List Char) → List Char → Prop
  | none : SpellsExponent none []
  | unsigned {c : Char} {ds : List Char} : c ∈ ['e', 'E'] → IsDigits ds →
      SpellsExponent (some (false, ds)) (c :: ds)
  | plus {c : Char} {ds : List Char} : c ∈ ['e', 'E'] → IsDigits ds →
      SpellsExponent (some (false, ds)) (c :: '+' :: ds)
  | minus {c : Char} {ds : List Char} : c ∈ ['e', 'E'] → IsDigits ds →
      SpellsExponent (some (true, ds)) (c :: '-' :: ds)

inductive Numeral.Spells : Numeral → List Char → Prop
  | plain {whole fraction u v : List Char} {e : Option (Bool × List Char)} : IsWhole whole →
      SpellsFraction fraction u → SpellsExponent e v →
      Numeral.Spells ⟨false, whole, fraction, e⟩ (whole ++ (u ++ v))
  | negative {whole fraction u v : List Char} {e : Option (Bool × List Char)} : IsWhole whole →
      SpellsFraction fraction u → SpellsExponent e v →
      Numeral.Spells ⟨true, whole, fraction, e⟩ ('-' :: (whole ++ (u ++ v)))

theorem isDigits_singleton (h : c.isDigit) : IsDigits [c] :=
  ⟨List.cons_ne_nil c [], List.forall_mem_singleton.mpr h⟩

def NoDigit (t : List Char) : Prop := ∀ c ∈ t.head?, c.isDigit = false

def NoFraction (t : List Char) : Prop := NoDigit t ∧ t.head? ≠ some '.'

theorem not_isDigit_of_delimiter (h : isDelimiter c) : c.isDigit = false := by
  simp only [isDelimiter, decide_eq_true_eq] at h
  fin_cases h <;> rfl

theorem noFraction_of_delimited (h : Delimited t) : NoFraction t := by
  refine ⟨fun c hc => not_isDigit_of_delimiter (h c hc), fun hc => ?_⟩
  exact absurd (h '.' hc) (by decide)

theorem SpellsExponent.noFraction {e : Option (Bool × List Char)} (h : SpellsExponent e u)
    (ht : Delimited t) : NoFraction (u ++ t) := by
  have hletter : ∀ {c : Char} (t : List Char), c ∈ ['e', 'E'] → NoFraction (c :: t) := by
    intro c t hc
    simp only [List.mem_cons, List.not_mem_nil, or_false] at hc
    obtain rfl | rfl := hc <;> simp [NoFraction, NoDigit, Char.isDigit]
  cases h with
  | none => exact noFraction_of_delimited ht
  | unsigned hc => exact hletter _ hc
  | plus hc => exact hletter _ hc
  | minus hc => exact hletter _ hc

theorem SpellsFraction.noDigit (h : SpellsFraction ds u) (ht : NoDigit t) : NoDigit (u ++ t) := by
  cases h with
  | none => exact ht
  | point => simp [NoDigit, Char.isDigit]

theorem IsDigits.exists_head (h : IsDigits ds) : ∃ c ds', ds = c :: ds' ∧ c.isDigit := by
  cases ds with
  | nil => exact absurd rfl h.1
  | cons c ds => exact ⟨c, ds, rfl, h.2 c List.mem_cons_self⟩

theorem digits_takes (h : IsDigits ds) (ht : NoDigit t) : (digits fault).Takes (ds ++ t) ds t := by
  obtain ⟨hne, hds⟩ := h
  cases ds with
  | nil => exact absurd rfl hne
  | cons c ds =>
    have hall : ∀ d ∈ ds, d.isDigit := fun d hd => hds d (List.mem_cons_of_mem c hd)
    have hdrop : t.dropWhile Char.isDigit = t := by
      cases t with
      | nil => rfl
      | cons d t => simp [ht d rfl]
    have htake : t.takeWhile Char.isDigit = [] := by
      cases t with
      | nil => rfl
      | cons d t => simp [ht d rfl]
    refine ⟨by simp, ?_⟩
    simp only [List.cons_append, digits, hds c List.mem_cons_self, if_true,
      List.dropWhile_append_of_pos hall, List.takeWhile_append_of_pos hall, hdrop, htake,
      List.append_nil]

theorem wholeDigits_of_ne (h : c ≠ '0') (t : List Char) :
    wholeDigits fault (c :: t) = digits fault (c :: t) := by
  rw [wholeDigits]
  exact fun _ heq => h (List.cons.inj heq).1

theorem wholeDigits_takes (h : IsWhole ds) (ht : NoDigit t) :
    (wholeDigits fault).Takes (ds ++ t) ds t := by
  obtain rfl | ⟨h, hzero⟩ := h
  · refine ⟨by simp, ?_⟩
    have hhead : (t.head?.map Char.isDigit).getD false = false := by
      cases t with
      | nil => rfl
      | cons d t => exact ht d rfl
    simp only [List.cons_append, List.nil_append, wholeDigits, hhead, Bool.false_eq_true, if_false]
    rfl
  · obtain ⟨hl, hd⟩ := digits_takes fault h ht
    cases ds with
    | nil => exact absurd rfl h.1
    | cons c ds =>
      have hc : c ≠ '0' := fun hc => hzero (by rw [hc]; rfl)
      exact ⟨hl, (wholeDigits_of_ne fault hc _).trans hd⟩

theorem IsWhole.exists_head (h : IsWhole ds) : ∃ c ds', ds = c :: ds' ∧ c.isDigit := by
  obtain rfl | ⟨h, -⟩ := h
  · exact ⟨'0', [], rfl, rfl⟩
  · exact h.exists_head

theorem signedWhole_of_ne (h : c ≠ '-') (t : List Char) :
    signedWhole fault (c :: t) =
      (wholeDigits fault (c :: t)).map fun d => d.map (Prod.mk false) := by
  rw [signedWhole]
  exact fun _ heq => h (List.cons.inj heq).1

theorem signedWhole_plain (h : IsWhole ds) (ht : NoDigit t) :
    (signedWhole fault).Takes (ds ++ t) (false, ds) t := by
  obtain ⟨hl, hd⟩ := wholeDigits_takes fault h ht
  obtain ⟨c, ds', rfl, hc⟩ := h.exists_head
  have hminus : c ≠ '-' := by rintro rfl; cases hc
  refine ⟨hl, (signedWhole_of_ne fault hminus (ds' ++ t)).trans ?_⟩
  rw [show wholeDigits fault (c :: (ds' ++ t)) = _ from hd]
  rfl

theorem signedWhole_negative (h : IsWhole ds) (ht : NoDigit t) :
    (signedWhole fault).Takes ('-' :: (ds ++ t)) (true, ds) t := by
  obtain ⟨hl, hd⟩ := wholeDigits_takes fault h ht
  refine ⟨Nat.lt_succ_of_lt hl, ?_⟩
  rw [signedWhole, hd]
  rfl

section parts

variable {α : Type} {text : List Char} {p : Parsed α text}

theorem withFraction_takes (h : SpellsFraction ds u) (hp : p.rest = u ++ t) (ht : NoFraction t) :
    ∃ hl, withFraction fault p = .ok ⟨(p.value, ds), t, hl⟩ := by
  obtain ⟨a, r, hr⟩ := p
  simp only at hp
  subst hp
  cases h with
  | none =>
    refine ⟨hr, ?_⟩
    unfold withFraction
    split
    · next heq =>
      simp only [List.nil_append] at heq
      exact absurd (by rw [heq]; rfl) ht.2
    · rfl
  | point h =>
    obtain ⟨hl, hd⟩ := digits_takes fault h ht.1
    refine ⟨by simp at *; omega, ?_⟩
    simp only [withFraction, List.cons_append, hd]
    rfl

/-- An exponent that is there is a letter, a sign and digits. -/
theorem SpellsExponent.exists_letter {x : Bool × List Char} (h : SpellsExponent (some x) u) :
    ∃ c w, u = c :: w ∧ (c = 'e' ∨ c = 'E') ∧ IsDigits x.2 ∧
      ∀ t, exponentSign (w ++ t) = (x.1, x.2 ++ t) := by
  have hplain : ∀ {ds : List Char}, IsDigits ds →
      ∀ t, exponentSign (ds ++ t) = (false, ds ++ t) := by
    intro ds hds t
    obtain ⟨c, ds', rfl, hc⟩ := hds.exists_head
    rw [List.cons_append, exponentSign] <;> rintro _ heq <;> cases heq <;> cases hc
  cases h with
  | unsigned hc h => exact ⟨_, _, rfl, by simpa using hc, h, hplain h⟩
  | plus hc h => exact ⟨_, _, rfl, by simpa using hc, h, fun _ => rfl⟩
  | minus hc h => exact ⟨_, _, rfl, by simpa using hc, h, fun _ => rfl⟩

theorem withExponent_takes {e : Option (Bool × List Char)} (h : SpellsExponent e u)
    (hp : p.rest = u ++ t) (ht : Delimited t) :
    ∃ hl, withExponent fault p = .ok ⟨(p.value, e), t, hl⟩ := by
  obtain ⟨a, r, hr⟩ := p
  simp only at hp
  subst hp
  cases e with
  | none =>
    cases h
    refine ⟨hr, ?_⟩
    cases t with
    | nil => rfl
    | cons c t =>
      have hc : ¬ (c = 'e' ∨ c = 'E') := by
        have := ht c rfl
        rintro (rfl | rfl) <;> cases this
      simp only [withExponent, List.nil_append, if_neg hc]
      rfl
  | some x =>
    obtain ⟨c, w, rfl, hc, hds, hsign⟩ := h.exists_letter
    have hd : (digits fault).Takes (exponentSign (w ++ t)).2 x.2 t := by
      rw [hsign]
      exact digits_takes fault hds (noFraction_of_delimited ht).1
    obtain ⟨hl, hd⟩ := hd
    refine ⟨by
      have := length_exponentSign_le (w ++ t)
      simp only [List.cons_append, List.length_cons] at hr
      omega, ?_⟩
    simp only [withExponent, List.cons_append, if_pos hc, hd]
    simp only [Except.map, hsign]

end parts

theorem Numeral.read_takes {b : Bool} {whole fraction text : List Char}
    {e : Option (Bool × List Char)}
    (hw : (signedWhole fault).Takes text (b, whole) (u ++ (v ++ t)))
    (hf : SpellsFraction fraction u) (he : SpellsExponent e v) (ht : Delimited t) :
    (Numeral.read fault).Takes text ⟨b, whole, fraction, e⟩ t := by
  obtain ⟨hl, hw⟩ := hw
  obtain ⟨hl', hf⟩ := withFraction_takes fault
    (p := ⟨(b, whole), u ++ (v ++ t), hl⟩) hf rfl (he.noFraction ht)
  obtain ⟨hl'', he⟩ := withExponent_takes fault
    (p := ⟨((b, whole), fraction), v ++ t, hl'⟩) he rfl ht
  refine ⟨hl'', ?_⟩
  simp only [Numeral.read, bind, Except.bind, hw, hf, he]
  rfl

theorem ne_of_numeralHead {c d : Char} (hc : c = '-' ∨ c.isDigit) (hd : ¬ (d = '-' ∨ d.isDigit)) :
    c ≠ d :=
  fun h => hd (h ▸ hc)

namespace Numeral.Spells

variable {x : Numeral}

theorem exists_head (h : x.Spells tok) : ∃ c u, tok = c :: u ∧ (c = '-' ∨ c.isDigit) := by
  cases h with
  | plain hw =>
    obtain ⟨c, ds, rfl, hc⟩ := hw.exists_head
    exact ⟨c, _, rfl, .inr hc⟩
  | negative => exact ⟨'-', _, rfl, .inl rfl⟩

theorem starts (h : x.Spells tok) : Starts tok := by
  obtain ⟨c, u, rfl, hc⟩ := h.exists_head
  refine ⟨c, u, rfl, ?_⟩
  obtain rfl | hc := hc
  · rfl
  · by_contra hd
    rw [not_isDigit_of_delimiter (by simpa using hd)] at hc
    cases hc

theorem takes (h : x.Spells tok) (ht : Delimited t) :
    (Numeral.read fault).Takes (tok ++ t) x t := by
  cases h with
  | plain hw hf he =>
    have hdigit := hf.noDigit (he.noFraction ht).1
    refine read_takes fault ?_ hf he ht
    simpa using signedWhole_plain fault hw hdigit
  | negative hw hf he =>
    have hdigit := hf.noDigit (he.noFraction ht).1
    refine read_takes fault ?_ hf he ht
    simpa using signedWhole_negative fault hw hdigit

end Numeral.Spells

theorem absorb_eq {m : Nat} (h : Nat.ofDigitChars 10 ds m < UInt64.size) :
    absorb m ds = (Nat.ofDigitChars 10 ds m, []) := by
  induction ds generalizing m with
  | nil => rfl
  | cons c ds ih =>
    rw [Nat.ofDigitChars_cons] at h ⊢
    have hle : m * 10 + (c.toNat - '0'.toNat) < UInt64.size := by
      rw [Nat.ofDigitChars_eq_ofDigitChars_zero] at h
      have := Nat.le_mul_of_pos_left (10 * m + (c.toNat - '0'.toNat))
        (Nat.pow_pos (n := ds.length) (show 0 < 10 by decide))
      omega
    simp only [absorb, if_pos hle]
    rw [Nat.mul_comm m 10] at *
    exact ih h

theorem head?_toDigits (h : n ≠ 0) : (Nat.toDigits 10 n).head? ≠ some '0' := by
  induction n using Nat.strong_induction_on with
  | _ n ih =>
    rw [Nat.toDigits_eq_if (by decide)]
    split
    · next hlt =>
      rw [List.head?_cons, ne_eq, Option.some_inj, Nat.digitChar_eq_zero]
      exact h
    · next hge =>
      rw [List.head?_append_of_ne_nil _ Nat.toDigits_ne_nil]
      exact ih (n / 10) (by omega) (by omega)

theorem isWhole_toDigits (n : Nat) : IsWhole (Nat.toDigits 10 n) := by
  by_cases h : n = 0
  · subst h
    exact .inl rfl
  · exact .inr ⟨⟨Nat.toDigits_ne_nil, fun c hc =>
      Nat.isDigit_of_mem_toDigits (by decide) (by decide) hc⟩, head?_toDigits h⟩

theorem spells_toDigits (n : Nat) :
    Numeral.Spells ⟨false, Nat.toDigits 10 n, [], none⟩ (Nat.toDigits 10 n) := by
  simpa using Numeral.Spells.plain (isWhole_toDigits n) .none .none

theorem number_takes (h : n < UInt64.size) (ht : Delimited t) :
    number.Takes (Nat.toDigits 10 n ++ t) (.integer n) t := by
  obtain ⟨hl, hr⟩ := (spells_toDigits n).takes .missingValue ht
  have hvalue : Nat.ofDigitChars 10 (Nat.toDigits 10 n) 0 = n := Nat.ofDigitChars_ten_toDigits
  have habsorb : absorb 0 (Nat.toDigits 10 n) = (n, []) := by
    rw [absorb_eq (by rwa [hvalue]), hvalue]
  refine ⟨hl, ?_⟩
  simp only [number, bind, Except.bind, hr, Numeral.scalar?, habsorb]
  rfl

end GrammarLayout.Json
