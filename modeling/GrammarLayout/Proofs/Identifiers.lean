import GrammarLayout.Proofs.Built
import GrammarLayout.Proofs.Planning

/-!
# When identifiers clash

Fields are told apart by key and owner, while their identifiers are spelled from cleaned names.
The two do not agree: names that differ by dashes or spaces, or in where the underscore between
owner and property stands, are spelled alike, and exempt fields are spelled without their owner.
There are no other clashes; in particular universal fields only clash with exempt ones.
-/

namespace GrammarLayout

/-- Texts joined by a mark are equal if the parts are, or if one mark stands further behind. -/
theorem join_eq_join_iff {α : Type} {x : α} {a b c d : List α} :
    a ++ x :: b = c ++ x :: d ↔
      (a = c ∧ b = d) ∨ (∃ w, c = a ++ x :: w ∧ b = w ++ x :: d) ∨
        ∃ w, a = c ++ x :: w ∧ d = w ++ x :: b := by
  constructor
  · intro h
    rcases List.append_eq_append_iff.mp h with ⟨w, hc, hb⟩ | ⟨w, ha, hd⟩
    · cases w with
      | nil =>
        rw [List.append_nil] at hc
        rw [List.nil_append] at hb
        exact .inl ⟨hc.symm, (List.cons.inj hb).2⟩
      | cons y w =>
        obtain ⟨rfl, hw⟩ := List.cons.inj hb
        exact .inr (.inl ⟨w, hc, hw⟩)
    · cases w with
      | nil =>
        rw [List.append_nil] at ha
        rw [List.nil_append] at hd
        exact .inl ⟨ha, (List.cons.inj hd).2.symm⟩
      | cons y w =>
        obtain ⟨rfl, hw⟩ := List.cons.inj hd
        exact .inr (.inr ⟨w, ha, hw⟩)
  · rintro (⟨rfl, rfl⟩ | ⟨w, rfl, rfl⟩ | ⟨w, rfl, rfl⟩) <;> simp

namespace Naming

variable {n n' p p' : String} {type : StorageType}

theorem fieldIdent_of_exempt (h : type.isExempt) (owner? : Option String) :
    fieldIdent owner? p type = p := by
  simp [fieldIdent, h]

theorem fieldIdent_of_owned (h : ¬ type.isExempt) :
    fieldIdent (some n) p type = "fld_" ++ clean n ++ "_" ++ clean p := by
  simp [fieldIdent, h]

theorem toList_owned (n p : String) : ("fld_" ++ clean n ++ "_" ++ clean p).toList =
    'f' :: 'l' :: 'd' :: '_' :: ((clean n).toList ++ '_' :: (clean p).toList) := by
  simp [String.toList_append]

theorem owned_eq_owned_iff :
    "fld_" ++ clean n ++ "_" ++ clean p = "fld_" ++ clean n' ++ "_" ++ clean p' ↔
      (clean n = clean n' ∧ clean p = clean p') ∨
      (∃ w, clean n' = clean n ++ "_" ++ w ∧ clean p = w ++ "_" ++ clean p') ∨
        ∃ w, clean n = clean n' ++ "_" ++ w ∧ clean p' = w ++ "_" ++ clean p := by
  have hshift : ∀ a b c d : String,
      (∃ w, c.toList = a.toList ++ '_' :: w ∧ b.toList = w ++ '_' :: d.toList) ↔
        ∃ w, c = a ++ "_" ++ w ∧ b = w ++ "_" ++ d := by
    intro a b c d
    constructor
    · rintro ⟨w, hc, hb⟩
      refine ⟨String.ofList w, ?_, ?_⟩
      · rw [← String.toList_inj, hc]
        simp [String.toList_append]
      · rw [← String.toList_inj, hb]
        simp [String.toList_append]
    · rintro ⟨w, rfl, rfl⟩
      exact ⟨w.toList, by simp [String.toList_append], by simp [String.toList_append]⟩
  rw [← String.toList_inj, toList_owned, toList_owned]
  simp only [List.cons.injEq, true_and, join_eq_join_iff, hshift, String.toList_inj]

end Naming

namespace Layout

variable {g : Grammar} {s : Schedule} {l : Layout} {r r' : Request} {f f' : Field}

def universalIdent (r : Request) : String :=
  if r.property = "display" then "displayname" else r.property

theorem universalIdent_eq (h : r ∈ universalRequests) {type : StorageType}
    (ht : r.HasType g type) :
    ¬ type.isExempt ∧ Naming.fieldIdent none r.property type = universalIdent r := by
  have hall : ∀ r ∈ universalRequests, ∀ type ∈ [StorageType.grammarTokens, .nodeIndex],
      Naming.fieldIdent none r.property type = universalIdent r := by
    decide +kernel
  have htype : type ∈ [StorageType.grammarTokens, .nodeIndex] := by
    obtain ⟨_, given, hg, ho⟩ := of_mem_universalRequests h
    simp only [Request.HasType, ho] at ht
    rw [ht]
    exact hg
  have hexempt : ∀ type ∈ [StorageType.grammarTokens, .nodeIndex], ¬ type.isExempt := by
    decide
  exact ⟨hexempt type htype, hall r h type htype⟩

theorem universalIdent_inj : ∀ r ∈ universalRequests, ∀ r' ∈ universalRequests,
    universalIdent r = universalIdent r' → r = r' := by
  decide +kernel

theorem universalIdent_head : ∀ r ∈ universalRequests,
    (universalIdent r).toList.head? ≠ some 'f' := by
  decide +kernel

/-- The fields are told apart: under one key, both have owners, and different ones. -/
def Apart (f f' : Field) : Prop :=
  f.key = f'.key → f.owner ≠ .universal ∧ f'.owner ≠ .universal ∧ f.owner ≠ f'.owner

theorem Apart.symm (h : Apart f f') : Apart f' f := by
  intro hk
  obtain ⟨hu, hu', ho⟩ := h hk.symm
  exact ⟨hu', hu, ho.symm⟩

theorem Follows.apart {rs : List Request} (h : Follows g rs l) {i j : Nat} (hij : i < j)
    (hf : l.fields[i]? = some f) (hf' : l.fields[j]? = some f') : Apart f f' := by
  intro hk
  have ha := h.not_answers hij hf hf' hk
  refine ⟨?_, ?_, ?_⟩
  · intro ho
    exact ha (ho ▸ g.universal_answers _)
  · intro ho
    exact ha (ho ▸ g.answers_universal _)
  · intro ho
    exact ha (ho ▸ g.answers_self _)

/-- How the identifier of a planned field is spelled. -/
inductive Spelled (g : Grammar) (f : Field) : Prop
  | exempt (hu : f.owner ≠ .universal) (ht : f.type.isExempt) (hi : f.ident = f.property)
  | universal (r : Request) (hr : r ∈ universalRequests) (ho : f.owner = .universal)
      (hp : f.property = r.property) (ht : ¬ f.type.isExempt) (hi : f.ident = universalIdent r)
  | owned (n : String) (hn : g.ownerName f.owner = .ok (some n)) (ht : ¬ f.type.isExempt)
      (hi : f.ident = "fld_" ++ Naming.clean n ++ "_" ++ Naming.clean f.property)

theorem Meets.spelled (h : Meets g r f) (hr : r ∈ requests g s) : Spelled g f := by
  obtain ⟨name, hn, hi⟩ := h.ident
  rw [← h.property] at hi
  by_cases hu : r.owner = .universal
  · have hr := mem_universalRequests_of_owner hr hu
    obtain ⟨ht, hident⟩ := universalIdent_eq hr h.type
    refine .universal r hr (h.owner.trans hu) h.property ht ?_
    rw [hu] at hn
    obtain rfl := Except.ok.inj hn
    rw [hi, h.property, hident]
  · by_cases ht : f.type.isExempt
    · refine .exempt (h.owner ▸ hu) ht ?_
      rw [hi, Naming.fieldIdent_of_exempt ht]
    · cases name with
      | none => exact absurd (Grammar.owner_of_ownerName_none hn) hu
      | some n =>
        refine .owned n (h.owner ▸ hn) ht ?_
        rw [hi, Naming.fieldIdent_of_owned ht]

/-- The ways in which the identifier of one field is that of another. -/
inductive Clash (g : Grammar) (f f' : Field) : Prop
  /-- Exempt fields of different owners have one property. -/
  | exempt (ht : f.type.isExempt) (ht' : f'.type.isExempt) (ho : f.owner ≠ f'.owner)
      (hp : f.property = f'.property)
  /-- The property of an exempt field is the name that the display field goes by. -/
  | display (ht : f.type.isExempt) (hp : f.property = "displayname")
      (ho' : f'.owner = .universal) (hp' : f'.property = "display")
  /-- The property of an exempt field is spelled as an identifier is made. -/
  | made {n' : String} (ht : f.type.isExempt) (ht' : ¬ f'.type.isExempt)
      (hn' : g.ownerName f'.owner = .ok (some n'))
      (hp : f.property = "fld_" ++ Naming.clean n' ++ "_" ++ Naming.clean f'.property)
  /-- Both names are the same when they are cleaned. -/
  | cleaned {n n' : String} (ht : ¬ f.type.isExempt) (ht' : ¬ f'.type.isExempt)
      (hn : g.ownerName f.owner = .ok (some n)) (hn' : g.ownerName f'.owner = .ok (some n'))
      (hc : Naming.clean n = Naming.clean n')
      (hp : Naming.clean f.property = Naming.clean f'.property)
  /-- What one owner's name ends in, the other property begins with. -/
  | shifted {n n' : String} (w : String) (ht : ¬ f.type.isExempt) (ht' : ¬ f'.type.isExempt)
      (hn : g.ownerName f.owner = .ok (some n)) (hn' : g.ownerName f'.owner = .ok (some n'))
      (hc : Naming.clean n' = Naming.clean n ++ "_" ++ w)
      (hp : Naming.clean f.property = w ++ "_" ++ Naming.clean f'.property)

namespace Spelled

theorem ident_of_exempt (h : Spelled g f) (ht : f.type.isExempt) : f.ident = f.property := by
  cases h with
  | exempt _ _ hi => exact hi
  | universal r hr ho hp ht' hi => exact absurd ht ht'
  | owned n hn ht' hi => exact absurd ht ht'

theorem ident_of_owned (h : Spelled g f) (ht : ¬ f.type.isExempt) {n : String}
    (hn : g.ownerName f.owner = .ok (some n)) :
    f.ident = "fld_" ++ Naming.clean n ++ "_" ++ Naming.clean f.property := by
  cases h with
  | exempt _ ht' _ => exact absurd ht' ht
  | universal r hr ho hp _ hi =>
    rw [ho] at hn
    cases hn
  | owned n' hn' _ hi =>
    rw [hn] at hn'
    cases hn'
    exact hi

theorem ident_of_universal (h : Spelled g f) (ho : f.owner = .universal) :
    ∃ r ∈ universalRequests, f.property = r.property ∧ f.ident = universalIdent r := by
  cases h with
  | exempt hu _ _ => exact absurd ho hu
  | universal r hr _ hp _ hi => exact ⟨r, hr, hp, hi⟩
  | owned n hn _ _ =>
    rw [ho] at hn
    cases hn

theorem owned_ne_universalIdent (h : r ∈ universalRequests) (n p : String) :
    "fld_" ++ Naming.clean n ++ "_" ++ Naming.clean p ≠ universalIdent r := by
  intro he
  apply universalIdent_head r h
  rw [← he, Naming.toList_owned]
  rfl

/-- An exempt field goes by the name of a universal one only if it is called like the identifier of
the display field; under all other names they have one key. -/
theorem property_eq_displayname (ha : Apart f f') (ho' : f'.owner = .universal)
    (hp' : f'.property = r.property) (h : f.property = universalIdent r) :
    f.property = "displayname" ∧ f'.property = "display" := by
  unfold universalIdent at h
  split at h
  · next hd => exact ⟨h, hp'.trans hd⟩
  · have hk : f.key = f'.key := by rw [Field.key, Field.key, h, hp']
    exact absurd ho' (ha hk).2.1

theorem clash (hs : Spelled g f) (hs' : Spelled g f') (ha : Apart f f')
    (h : f.ident = f'.ident) : Clash g f f' ∨ Clash g f' f := by
  cases hs with
  | exempt hu ht hi =>
    rw [hi] at h
    cases hs' with
    | exempt hu' ht' hi' =>
      rw [hi'] at h
      have hk : f.key = f'.key := by rw [Field.key, Field.key, h]
      exact .inl (.exempt ht ht' (ha hk).2.2 h)
    | universal r hr ho' hp' ht' hi' =>
      rw [hi'] at h
      obtain ⟨hp, hd⟩ := property_eq_displayname ha ho' hp' h
      exact .inl (.display ht hp ho' hd)
    | owned n' hn' ht' hi' => exact .inl (.made ht ht' hn' (h.trans hi'))
  | universal r hr ho hp ht hi =>
    rw [hi] at h
    cases hs' with
    | exempt hu' ht' hi' =>
      rw [hi'] at h
      obtain ⟨hp', hd⟩ := property_eq_displayname ha.symm ho hp h.symm
      exact .inr (.display ht' hp' ho hd)
    | universal r' hr' ho' hp' ht' hi' =>
      rw [hi'] at h
      have hk : f.key = f'.key := by
        rw [Field.key, Field.key, hp, hp', universalIdent_inj r hr r' hr' h]
      exact absurd ho (ha hk).1
    | owned n' hn' ht' hi' => exact absurd (hi'.symm.trans h.symm) (owned_ne_universalIdent hr _ _)
  | owned n hn ht hi =>
    rw [hi] at h
    cases hs' with
    | exempt hu' ht' hi' => exact .inr (.made ht' ht hn (hi'.symm.trans h.symm))
    | universal r' hr' ho' hp' ht' hi' =>
      exact absurd (h.trans hi') (owned_ne_universalIdent hr' _ _)
    | owned n' hn' ht' hi' =>
      rw [hi', Naming.owned_eq_owned_iff] at h
      rcases h with ⟨hc, hp⟩ | ⟨w, hc, hp⟩ | ⟨w, hc, hp⟩
      · exact .inl (.cleaned ht ht' hn hn' hc hp)
      · exact .inl (.shifted w ht ht' hn hn' hc hp)
      · exact .inr (.shifted w ht' ht hn' hn hc hp)

end Spelled

theorem Clash.ident_eq (h : Clash g f f') (hs : Spelled g f) (hs' : Spelled g f') :
    f.ident = f'.ident := by
  cases h with
  | exempt ht ht' _ hp => rw [hs.ident_of_exempt ht, hs'.ident_of_exempt ht', hp]
  | display ht hp ho' hp' =>
    obtain ⟨r, _, hr, hi⟩ := hs'.ident_of_universal ho'
    rw [hs.ident_of_exempt ht, hp, hi, universalIdent, if_pos (hr.symm.trans hp')]
  | made ht ht' hn' hp => rw [hs.ident_of_exempt ht, hp, hs'.ident_of_owned ht' hn']
  | cleaned ht ht' hn hn' hc hp =>
    rw [hs.ident_of_owned ht hn, hs'.ident_of_owned ht' hn', hc, hp]
  | shifted w ht ht' hn hn' hc hp =>
    rw [hs.ident_of_owned ht hn, hs'.ident_of_owned ht' hn', Naming.owned_eq_owned_iff]
    exact .inr (.inl ⟨w, hc, hp⟩)

theorem spelled_of_plan (h : plan g s = .ok l) {i : Nat} (hf : l.fields[i]? = some f) :
    Spelled g f := by
  obtain ⟨r, hr, hm⟩ := getElem?_of_forall₂ (follows_of_plan h).fields hf
  exact hm.spelled (mem_of_mem_kept (List.mem_of_getElem? hr))

/-- Two fields of a plan have one identifier exactly if they clash in one of these ways. -/
theorem ident_eq_iff_clash (h : plan g s = .ok l) {i j : Nat} (hij : i ≠ j)
    (hf : l.fields[i]? = some f) (hf' : l.fields[j]? = some f') :
    f.ident = f'.ident ↔ Clash g f f' ∨ Clash g f' f := by
  have hs := spelled_of_plan h hf
  have hs' := spelled_of_plan h hf'
  have ha : Apart f f' := by
    rcases Nat.lt_or_gt_of_ne hij with hlt | hgt
    · exact (follows_of_plan h).apart hlt hf hf'
    · exact ((follows_of_plan h).apart hgt hf' hf).symm
  constructor
  · exact hs.clash hs' ha
  · rintro (hc | hc)
    · exact hc.ident_eq hs hs'
    · exact (hc.ident_eq hs' hs).symm

def dashed : Grammar where
  interfaces := [{ name := "Node" }]
  classes := [⟨"Leaf", ⟨0⟩, ⟨[("a-b", ⟨"int", false⟩), ("ab", ⟨"int", false⟩)], by simp⟩,
    .empty, .empty⟩]

theorem built_dashed : dashed.Built :=
  Grammar.WellFormed.built (by decide)

theorem plan_dashed : ∃ l f f', plan dashed .empty = .ok l ∧
    l.fields[6]? = some f ∧ l.fields[7]? = some f' ∧ f.ident = f'.ident := by
  obtain ⟨l, hl⟩ := exists_plan (g := dashed) (s := .empty) (by decide +kernel)
  have hidents : (plan dashed .empty).toOption.map (fun l =>
      (l.fields[6]?.map fun f => f.ident, l.fields[7]?.map fun f => f.ident)) =
      some (some "fld_leaf_ab", some "fld_leaf_ab") := by
    decide +kernel
  rw [hl] at hidents
  obtain ⟨h6, h7⟩ := Prod.mk.inj (Option.some.inj hidents)
  obtain ⟨f, hf, hi⟩ := Option.map_eq_some_iff.mp h6
  obtain ⟨f', hf', hi'⟩ := Option.map_eq_some_iff.mp h7
  exact ⟨l, f, f', hl, hf, hf', hi.trans hi'.symm⟩

theorem dashed_clash : ∃ l f f', plan dashed .empty = .ok l ∧
    l.fields[6]? = some f ∧ l.fields[7]? = some f' ∧ (Clash dashed f f' ∨ Clash dashed f' f) := by
  obtain ⟨l, f, f', hl, hf, hf', hi⟩ := plan_dashed
  exact ⟨l, f, f', hl, hf, hf', (ident_eq_iff_clash hl (by decide) hf hf').mp hi⟩

/-- Identifiers are not always different. -/
theorem not_all_idents_distinct :
    ¬ ∀ g s l, g.Built → plan g s = .ok l → ∀ (i j : Nat) (f f' : Field), i ≠ j →
      l.fields[i]? = some f → l.fields[j]? = some f' → f.ident ≠ f'.ident := by
  intro h
  obtain ⟨l, f, f', hl, hf, hf', hi⟩ := plan_dashed
  exact h _ _ _ built_dashed hl 6 7 f f' (by decide) hf hf' hi

end Layout
end GrammarLayout
