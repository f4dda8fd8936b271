import GrammarLayout.Proofs.Spelling.Skipped

/-!
# Spellings of records

A record may be written as an object, with its fields in any order and other members between them,
or as an array of its fields. Fields may be left away if the record has the value that they have
then. Every such text is read back as the record.
-/

namespace GrammarLayout.Json

variable {σ α : Type} {a : α} {tok : List Char} {toks : List (List Char)}
  {ms : List (List Char × List Char)} {names : List String}

structure WrittenField (α : Type) where
  name : String
  /-- The token is the value that the record has in the field. -/
  spells : α → List Char → Prop
  /-- The record has the value that stands for a field left away. -/
  optional : α → Prop

/-- The tokens of the array form: fields in their order, of which those at the end may be left
away. -/
inductive SpellsFields (a : α) : List (WrittenField α) → List (List Char) → Prop
  | done {fields : List (WrittenField α)} : (∀ f ∈ fields, f.optional a) → SpellsFields a fields []
  | field {f : WrittenField α} {fields : List (WrittenField α)} {tok : List Char}
      {toks : List (List Char)} : f.spells a tok → SpellsFields a fields toks →
      SpellsFields a (f :: fields) (tok :: toks)

/-- The members of the object form: fields in any order, each at most once, and members with other
keys. The names are those of the fields that are written. -/
inductive SpellsMembers (fields : List (WrittenField α)) (a : α) :
    List String → List (List Char × List Char) → Prop
  | nil : SpellsMembers fields a [] []
  | field {f : WrittenField α} {k tok : List Char} {names : List String}
      {ms : List (List Char × List Char)} : f ∈ fields → f.name ∉ names → SpellsText f.name k →
      f.spells a tok → SpellsMembers fields a names ms →
      SpellsMembers fields a (f.name :: names) ((k, tok) :: ms)
  | other {key : String} {k tok : List Char} {names : List String}
      {ms : List (List Char × List Char)} : (∀ f ∈ fields, f.name ≠ key) → SpellsText key k →
      WellFormed tok → SpellsMembers fields a names ms →
      SpellsMembers fields a names ((k, tok) :: ms)

/-- The token is the record in one of its two forms. -/
inductive SpellsRecord (fields : List (WrittenField α)) (a : α) (tok : List Char) : Prop
  | array {toks : List (List Char)} : SpellsFields a fields toks → ArrayText toks tok →
      SpellsRecord fields a tok
  | object {names : List String} {ms : List (List Char × List Char)} :
      SpellsMembers fields a names ms → ObjectText ms tok →
      (∀ f ∈ fields, f.name ∉ names → f.optional a) → SpellsRecord fields a tok

/-- The shape of a field reads it as it is written. The states are those that have got some fields
of a record, by their names. -/
structure FieldShape.Fits (state : α → List String → σ) (f : WrittenField α)
    (s : FieldShape σ) : Prop where
  name_eq : s.name = f.name
  given_eq : ∀ a names, s.given (state a names) = decide (f.name ∈ names)
  reads : ∀ a names tok, f.spells a tok →
    (s.read (state a names)).Reads tok (state a (f.name :: names))

theorem exists_of_mem_right {β γ : Type} {R : β → γ → Prop} {bs : List β} {cs : List γ}
    (h : List.Forall₂ R bs cs) : ∀ c ∈ cs, ∃ b ∈ bs, R b c := by
  induction h with
  | nil => exact nofun
  | cons hr _ ih =>
    intro c hc
    rcases List.mem_cons.mp hc with rfl | hc
    · exact ⟨_, List.mem_cons_self, hr⟩
    · obtain ⟨b, hb, hr⟩ := ih c hc
      exact ⟨b, List.mem_cons_of_mem _ hb, hr⟩

theorem find?_name_eq {state : α → List String → σ} {f : WrittenField α}
    {fs : List (WrittenField α)} {ss : List (FieldShape σ)}
    (h : List.Forall₂ (FieldShape.Fits state) fs ss) (hnodup : (fs.map WrittenField.name).Nodup)
    (hf : f ∈ fs) : ∃ s, ss.find? (fun s => s.name = f.name) = some s ∧ s.Fits state f := by
  induction h with
  | nil => cases hf
  | @cons f' s _ _ hfits _ ih =>
    obtain ⟨hnew, hnodup⟩ := List.nodup_cons.mp hnodup
    rcases List.mem_cons.mp hf with rfl | hf
    · exact ⟨s, by simp [hfits.name_eq], hfits⟩
    · have hne : s.name ≠ f.name := by
        rw [hfits.name_eq]
        exact fun heq => hnew (heq ▸ List.mem_map_of_mem hf)
      rw [List.find?_cons_of_neg (by simpa using hne)]
      exact ih hnodup hf

/-- The shape reads the fields as they are written, in any order, and builds the record from those
that are not left away. -/
structure RecordShape.Fits (shape : RecordShape σ α) (fields : List (WrittenField α))
    (state : α → List String → σ) : Prop where
  nodup : (fields.map WrittenField.name).Nodup
  blank : ∀ a, state a [] = shape.blank
  shapes : List.Forall₂ (FieldShape.Fits state) fields shape.fields
  build : ∀ a names, (∀ f ∈ fields, f.name ∉ names → f.optional a) →
    shape.build (state a names) = .ok a

namespace RecordShape.Fits

variable {shape : RecordShape σ α} {fields : List (WrittenField α)} {state : α → List String → σ}
  {f : WrittenField α}
  (h : shape.Fits fields state)
include h

theorem exists_written {s : FieldShape σ} (hs : s ∈ shape.fields) :
    ∃ f ∈ fields, s.Fits state f :=
  exists_of_mem_right h.shapes s hs

theorem given_eq {s : FieldShape σ} (hs : s ∈ shape.fields) (a : α) (names : List String) :
    s.given (state a names) = decide (s.name ∈ names) := by
  obtain ⟨f, _, hfits⟩ := h.exists_written hs
  rw [hfits.given_eq, hfits.name_eq]

/-- The next field of the array form is the first that the state has not got. -/
theorem element_eq {s : FieldShape σ} {before after : List (FieldShape σ)}
    (hfields : shape.fields = before ++ s :: after) (hbefore : ∀ x ∈ before, x.name ∈ names)
    (hs : s.name ∉ names) : shape.element (state a names) = some (s.read (state a names)) := by
  have hgiven : ∀ x ∈ before, x.given (state a names) := by
    intro x hx
    rw [h.given_eq (by simp [hfields, hx]), decide_eq_true (hbefore x hx)]
  have hnot : s.given (state a names) = false := by
    rw [h.given_eq (by simp [hfields]), decide_eq_false hs]
  have hnone : before.find? (fun f => !f.given (state a names)) = none := by
    simpa using hgiven
  rw [RecordShape.element, hfields, List.find?_append, hnone]
  simp [hnot]

/-- The array form leads to a state that has got all fields but optional ones at the end. -/
theorem readsElements {before after : List (FieldShape σ)} {rest : List (WrittenField α)}
    (hfields : shape.fields = before ++ after)
    (hafter : List.Forall₂ (FieldShape.Fits state) rest after)
    (hbefore : ∀ x ∈ before, x.name ∈ names) (hrest : ∀ f ∈ rest, f.name ∉ names)
    (hnodup : (rest.map WrittenField.name).Nodup) (htoks : SpellsFields a rest toks) :
    ∃ names', ReadsElements shape.element (state a names) toks (state a names') ∧
      (∀ n ∈ names, n ∈ names') ∧ ∀ f ∈ rest, f.name ∉ names' → f.optional a := by
  -- The state has got the fields before the next one and none from it on; with distinct names,
  -- reading that field keeps both.
  induction htoks generalizing before after names with
  | done hoptional => exact ⟨names, .nil, fun _ hn => hn, fun f hf _ => hoptional f hf⟩
  | @field f rest tok toks htok _ ih =>
    cases hafter with
    | @cons _ s _ after hs hafter =>
      obtain ⟨hf, hnodup⟩ := List.nodup_cons.mp hnodup
      have hnew : s.name ∉ names := hs.name_eq ▸ hrest f List.mem_cons_self
      have hgot : ∀ x ∈ before ++ [s], x.name ∈ f.name :: names := by
        intro x hx
        rcases List.mem_append.mp hx with hx | hx
        · exact List.mem_cons_of_mem _ (hbefore x hx)
        · rw [List.mem_singleton.mp hx, hs.name_eq]
          exact List.mem_cons_self
      have hcome : ∀ f' ∈ rest, f'.name ∉ f.name :: names := by
        intro f' hf' hmem
        rcases List.mem_cons.mp hmem with heq | hmem
        · exact hf (heq ▸ List.mem_map_of_mem hf')
        · exact hrest f' (List.mem_cons_of_mem _ hf') hmem
      obtain ⟨names', hreads, hkeep, hoptional⟩ :=
        ih (by rw [hfields, List.append_cons]) hafter hgot hcome hnodup
      refine ⟨names', .cons (h.element_eq hfields hbefore hnew) (hs.reads a names tok htok) hreads,
        fun n hn => hkeep n (List.mem_cons_of_mem _ hn), fun f' hf' hmem => ?_⟩
      rcases List.mem_cons.mp hf' with rfl | hf'
      · exact absurd (hkeep _ List.mem_cons_self) hmem
      · exact hoptional f' hf' hmem

theorem member_eq (hf : f ∈ fields) (hnew : f.name ∉ names) :
    ∃ s : FieldShape σ, s.Fits state f ∧
      shape.member (state a names) f.name = .ok (s.read (state a names)) := by
  obtain ⟨s, hs, hfits⟩ := find?_name_eq h.shapes h.nodup hf
  have hgiven : s.given (state a names) = false := by
    rw [hfits.given_eq, decide_eq_false hnew]
  refine ⟨s, hfits, ?_⟩
  rw [RecordShape.member, hs]
  simp [hgiven]

theorem member_other {key : String} (hkey : ∀ f ∈ fields, f.name ≠ key) :
    shape.member (state a names) key = .ok (skip.map fun _ => state a names) := by
  have hnone : shape.fields.find? (fun s => s.name = key) = none := by
    simp only [List.find?_eq_none, decide_eq_true_eq]
    intro s hs
    obtain ⟨f, hf, hfits⟩ := h.exists_written hs
    rw [hfits.name_eq]
    exact hkey f hf
  rw [RecordShape.member, hnone]

/-- The object form leads to a state that has got the fields that are written. -/
theorem readsMembers {written : List String} (hms : SpellsMembers fields a written ms)
    (hnew : ∀ n ∈ written, n ∉ names) :
    ∃ names', ReadsMembers shape.member (state a names) ms (state a names') ∧
      (∀ n ∈ names, n ∈ names') ∧ ∀ n ∈ written, n ∈ names' := by
  induction hms generalizing names with
  | nil => exact ⟨names, .nil, fun _ hn => hn, nofun⟩
  | @field f k tok written ms hf hfresh hkey htok _ ih =>
    obtain ⟨s, hfits, hmember⟩ := h.member_eq hf (hnew f.name List.mem_cons_self)
    have hlater : ∀ n ∈ written, n ∉ f.name :: names := by
      intro n hn hmem
      rcases List.mem_cons.mp hmem with rfl | hmem
      · exact hfresh hn
      · exact hnew n (List.mem_cons_of_mem _ hn) hmem
    obtain ⟨names', hreads, hkeep, hwritten⟩ := ih hlater
    refine ⟨names', .cons hkey hmember (hfits.reads a names tok htok) hreads,
      fun n hn => hkeep n (List.mem_cons_of_mem _ hn), fun n hn => ?_⟩
    rcases List.mem_cons.mp hn with rfl | hn
    · exact hkeep _ List.mem_cons_self
    · exact hwritten n hn
  | other hother hkey hvalue _ ih =>
    obtain ⟨names', hreads, hkeep, hwritten⟩ := ih hnew
    exact ⟨names', .cons hkey (h.member_other hother)
      ((skip_reads hvalue).map fun _ => state a names) hreads, hkeep, hwritten⟩

theorem reads (hrecord : SpellsRecord fields a tok) : shape.read.Reads tok a := by
  cases hrecord with
  | array hfields htext =>
    obtain ⟨names, hreads, -, hoptional⟩ := h.readsElements (List.nil_append _).symm h.shapes nofun
      (fun _ _ => List.not_mem_nil) h.nodup hfields
    rw [h.blank] at hreads
    refine htext.reads hreads fun t u rest hd ⟨hl, he⟩ => ?_
    refine ⟨Nat.lt_trans hl (length_lt_of_dropBlank hd), ?_⟩
    unfold RecordShape.read
    split
    · next h' =>
      cases hd.symm.trans h'
      simp only [bind, Except.bind, he, h.build a names hoptional]
      rfl
    · next h' => cases hd.symm.trans h'
    · next h' _ => exact absurd hd (h' _)
  | object hmembers htext hoptional =>
    obtain ⟨names, hreads, -, hwritten⟩ := h.readsMembers hmembers fun _ _ => List.not_mem_nil
    have hbuild := h.build a names fun f hf hmem =>
      hoptional f hf fun hn => hmem (hwritten _ hn)
    rw [h.blank] at hreads
    refine htext.reads hreads fun t u rest hd ⟨hl, he⟩ => ?_
    refine ⟨Nat.lt_trans hl (length_lt_of_dropBlank hd), ?_⟩
    unfold RecordShape.read
    split
    · next h' => cases hd.symm.trans h'
    · next h' =>
      cases hd.symm.trans h'
      simp only [bind, Except.bind, he, hbuild]
      rfl
    · next h' => exact absurd hd (h' _)

end RecordShape.Fits

theorem exists_spellsRecord {fields : List (WrittenField α)}
    (h : ∀ f ∈ fields, ∃ tok, f.spells a tok) : ∃ tok, SpellsRecord fields a tok := by
  have hfields : ∃ toks, SpellsFields a fields toks := by
    induction fields with
    | nil => exact ⟨[], .done nofun⟩
    | cons f fields ih =>
      obtain ⟨tok, htok⟩ := h f List.mem_cons_self
      obtain ⟨toks, htoks⟩ := ih fun f hf => h f (List.mem_cons_of_mem _ hf)
      exact ⟨tok :: toks, .field htok htoks⟩
  obtain ⟨toks, htoks⟩ := hfields
  obtain ⟨t, ht⟩ := exists_items ']' toks
  exact ⟨_, .array htoks ⟨t, ht, rfl⟩⟩

-- A state with a part for each field has the values of those fields that have been read.

section parts

variable {β : Type} {b : β} {name : String}

/-- The value of a field, if it is among those that have been read. -/
def got (names : List String) (name : String) (b : β) : Option β :=
  if name ∈ names then some b else none

theorem got_of_mem (h : name ∈ names) (b : β) : got names name b = some b := if_pos h

theorem isSome_got (names : List String) (name : String) (b : β) :
    (got names name b).isSome = decide (name ∈ names) := by
  unfold got
  split <;> simp_all

theorem getD_got {default : β} (h : name ∉ names → b = default) :
    (got names name b).getD default = b := by
  unfold got
  split
  · rfl
  · next hn => exact (h hn).symm

/-- A field fits whose value is kept in a part of its own. -/
theorem FieldShape.fits_of_part {state : α → List String → σ} {f : WrittenField α}
    {get : σ → Option β} {set : σ → β → σ} {read : Reader β} (value : α → β)
    (hname : name = f.name) (hget : ∀ a names, get (state a names) = got names name (value a))
    (hset : ∀ a names, set (state a names) (value a) = state a (name :: names))
    (hread : ∀ a tok, f.spells a tok → read.Reads tok (value a)) :
    FieldShape.Fits state f ⟨name, fun p => (get p).isSome, fun p => read.map (set p)⟩ where
  name_eq := hname
  given_eq a names := by
    change (get (state a names)).isSome = _
    rw [hget, isSome_got, hname]
  reads a names tok h := by
    rw [← hname, ← hset]
    exact (hread a tok h).map (set (state a names))

end parts

end GrammarLayout.Json
