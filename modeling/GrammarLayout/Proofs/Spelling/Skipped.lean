import GrammarLayout.Json.Skip
import GrammarLayout.Proofs.Spelling.Container
import GrammarLayout.Proofs.Spelling.Numeral

/-!
# Values that are passed over

A value that nobody asked for may be any well-formed text, nested to any depth. The machine that
passes over it keeps a stack of open containers; at any depth it comes out right behind the value.
-/

namespace GrammarLayout.Json

variable {ws t u rest tok : List Char} {toks : List (List Char)} {stack : List Frame}
  {frame : Frame}

/-- The texts of the grammar. In strings that are not needed, escaped code units may be any. -/
inductive WellFormed : List Char → Prop
  | null : WellFormed ['n', 'u', 'l', 'l']
  | true : WellFormed ['t', 'r', 'u', 'e']
  | false : WellFormed ['f', 'a', 'l', 's', 'e']
  | number {x : Numeral} {tok : List Char} : x.Spells tok → WellFormed tok
  | string {tok : List Char} : Passable tok → WellFormed tok
  | array {toks : List (List Char)} {tok : List Char} : (∀ u ∈ toks, WellFormed u) →
      ArrayText toks tok → WellFormed tok
  | object {ms : List (List Char × List Char)} {tok : List Char} : (∀ m ∈ ms, Passable m.1) →
      (∀ m ∈ ms, WellFormed m.2) → ObjectText ms tok → WellFormed tok

theorem Frame.isDelimiter_close (frame : Frame) : isDelimiter frame.close := by
  cases frame <;> rfl

theorem Frame.isBlank_close (frame : Frame) : isBlank frame.close = false := by
  cases frame <;> rfl

/-- Passing over the rest of the containers that are open after a step comes to `rest`. -/
def Ends {text : List Char} (p : Parsed (List Frame) text) (rest : List Char) : Prop :=
  p.value = [] ∧ p.rest = rest ∨
    p.value ≠ [] ∧ Reader.Takes (skipWithin p.value) p.rest () rest

/-- After a complete value within the stack, passing over `t` comes to `rest`. -/
def Resumes (stack : List Frame) (t rest : List Char) : Prop :=
  ∀ ⦃text : List Char⦄ (p : Parsed Unit text), p.rest = t →
    ∃ q, leave stack p = .ok q ∧ Ends q rest

/-- The token is passed over within any stack, and what is behind it decides where this ends. -/
def Skips (tok : List Char) : Prop :=
  Starts tok ∧ ∀ ⦃stack : List Frame⦄ ⦃ws t rest : List Char⦄, Blanks ws → Delimited t →
    Resumes stack t rest → Reader.Takes (skipWithin stack) (ws ++ (tok ++ t)) () rest

theorem skipWithin_takes {p : Parsed (List Frame) t} (h : skipStep stack t = .ok p)
    (hp : Ends p rest) : Reader.Takes (skipWithin stack) t () rest := by
  obtain ⟨hv, rfl⟩ | ⟨hv, hl, hs⟩ := hp
  · refine ⟨p.shorter, ?_⟩
    rw [skipWithin, h]
    simp only [bind, Except.bind, if_pos hv]
    rfl
  · refine ⟨Nat.lt_trans hl p.shorter, ?_⟩
    rw [skipWithin, h]
    simp only [bind, Except.bind, if_neg hv, hs]
    rfl

theorem resumes_nil (t : List Char) : Resumes [] t t :=
  fun _ _ hp => ⟨_, rfl, .inl ⟨rfl, hp⟩⟩

theorem resumes_close {outer : List Frame} (hws : Blanks ws) (h : Resumes outer t rest) :
    Resumes (frame :: outer) (ws ++ frame.close :: t) rest := by
  intro text p hp
  have hd : dropBlank p.rest = frame.close :: t := by
    rw [hp, dropBlank_mark hws frame.isBlank_close]
  obtain ⟨q, hq, hend⟩ := h ⟨(), t, Nat.lt_trans (length_lt_of_dropBlank hd) p.shorter⟩ rfl
  refine ⟨q, ?_, hend⟩
  rw [leave]
  split
  · next h => cases hd.symm.trans h
  · next h =>
    cases hd.symm.trans h
    rw [if_neg (by cases frame <;> decide), if_pos rfl]
    exact hq

/-- In front of the item of a container, whatever goes before the value in it is passed over. -/
structure Enters (frame : Frame) (item tok : List Char) : Prop where
  starts : Starts item
  enter : ∀ ⦃text ws t : List Char⦄ (p : Parsed Unit text), Blanks ws → p.rest = ws ++ (item ++ t) →
    ∃ q ws', enter frame p = .ok q ∧ Blanks ws' ∧ q.rest = ws' ++ (tok ++ t)

theorem enters_array (h : Starts tok) : Enters .array tok tok :=
  ⟨h, fun _ ws _ p hws hp => ⟨p, ws, rfl, hws, hp⟩⟩

theorem Passable.starts (h : Passable tok) : Starts tok := by
  obtain ⟨u, -, rfl⟩ := h
  exact ⟨'"', _, rfl, rfl⟩

theorem skipKey_takes {key ws' : List Char} (hkey : Passable key) (hws : Blanks ws)
    (hws' : Blanks ws') (t : List Char) :
    skipKey.Takes (ws ++ (key ++ (ws' ++ ':' :: t))) () t := by
  obtain ⟨u, hu, rfl⟩ := hkey
  have hd : dropBlank (ws ++ (('"' :: (u ++ ['"'])) ++ (ws' ++ ':' :: t))) =
      '"' :: (u ++ '"' :: (ws' ++ ':' :: t)) := by
    simp [dropBlank_mark hws (c := '"') rfl]
  have hc := dropBlank_mark hws' (c := ':') rfl t
  obtain ⟨hl, hk⟩ := hu.takes (ws' ++ ':' :: t)
  refine ⟨Nat.lt_trans (length_lt_of_dropBlank hc)
    (Nat.lt_trans hl (length_lt_of_dropBlank hd)), ?_⟩
  unfold skipKey
  split <;> rename_i h
  · cases hd.symm.trans h
  · cases hd.symm.trans h
    simp only [bind, Except.bind, hk]
    split <;> rename_i h
    · cases hc.symm.trans h
    · cases hc.symm.trans h
      rfl
    · exact absurd hc (h _)
  · exact absurd hd (h _)

theorem enters_object {key item : List Char} (hkey : Passable key)
    (h : MemberText (key, tok) item) : Enters .object item tok := by
  cases h with
  | @colon _ ws₁ ws₂ _ h₁ h₂ =>
    refine ⟨hkey.starts.append _, fun text ws t p hws hp => ?_⟩
    have hp' : p.rest = ws ++ (key ++ (ws₁ ++ ':' :: (ws₂ ++ (tok ++ t)))) := by
      simpa using hp
    have hs : skipKey.Takes p.rest () (ws₂ ++ (tok ++ t)) := by
      rw [hp']
      exact skipKey_takes hkey hws h₁ _
    obtain ⟨hl, hs⟩ := hs
    refine ⟨⟨(), ws₂ ++ (tok ++ t), Nat.lt_trans hl p.shorter⟩, ws₂, ?_, h₂, rfl⟩
    simp only [Json.enter, hs]
    rfl

theorem enters_members {ms : List (List Char × List Char)} {items : List (List Char)}
    (h : List.Forall₂ MemberText ms items) (hkeys : ∀ m ∈ ms, Passable m.1) :
    List.Forall₂ (Enters .object) items (ms.map Prod.snd) := by
  induction h with
  | nil => exact .nil
  | cons hm _ ih =>
    exact .cons (enters_object (hkeys _ List.mem_cons_self) hm)
      (ih fun m h => hkeys m (List.mem_cons_of_mem _ h))

theorem resumes_item {item : List Char} {ws' : List Char} {frames : List Frame}
    (hitem : Enters frame item tok) (htok : Skips tok) (hws : Blanks ws) (hws' : Blanks ws')
    (ht : Delimited t) (h : Resumes (frame :: frames) t rest) :
    Resumes (frame :: frames) (ws ++ ',' :: (ws' ++ (item ++ t))) rest := by
  intro text p hp
  have hd : dropBlank p.rest = ',' :: (ws' ++ (item ++ t)) := by
    rw [hp, dropBlank_mark hws rfl]
  obtain ⟨q, ws'', hq, hws'', hrest⟩ := hitem.enter
    ⟨(), ws' ++ (item ++ t), Nat.lt_trans (length_lt_of_dropBlank hd) p.shorter⟩ hws' rfl
  refine ⟨q.map fun _ => frame :: frames, ?_, .inr ⟨nofun, ?_⟩⟩
  · rw [leave]
    split
    · next h => cases hd.symm.trans h
    · next h =>
      cases hd.symm.trans h
      rw [if_pos rfl, hq]
      rfl
  · simp only [Parsed.map, hrest]
    exact htok.2 hws'' ht h

theorem resumes_items {items : List (List Char)} (h : ItemsTail frame.close items t)
    (hitems : List.Forall₂ (Enters frame) items toks) (htoks : ∀ tok ∈ toks, Skips tok)
    (hu : Resumes stack u rest) : Resumes (frame :: stack) (t ++ u) rest := by
  induction h generalizing toks with
  | close hws =>
    rw [List.append_assoc]
    exact resumes_close hws hu
  | @item ws ws' item t items hws hws' htail ih =>
    cases hitems with
    | cons hitem hitems =>
      simp only [List.append_assoc, List.cons_append]
      exact resumes_item hitem (htoks _ List.mem_cons_self) hws hws'
        (htail.delimited frame.isDelimiter_close u)
        (ih hitems fun tok h => htoks tok (List.mem_cons_of_mem _ h))

theorem skipStep_empty {c : Char} {r : List Char} (ht : dropBlank t = c :: r)
    (hopen : opens? c = some frame) (hr : dropBlank r = frame.close :: u) :
    ∃ hl, skipStep stack t = leave stack ⟨(), u, hl⟩ := by
  refine ⟨Nat.lt_trans (length_lt_of_dropBlank hr) (length_lt_of_dropBlank ht), ?_⟩
  unfold skipStep
  split <;> rename_i h <;> cases ht.symm.trans h
  simp only [hopen]
  split <;> rename_i h <;> cases hr.symm.trans h
  rw [if_pos rfl]

theorem skipStep_open {c d : Char} {r : List Char} (ht : dropBlank t = c :: r)
    (hopen : opens? c = some frame) (hr : dropBlank r = d :: u) (hd : d ≠ frame.close) :
    ∃ hl, skipStep stack t =
      (enter frame ⟨(), r, hl⟩).map (Parsed.map fun _ => frame :: stack) := by
  refine ⟨length_lt_of_dropBlank ht, ?_⟩
  unfold skipStep
  split <;> rename_i h <;> cases ht.symm.trans h
  simp only [hopen]
  split <;> rename_i h <;> cases hr.symm.trans h
  rw [if_neg hd]

theorem skips_container {c : Char} {items : List (List Char)} (hopen : opens? c = some frame)
    (h : Items frame.close items t) (hitems : List.Forall₂ (Enters frame) items toks)
    (htoks : ∀ tok ∈ toks, Skips tok) : Skips (c :: t) := by
  -- Behind the bracket, an empty container is left at once. Any other is entered, and its first
  -- item has no comma before it, so only what is behind that item falls under `resumes_items`.
  have hc : isDelimiter c = false := by
    unfold opens? at hopen
    split at hopen <;> cases hopen <;> rfl
  refine ⟨⟨c, t, rfl, hc⟩, fun stack ws u rest hws hu hresume => ?_⟩
  have hd : dropBlank (ws ++ (c :: t ++ u)) = c :: (t ++ u) :=
    dropBlank_mark hws (isBlank_of_not_delimiter hc) _
  cases h with
  | @close ws' hws' =>
    have hr : dropBlank (ws' ++ [frame.close] ++ u) = frame.close :: u := by
      rw [List.append_assoc, List.singleton_append, dropBlank_mark hws' frame.isBlank_close]
    obtain ⟨hl, hstep⟩ := skipStep_empty hd hopen hr
    obtain ⟨q, hq, hend⟩ := hresume ⟨(), u, hl⟩ rfl
    exact skipWithin_takes (hstep.trans hq) hend
  | @item ws' item t items hws' htail =>
    cases hitems with
    | @cons _ tok _ toks hitem hitems =>
      obtain ⟨d, v, hv, hdelim⟩ := hitem.starts
      have hr : dropBlank (ws' ++ (item ++ t) ++ u) = d :: (v ++ (t ++ u)) := by
        rw [List.append_assoc, List.append_assoc, hv, List.cons_append,
          dropBlank_mark hws' (isBlank_of_not_delimiter hdelim)]
      have hne : d ≠ frame.close := by
        rintro rfl
        rw [frame.isDelimiter_close] at hdelim
        cases hdelim
      obtain ⟨hl, hstep⟩ := skipStep_open hd hopen hr hne
      have hassoc : ws' ++ (item ++ t) ++ u = ws' ++ (item ++ (t ++ u)) := by
        simp only [List.append_assoc]
      obtain ⟨q, ws'', hq, hws'', hrest⟩ := hitem.enter ⟨(), _, hl⟩ hws' hassoc
      rw [hq] at hstep
      refine skipWithin_takes hstep (.inr ⟨nofun, ?_⟩)
      simp only [Parsed.map, hrest]
      exact (htoks tok List.mem_cons_self).2 hws'' (htail.delimited frame.isDelimiter_close u)
        (resumes_items htail hitems (fun tok h => htoks tok (List.mem_cons_of_mem _ h)) hresume)

theorem skipStep_scalar (stack : List Frame) {c : Char} {r : List Char} (ht : dropBlank t = c :: r)
    (hopen : opens? c = none) (h : skipScalar.Takes (c :: r) () u) :
    ∃ hl, skipStep stack t = leave stack ⟨(), u, hl⟩ := by
  obtain ⟨hl, h⟩ := h
  refine ⟨Nat.lt_of_lt_of_le hl (length_lt_of_dropBlank ht), ?_⟩
  unfold skipStep
  split <;> rename_i h' <;> cases ht.symm.trans h'
  simp only [hopen, h, bind, Except.bind]
  rfl

theorem skips_scalar {c : Char} (hc : isDelimiter c = false) (hopen : opens? c = none)
    (h : ∀ u, Delimited u → skipScalar.Takes (c :: (t ++ u)) () u) : Skips (c :: t) := by
  refine ⟨⟨c, t, rfl, hc⟩, fun stack ws u rest hws hu hresume => ?_⟩
  have hd : dropBlank (ws ++ (c :: t ++ u)) = c :: (t ++ u) :=
    dropBlank_mark hws (isBlank_of_not_delimiter hc) _
  obtain ⟨hl, hstep⟩ := skipStep_scalar stack hd hopen (h u hu)
  obtain ⟨q, hq, hend⟩ := hresume ⟨(), u, hl⟩ rfl
  exact skipWithin_takes (hstep.trans hq) hend

theorem skips_string (h : Passable tok) : Skips tok := by
  obtain ⟨u, hu, rfl⟩ := h
  refine skips_scalar rfl rfl fun t _ => ?_
  obtain ⟨hl, h⟩ := hu.takes t
  rw [List.append_assoc]
  refine ⟨Nat.lt_succ_of_lt hl, ?_⟩
  simp only [skipScalar, List.singleton_append, h]
  rfl

theorem skipScalar_number {c : Char} (hc : c = '-' ∨ c.isDigit) (t : List Char) :
    skipScalar (c :: t) =
      (Numeral.read .invalidNumber (c :: t)).map (Parsed.map fun _ => ()) := by
  rw [skipScalar, if_pos hc] <;> exact ne_of_numeralHead hc (by decide)

theorem skips_number {x : Numeral} (h : x.Spells tok) : Skips tok := by
  obtain ⟨c, t, rfl, hc⟩ := h.exists_head
  obtain ⟨_, _, heq, hdelim⟩ := h.starts
  cases heq
  have hopen : opens? c = none := by
    rw [opens?] <;> exact ne_of_numeralHead hc (by decide)
  refine skips_scalar hdelim hopen fun u hu => ?_
  obtain ⟨hl, h⟩ := h.takes .invalidNumber hu
  refine ⟨hl, (skipScalar_number hc (t ++ u)).trans ?_⟩
  rw [show Numeral.read .invalidNumber (c :: (t ++ u)) = _ from h]
  rfl

theorem WellFormed.skips (h : WellFormed tok) : Skips tok := by
  induction h with
  | null => exact skips_scalar rfl rfl fun u _ => literal_takes 'n' ['u', 'l', 'l'] () u
  | true => exact skips_scalar rfl rfl fun u _ => literal_takes 't' ['r', 'u', 'e'] () u
  | false => exact skips_scalar rfl rfl fun u _ => literal_takes 'f' ['a', 'l', 's', 'e'] () u
  | number h => exact skips_number h
  | string h => exact skips_string h
  | array _ htext ih =>
    obtain ⟨t, ht, rfl⟩ := htext
    have hitems : List.Forall₂ (Enters .array) _ _ :=
      List.forall₂_same.mpr fun tok h => enters_array (ih tok h).1
    exact skips_container rfl ht hitems ih
  | @object ms _ hkeys _ htext ih =>
    obtain ⟨items, t, hms, ht, rfl⟩ := htext
    refine skips_container rfl ht (enters_members hms hkeys) fun tok h => ?_
    obtain ⟨m, hm, rfl⟩ := List.mem_map.mp h
    exact ih m hm

theorem skip_reads (h : WellFormed tok) : skip.Reads tok () :=
  ⟨h.skips.1, fun _ rest hws hrest => h.skips.2 hws hrest (resumes_nil rest)⟩

end GrammarLayout.Json
