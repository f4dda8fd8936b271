import GrammarLayout.Json.Record
import GrammarLayout.Proofs.Spelling.Text

/-!
# Spellings of arrays and objects

The text of a container is that of its items, with commas and blanks between them. If each item's
reader takes its part, one state after the other, then the container's reader takes the whole. So
lists and maps are read back from their spellings.
-/

namespace GrammarLayout.Json

variable {σ α : Type} {s s' : σ} {c close : Char} {ws t rest tok : List Char}
  {toks : List (List Char)} {ms : List (List Char × List Char)}

/-! ## Texts -/

/-- What comes behind an item of a container: the other items, each behind a comma, and the mark
that closes the container. -/
inductive ItemsTail (close : Char) : List (List Char) → List Char → Prop
  | close {ws : List Char} : Blanks ws → ItemsTail close [] (ws ++ [close])
  | item {ws ws' tok t : List Char} {toks : List (List Char)} : Blanks ws → Blanks ws' →
      ItemsTail close toks t → ItemsTail close (tok :: toks) (ws ++ ',' :: (ws' ++ (tok ++ t)))

/-- What comes behind the mark that opens a container. -/
inductive Items (close : Char) : List (List Char) → List Char → Prop
  | close {ws : List Char} : Blanks ws → Items close [] (ws ++ [close])
  | item {ws tok t : List Char} {toks : List (List Char)} : Blanks ws → ItemsTail close toks t →
      Items close (tok :: toks) (ws ++ (tok ++ t))

def ArrayText (toks : List (List Char)) (tok : List Char) : Prop :=
  ∃ t, Items ']' toks t ∧ tok = '[' :: t

inductive MemberText : List Char × List Char → List Char → Prop
  | colon {key ws ws' tok : List Char} : Blanks ws → Blanks ws' →
      MemberText (key, tok) (key ++ (ws ++ ':' :: (ws' ++ tok)))

def ObjectText (ms : List (List Char × List Char)) (tok : List Char) : Prop :=
  ∃ toks t, List.Forall₂ MemberText ms toks ∧ Items '\x7d' toks t ∧ tok = '{' :: t

theorem dropBlank_mark (hws : Blanks ws) (hc : isBlank c = false) (t : List Char) :
    dropBlank (ws ++ c :: t) = c :: t := by
  rw [dropBlank_append hws, dropBlank_cons hc]

theorem ItemsTail.delimited (h : ItemsTail close toks t) (hclose : isDelimiter close)
    (rest : List Char) : Delimited (t ++ rest) := by
  cases h with
  | close hws =>
    rw [List.append_assoc]
    exact delimited_append hws (delimited_cons hclose rest)
  | item hws =>
    rw [List.append_assoc]
    exact delimited_append hws (delimited_cons rfl _)

/-! ## Arrays -/

inductive ReadsElements (item : σ → Option (Reader σ)) : σ → List (List Char) → σ → Prop
  | nil {s : σ} : ReadsElements item s [] s
  | cons {s s' s'' : σ} {read : Reader σ} {tok : List Char} {toks : List (List Char)} :
      item s = some read → read.Reads tok s' → ReadsElements item s' toks s'' →
      ReadsElements item s (tok :: toks) s''

theorem closeArray_takes (hws : Blanks ws) (s : σ) (rest : List Char) :
    (closeArray s).Takes (ws ++ ']' :: rest) s rest := by
  have hd := dropBlank_mark hws (c := ']') rfl rest
  refine ⟨length_lt_of_dropBlank hd, ?_⟩
  unfold closeArray
  split
  · next h => cases hd.symm.trans h
  · next r h =>
    cases hd.symm.trans h
    rfl
  · next h => cases hd.symm.trans h
  · next h _ => exact absurd hd (h rest)

theorem nextElement_close (hws : Blanks ws) (rest : List Char) :
    nextElement (ws ++ ']' :: rest) = .ok none := by
  rw [nextElement, dropBlank_mark hws rfl]
  rfl

theorem nextElement_item {ws' : List Char} (hws : Blanks ws) (hws' : Blanks ws')
    (ht : Starts t) : nextElement (ws ++ ',' :: (ws' ++ t)) = .ok (some t) := by
  obtain ⟨c, t, rfl, hc⟩ := ht
  rw [nextElement, dropBlank_mark hws rfl]
  simp only [dropBlank_mark hws' (isBlank_of_not_delimiter hc)]
  split
  · next heq => cases heq
  · next heq => cases heq; cases hc
  · rfl

theorem moreElements_close {item : σ → Option (Reader σ)} (hws : Blanks ws) (s : σ)
    (rest : List Char) : Reader.Takes (moreElements item s) (ws ++ ']' :: rest) s rest := by
  obtain ⟨hl, hc⟩ := closeArray_takes hws s rest
  refine ⟨hl, ?_⟩
  rw [moreElements]
  split
  · exact hc
  · split <;> rename_i hn <;> rw [nextElement_close hws] at hn <;> cases hn
    exact hc

theorem moreElements_item {item : σ → Option (Reader σ)} {read : Reader σ} {r u : List Char}
    (hnext : nextElement t = .ok (some r)) (hitem : item s = some read) {s'' : σ}
    (hread : read.Takes r s' u) (hmore : Reader.Takes (moreElements item s') u s'' rest) :
    Reader.Takes (moreElements item s) t s'' rest := by
  obtain ⟨hl, hread⟩ := hread
  obtain ⟨hl', hmore⟩ := hmore
  refine ⟨Nat.lt_trans hl' (Nat.lt_trans hl (length_lt_of_nextElement hnext)), ?_⟩
  rw [moreElements]
  split
  · next h => rw [hitem] at h; cases h
  · next read' h =>
    rw [hitem] at h
    cases h
    split
    · next h => rw [hnext] at h; cases h
    · next h => rw [hnext] at h; cases h
    · next h =>
      rw [hnext] at h
      cases h
      simp only [bind, Except.bind, hread, hmore]
      rfl

theorem moreElements_takes {item : σ → Option (Reader σ)} (h : ItemsTail ']' toks t)
    (hread : ReadsElements item s toks s') (rest : List Char) :
    Reader.Takes (moreElements item s) (t ++ rest) s' rest := by
  induction h generalizing s with
  | close hws =>
    cases hread
    rw [List.append_assoc, List.singleton_append]
    exact moreElements_close hws _ rest
  | @item ws ws' tok t toks hws hws' htail ih =>
    cases hread with
    | cons hitem htok hmore =>
      simp only [List.append_assoc, List.cons_append]
      exact moreElements_item (nextElement_item hws hws' (htok.starts.append _)) hitem
        (htok.takes_nil (htail.delimited rfl rest)) (ih hmore)

theorem elements_takes {item : σ → Option (Reader σ)} (h : Items ']' toks t)
    (hread : ReadsElements item s toks s') (rest : List Char) :
    (elements item s).Takes (t ++ rest) s' rest := by
  cases h with
  | close hws =>
    cases hread
    rw [List.append_assoc, List.singleton_append]
    obtain ⟨hl, hc⟩ := closeArray_takes hws _ rest
    refine ⟨hl, ?_⟩
    rw [elements, dropBlank_mark hws rfl]
    split <;> exact hc
  | @item ws tok t toks hws htail =>
    cases hread with
    | cons hitem htok hmore =>
      obtain ⟨hl, ht⟩ := htok.takes ws (t ++ rest) hws (htail.delimited rfl rest)
      obtain ⟨hl', hm⟩ := moreElements_takes htail hmore rest
      obtain ⟨c, tok, rfl, hc⟩ := htok.starts
      simp only [List.append_assoc]
      refine ⟨Nat.lt_trans hl' hl, ?_⟩
      rw [elements, hitem]
      simp only [List.cons_append, dropBlank_mark hws (isBlank_of_not_delimiter hc)] at ht ⊢
      split
      · next heq => cases heq
      · next heq => cases heq; cases hc
      · simp only [bind, Except.bind, ht, hm]
        rfl

/-! ## Objects -/

section objects

variable {item : σ → String → Except Fault (Reader σ)}

inductive ReadsMembers (item : σ → String → Except Fault (Reader σ)) :
    σ → List (List Char × List Char) → σ → Prop
  | nil {s : σ} : ReadsMembers item s [] s
  | cons {s s' s'' : σ} {read : Reader σ} {key : String} {k tok : List Char}
      {ms : List (List Char × List Char)} : SpellsText key k → item s key = .ok read →
      read.Reads tok s' → ReadsMembers item s' ms s'' → ReadsMembers item s ((k, tok) :: ms) s''

theorem member_takes {read : Reader σ} {key : String} {k m : List Char} (hkey : SpellsText key k)
    (hm : MemberText (k, tok) m) (hitem : item s key = .ok read) (hread : read.Reads tok s')
    (hrest : Delimited rest) :
    ∃ u, m = '"' :: u ∧ (member item s).Takes (u ++ rest) s' rest := by
  cases hm with
  | @colon _ ws ws' _ hws hws' =>
    obtain ⟨u, rfl, hl, hk⟩ := hkey.stringValue_takes (ws ++ ':' :: (ws' ++ (tok ++ rest)))
    obtain ⟨hl', hr⟩ := hread.takes ws' rest hws' hrest
    have hcolon : dropColon (ws ++ ':' :: (ws' ++ (tok ++ rest))) = .ok (ws' ++ (tok ++ rest)) := by
      rw [dropColon, dropBlank_mark hws rfl]
      rfl
    refine ⟨u ++ (ws ++ ':' :: (ws' ++ tok)), rfl, ?_⟩
    simp only [List.append_assoc, List.cons_append]
    refine ⟨Nat.lt_trans hl' (Nat.lt_trans (length_lt_of_dropColon hcolon) hl), ?_⟩
    simp only [member, hk, bind, Except.bind, hitem, Except.mapError]
    split
    · next h => rw [hcolon] at h; cases h
    · next h =>
      rw [hcolon] at h
      cases h
      simp only [hr]
      rfl

theorem closeObject_takes (hws : Blanks ws) (s : σ) (rest : List Char) :
    (closeObject s).Takes (ws ++ '\x7d' :: rest) s rest := by
  have hd := dropBlank_mark hws (c := '\x7d') rfl rest
  refine ⟨length_lt_of_dropBlank hd, ?_⟩
  unfold closeObject
  split
  · next r h =>
    cases hd.symm.trans h
    rfl
  · next h => exact absurd hd (h rest)

theorem nextKey_close (hws : Blanks ws) (rest : List Char) :
    nextKey (ws ++ '\x7d' :: rest) = .ok none := by
  rw [nextKey, dropBlank_mark hws rfl]
  rfl

theorem nextKey_item {ws' : List Char} (hws : Blanks ws) (hws' : Blanks ws') (t : List Char) :
    nextKey (ws ++ ',' :: (ws' ++ '"' :: t)) = .ok (some t) := by
  rw [nextKey, dropBlank_mark hws rfl]
  simp only [dropBlank_mark hws' (c := '"') rfl]

theorem moreMembers_close (hws : Blanks ws) (s : σ) (rest : List Char) :
    Reader.Takes (moreMembers item s) (ws ++ '\x7d' :: rest) s rest := by
  obtain ⟨hl, hc⟩ := closeObject_takes hws s rest
  refine ⟨hl, ?_⟩
  rw [moreMembers]
  split <;> rename_i hn <;> rw [nextKey_close hws] at hn <;> cases hn
  exact hc

theorem moreMembers_item {s'' : σ} {r u : List Char} (hnext : nextKey t = .ok (some r))
    (hread : (member item s).Takes r s' u)
    (hmore : Reader.Takes (moreMembers item s') u s'' rest) :
    Reader.Takes (moreMembers item s) t s'' rest := by
  obtain ⟨hl, hread⟩ := hread
  obtain ⟨hl', hmore⟩ := hmore
  refine ⟨Nat.lt_trans hl' (Nat.lt_trans hl (length_lt_of_nextKey hnext)), ?_⟩
  rw [moreMembers]
  split <;> rename_i hn <;> rw [hnext] at hn <;> cases hn
  simp only [bind, Except.bind, hread, hmore]
  rfl

theorem moreMembers_takes (hms : List.Forall₂ MemberText ms toks) (h : ItemsTail '\x7d' toks t)
    (hread : ReadsMembers item s ms s') (rest : List Char) :
    Reader.Takes (moreMembers item s) (t ++ rest) s' rest := by
  induction h generalizing s ms with
  | close hws =>
    cases hms
    cases hread
    rw [List.append_assoc, List.singleton_append]
    exact moreMembers_close hws _ rest
  | @item ws ws' m t toks hws hws' htail ih =>
    cases hms with
    | cons hm hms =>
      cases hread with
      | cons hkey hitem htok hmore =>
        obtain ⟨u, rfl, hread⟩ := member_takes hkey hm hitem htok (htail.delimited rfl rest)
        simp only [List.append_assoc, List.cons_append]
        exact moreMembers_item (nextKey_item hws hws' _) hread (ih hms hmore)

theorem members_takes (hms : List.Forall₂ MemberText ms toks) (h : Items '\x7d' toks t)
    (hread : ReadsMembers item s ms s') (rest : List Char) :
    (members item s).Takes (t ++ rest) s' rest := by
  cases h with
  | @close ws hws =>
    cases hms
    cases hread
    rw [List.append_assoc, List.singleton_append]
    obtain ⟨hl, hc⟩ := closeObject_takes hws _ rest
    refine ⟨hl, ?_⟩
    have hfirst : firstKey (ws ++ '\x7d' :: rest) = .ok none := by
      rw [firstKey, dropBlank_mark hws rfl]
      rfl
    rw [members]
    split <;> rename_i hn <;> rw [hfirst] at hn <;> cases hn
    exact hc
  | @item ws m t toks hws htail =>
    cases hms with
    | cons hm hms =>
      cases hread with
      | cons hkey hitem htok hmore =>
        obtain ⟨u, rfl, hl, hread⟩ := member_takes hkey hm hitem htok (htail.delimited rfl rest)
        obtain ⟨hl', hmore⟩ := moreMembers_takes hms htail hmore rest
        have hfirst : firstKey (ws ++ '"' :: (u ++ (t ++ rest))) =
            .ok (some (u ++ (t ++ rest))) := by
          rw [firstKey, dropBlank_mark hws rfl]
          rfl
        simp only [List.append_assoc, List.cons_append]
        refine ⟨Nat.lt_trans hl' (Nat.lt_trans hl (length_lt_of_firstKey hfirst)), ?_⟩
        rw [members]
        split <;> rename_i hn <;> rw [hfirst] at hn <;> cases hn
        simp only [bind, Except.bind, hread, hmore]
        rfl

end objects

/-! ## Lists and maps -/

def SpellsList (item : α → List Char → Prop) (as : List α) (tok : List Char) : Prop :=
  ∃ toks, List.Forall₂ item as toks ∧ ArrayText toks tok

/-- The token is an object of the entries of the map, the values as `item` spells them. A key that
comes again has its last value in its first place. -/
def SpellsMap (item : α → List Char → Prop) (m : OrderedMap String α) (tok : List Char) : Prop :=
  ∃ es ms, OrderedMap.ofList es = m ∧
    List.Forall₂ (fun e p => SpellsText e.1 p.1 ∧ item e.2 p.2) es ms ∧ ObjectText ms tok

theorem ArrayText.reads {item : σ → Option (Reader σ)} {r : Reader α} {a : α}
    (h : ArrayText toks tok) (hread : ReadsElements item s toks s')
    (hr : ∀ t u rest, dropBlank t = '[' :: u → (elements item s).Takes u s' rest →
      r.Takes t a rest) : r.Reads tok a := by
  obtain ⟨t, ht, rfl⟩ := h
  exact ⟨⟨'[', t, rfl, rfl⟩, fun ws rest hws _ =>
    hr _ (t ++ rest) rest (dropBlank_mark hws rfl _) (elements_takes ht hread rest)⟩

theorem ObjectText.reads {item : σ → String → Except Fault (Reader σ)} {r : Reader α} {a : α}
    (h : ObjectText ms tok) (hread : ReadsMembers item s ms s')
    (hr : ∀ t u rest, dropBlank t = '{' :: u → (members item s).Takes u s' rest →
      r.Takes t a rest) : r.Reads tok a := by
  obtain ⟨toks, t, hms, ht, rfl⟩ := h
  exact ⟨⟨'{', t, rfl, rfl⟩, fun ws rest hws _ =>
    hr _ (t ++ rest) rest (dropBlank_mark hws rfl _) (members_takes hms ht hread rest)⟩

theorem readsElements_append {read : Reader α} {as : List α}
    (h : List.Forall₂ (fun a tok => read.Reads tok a) as toks) (acc : List α) :
    ReadsElements (fun as => some (read.map fun a => as ++ [a])) acc toks (acc ++ as) := by
  induction h generalizing acc with
  | nil =>
    rw [List.append_nil]
    exact .nil
  | @cons a tok as toks ha _ ih =>
    rw [List.append_cons acc a as]
    exact .cons rfl (ha.map fun a => acc ++ [a]) (ih (acc ++ [a]))

theorem readsMembers_insert {read : Reader α} {es : List (String × α)}
    (h : List.Forall₂ (fun e p => SpellsText e.1 p.1 ∧ read.Reads p.2 e.2) es ms)
    (m : OrderedMap String α) :
    ReadsMembers (fun m key => .ok (read.map fun a => m.insert key a)) m ms
      (es.foldl (fun m e => m.insert e.1 e.2) m) := by
  induction h generalizing m with
  | nil => exact .nil
  | cons h _ ih => exact .cons h.1 rfl (h.2.map fun a => m.insert _ a) (ih _)

theorem list_reads {item : α → List Char → Prop} {read : Reader α} {as : List α}
    (hread : ∀ a tok, item a tok → read.Reads tok a) (h : SpellsList item as tok) :
    (list read).Reads tok as := by
  obtain ⟨toks, has, htext⟩ := h
  refine htext.reads (readsElements_append (has.imp hread) []) fun t u rest hd ⟨hl, he⟩ => ?_
  refine ⟨Nat.lt_trans hl (length_lt_of_dropBlank hd), ?_⟩
  unfold list
  split
  · next h =>
    cases hd.symm.trans h
    rw [he]
    rfl
  · next h => exact absurd hd (h _)

theorem map_reads {item : α → List Char → Prop} {read : Reader α} {m : OrderedMap String α}
    (hread : ∀ a tok, item a tok → read.Reads tok a) (h : SpellsMap item m tok) :
    (map read).Reads tok m := by
  obtain ⟨es, ms, rfl, hes, htext⟩ := h
  have hreads := readsMembers_insert (hes.imp fun _ _ h => ⟨h.1, hread _ _ h.2⟩) .empty
  refine htext.reads hreads fun t u rest hd ⟨hl, he⟩ => ?_
  refine ⟨Nat.lt_trans hl (length_lt_of_dropBlank hd), ?_⟩
  unfold map
  split
  · next h =>
    cases hd.symm.trans h
    rw [he]
    rfl
  · next h => exact absurd hd (h _)

/-- A text that holds one value, with blanks around. -/
theorem document_reads {read : Reader α} {a : α} {ws' : List Char} (h : read.Reads tok a)
    (hws : Blanks ws) (hws' : Blanks ws') : document read (ws ++ (tok ++ ws')) = .ok a := by
  have hdrop := dropBlank_append hws' []
  have hdelim := delimited_append hws' delimited_nil
  rw [List.append_nil] at hdrop hdelim
  obtain ⟨hl, h⟩ := h.takes ws ws' hws hdelim
  simp only [document, h, hdrop]
  rfl

/-! ## Existence -/

theorem exists_items (close : Char) (toks : List (List Char)) : ∃ t, Items close toks t := by
  cases toks with
  | nil => exact ⟨_, .close blanks_nil⟩
  | cons tok toks =>
    have htail : ∃ t, ItemsTail close toks t := by
      induction toks with
      | nil => exact ⟨_, .close blanks_nil⟩
      | cons _ _ ih =>
        obtain ⟨t, ht⟩ := ih
        exact ⟨_, .item blanks_nil blanks_nil ht⟩
    obtain ⟨t, ht⟩ := htail
    exact ⟨_, .item blanks_nil ht⟩

theorem exists_forall₂ {β : Type} {R : α → β → Prop} {as : List α} (h : ∀ a ∈ as, ∃ b, R a b) :
    ∃ bs, List.Forall₂ R as bs := by
  induction as with
  | nil => exact ⟨[], .nil⟩
  | cons a as ih =>
    obtain ⟨b, hb⟩ := h a List.mem_cons_self
    obtain ⟨bs, hbs⟩ := ih fun a ha => h a (List.mem_cons_of_mem _ ha)
    exact ⟨b :: bs, .cons hb hbs⟩

theorem exists_spellsList {item : α → List Char → Prop} {as : List α}
    (h : ∀ a ∈ as, ∃ tok, item a tok) : ∃ tok, SpellsList item as tok := by
  obtain ⟨toks, htoks⟩ := exists_forall₂ h
  obtain ⟨t, ht⟩ := exists_items ']' toks
  exact ⟨_, toks, htoks, t, ht, rfl⟩

theorem exists_spellsMap {item : α → List Char → Prop} (h : ∀ a, ∃ tok, item a tok)
    (m : OrderedMap String α) : ∃ tok, SpellsMap item m tok := by
  have hentry : ∀ e ∈ m.entries, ∃ p : List Char × List Char,
      SpellsText e.1 p.1 ∧ item e.2 p.2 := by
    intro e _
    obtain ⟨tok, htok⟩ := h e.2
    exact ⟨(writeString e.1, tok), spellsText_writeString e.1, htok⟩
  have hmember : ∀ p : List Char × List Char, ∃ t, MemberText p t :=
    fun _ => ⟨_, .colon blanks_nil blanks_nil⟩
  obtain ⟨ms, hms⟩ := exists_forall₂ hentry
  obtain ⟨toks, htoks⟩ := exists_forall₂ fun p (_ : p ∈ ms) => hmember p
  obtain ⟨t, ht⟩ := exists_items '\x7d' toks
  exact ⟨_, m.entries, ms, OrderedMap.ofList_entries m, hms, toks, t, htoks, ht, rfl⟩

end GrammarLayout.Json
