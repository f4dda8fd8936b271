import GrammarLayout.Proofs.Dump
import GrammarLayout.Proofs.GrammarTables
import GrammarLayout.Proofs.Registry.Finish

/-!
# Foreign handles in a registry

A request with a handle of another grammar may stop the program, but it leaves nothing in the
registry. What starts from a handle of the grammar is stopped by a full buffer at most, and what the
registry is finished to is dumped unless an identifier is too long for a column.
-/

namespace GrammarLayout

theorem noForeign_draftFor {g : Grammar} {owner : Owner} (hg : g.WellFormed) (ho : g.Knows owner)
    (property : String) (given : Option StorageType) :
    NoForeign (g.draftFor owner property given) := by
  have htype : NoForeign (g.typeFor owner property given) := by
    cases given with
    | some type => exact .ok type
    | none => exact noForeign_storageType hg ho property
  unfold Grammar.draftFor
  apply htype.bind
  intro type _
  apply NoForeign.ofForeign_bind (Grammar.ownerName_of_knows ho)
  intro name _
  apply NoForeign.ofForeign_bind (Grammar.property_of_knows ho property)
  intro declared _
  split
  · exact .throw nofun
  · exact .ok _

namespace Registry

variable {overflow : Overflow} {g : Grammar} {r : Registry} {owner : Owner} {property : String}
  {given : Option StorageType}

def NoForeign {α : Type} (x : Except Failure α) : Prop :=
  ∀ handle, x ≠ .error (.refused (.foreign handle))

theorem NoForeign.map {α β : Type} {x : Except Failure α} (h : NoForeign x) (f : α → β) :
    NoForeign (x.map f) := by
  cases x with
  | ok a => nofun
  | error e => exact fun handle he => h handle (congrArg Except.error (Except.error.inj he))

theorem find?_of_knows (ho : r.grammar.Knows owner) (property : String) :
    ∃ found, r.find? owner property = .ok found := by
  have hfinish := r.find?_finish owner property
  cases hf : r.find? owner property with
  | ok found => exact ⟨found, rfl⟩
  | error handle =>
    rw [hf, Layout.find?, firstMatch_of_knows (g := r.finish.grammar) ho] at hfinish
    cases hfinish

theorem noForeign_perform (hg : r.grammar.WellFormed) (ho : r.grammar.Knows owner)
    (overflow : Overflow) (property : String) (given : Option StorageType) :
    NoForeign (r.perform overflow owner property given).1 := by
  have houtcome := r.outcome overflow owner property given
  generalize r.perform overflow owner property given = answer at houtcome ⊢
  cases houtcome with
  | found | added | full => nofun
  | stray hf =>
    obtain ⟨found, hok⟩ := find?_of_knows ho property
    cases hf.symm.trans hok
  | refused _ hd =>
    intro handle he
    cases he
    exact noForeign_draftFor hg ho property given handle hd

def Full (r : Registry) : Prop := ∃ b ∈ r.buffers.values, b.isFull = true

/-- Only a program that stops at a full buffer is stopped by one. -/
theorem full_of_overflow (h : (r.perform overflow owner property given).1 = .error .overflow) :
    overflow = .stops ∧ r.Full := by
  have houtcome := r.outcome overflow owner property given
  generalize r.perform overflow owner property given = answer at houtcome h
  cases houtcome with
  | found | stray | refused | added => cases h
  | @full d _ _ hp =>
    cases hp with
    | full _ hstops hfull =>
      refine ⟨hstops, ?_⟩
      unfold Buffers.bufferFor at hfull
      cases hb : r.buffers.get? (Naming.bufferName d.type) with
      | none =>
        rw [hb] at hfull
        cases hfull
      | some b =>
        rw [hb, Option.getD_some] at hfull
        exact ⟨b, List.mem_map_of_mem (OrderedMap.mem_of_lookup hb), hfull⟩

theorem noForeign_performAll (hg : r.grammar.WellFormed) (overflow : Overflow) {qs : List Request}
    (hqs : ∀ q ∈ qs, Request.Known r.grammar q) : NoForeign (r.performAll overflow qs).1 := by
  induction qs generalizing r with
  | nil => nofun
  | cons q qs ih =>
    have hq := hqs q List.mem_cons_self
    have hgiven := Layout.noForeign_given? hg hq
    rw [performAll_cons, fulfil_eq]
    cases hgiven' : Layout.given? r.grammar q with
    | error e =>
      intro handle he
      cases he
      exact hgiven handle hgiven'
    | ok given =>
      have hperform := noForeign_perform hg hq.owner overflow q.property given
      dsimp only
      cases hanswer : (r.perform overflow q.owner q.property given).1 with
      | error e => exact (hanswer ▸ hperform).map fun _ => ()
      | ok id =>
        have hgrammar := grammar_after overflow r q.owner q.property given
        apply ih
        · rwa [hgrammar]
        · rw [hgrammar]
          exact fun q' hq' => hqs q' (List.mem_cons_of_mem q hq')

theorem noForeign_plan (hg : g.WellFormed) (overflow : Overflow) (s : Schedule) :
    NoForeign (plan overflow g s) :=
  (noForeign_performAll (r := empty g) hg overflow fun _ => Layout.known_of_mem_requests).map _

theorem stops_of_performAll {qs : List Request}
    (h : (r.performAll overflow qs).1 = .error .overflow) : overflow = .stops := by
  induction qs generalizing r with
  | nil => cases h
  | cons q qs ih =>
    rw [performAll_cons, fulfil_eq] at h
    cases hgiven : Layout.given? r.grammar q with
    | error e =>
      rw [hgiven] at h
      cases h
    | ok given =>
      rw [hgiven] at h
      cases hanswer : (r.perform overflow q.owner q.property given).1 with
      | error e =>
        simp only [hanswer, Except.map, Except.error.injEq] at h
        exact (full_of_overflow (hanswer.trans (congrArg Except.error h))).1
      | ok id =>
        simp only [hanswer, Except.map] at h
        exact ih h

/-- Planning is stopped by a full buffer only where the program stops at one. -/
theorem stops_of_plan {s : Schedule} (h : plan overflow g s = .error .overflow) :
    overflow = .stops := by
  suffices hstop : ((empty g).performAll overflow (Layout.requests g s)).1 = .error .overflow from
    stops_of_performAll hstop
  unfold plan at h
  dsimp only at h
  cases hx : ((empty g).performAll overflow (Layout.requests g s)).1 with
  | ok _ =>
    rw [hx] at h
    cases h
  | error e =>
    rw [hx] at h
    exact congrArg Except.error (Except.error.inj h)

theorem Reachable.knows_owner (h : Reachable overflow g r) :
    ∀ f ∈ r.fields, r.grammar.Knows f.owner := by
  refine h.invariant (P := fun r => ∀ f ∈ r.fields, r.grammar.Knows f.owner) nofun ?_
  intro r owner property given hr f hf
  rw [grammar_after]
  rcases r.after_cases overflow owner property given with ha | ⟨d, slot, bs, ha, _, hd, _⟩
  · exact hr f (ha ▸ hf)
  · rw [ha] at hf
    rcases List.mem_append.mp hf with hf | hf
    · exact hr f hf
    · obtain ⟨howner, _, name, hname⟩ := Grammar.draftFor_eq_ok hd
      rw [List.mem_singleton.mp hf]
      exact Grammar.knows_of_ownerName (howner ▸ hname)

theorem Reachable.ordinary (h : Reachable overflow g r) :
    ∀ f ∈ r.fields, ∀ s, f.slot = some s → ∃ t, s.buffer = Naming.bufferName t := by
  refine (h.invariant (P := fun r => r.buffers.Named ∧
    ∀ f ∈ r.fields, ∀ s, f.slot = some s → ∃ t, s.buffer = Naming.bufferName t)
    ⟨nofun, nofun⟩ ?_).2
  intro r owner property given ⟨hn, hr⟩
  rcases r.after_cases overflow owner property given with ha | ⟨d, slot, bs, ha, _, _, hp⟩
  · rw [ha]
    exact ⟨hn, hr⟩
  · rw [ha]
    refine ⟨hp.named hn, fun f hf s hs => ?_⟩
    rcases List.mem_append.mp hf with hf | hf
    · exact hr f hf s hs
    · rw [List.mem_singleton.mp hf] at hs
      cases hp with
      | exempt => cases hs
      | placed =>
        cases hs
        exact ⟨d.type, (hn.bufferFor d.type).1⟩

/-- A finished registry is dumped unless an identifier is too long for a column. -/
theorem Reachable.dump_eq (h : Reachable overflow g r) (p : Palette) :
    r.finish.dump p = if r.finish.TooWide then .error .width else .ok (r.finish.listing p) := by
  apply Layout.dump_eq
  · intro f hf
    obtain ⟨f, hmem, rfl⟩ := List.mem_map.mp hf
    exact h.knows_owner f hmem
  · intro f hf s hs
    obtain ⟨f, hmem, rfl⟩ := List.mem_map.mp hf
    obtain ⟨s, hslot, rfl⟩ := Option.map_eq_some_iff.mp hs
    exact ⟨h.ordinary f hmem s hslot, s.offset.toNat_lt⟩

theorem Reachable.toJson?_finish (h : Reachable overflow g r) :
    r.finish.toJson? = .ok r.finish.toJson := by
  apply Layout.toJson?_eq
  intro f hf
  obtain ⟨f, hmem, rfl⟩ := List.mem_map.mp hf
  exact h.knows_owner f hmem

theorem Reachable.position_lt_of_find? (h : Reachable overflow g r) (ho : r.grammar.Knows owner)
    {n : Nat} (hn : r.finish.find? owner property = .ok (some n)) :
    n < r.fields.length := by
  rw [Layout.find?, firstMatch_of_knows (g := r.finish.grammar) ho] at hn
  have hmem := List.mem_of_find?_eq_some (Except.ok.inj hn)
  rw [candidates_finish] at hmem
  obtain ⟨id, hid, rfl⟩ := List.mem_map.mp hmem
  exact h.position_lt hid

/-- Foreign handles have left no trace in the registry: no owner that the grammar knows meets one
when it asks, and no view of the finished registry does. -/
structure HandleSafe (overflow : Overflow) (r : Registry) : Prop where
  owners : ∀ f ∈ r.fields, r.grammar.Knows f.owner
  /-- The numbers in the index are those of fields. -/
  numbers : ∀ key, ∀ id ∈ r.candidates key, ∃ f, r.fieldAt? id = some f
  request : ∀ owner, r.grammar.Knows owner → ∀ property given,
    NoForeign (r.perform overflow owner property given).1
  full_of_overflow : ∀ owner property given,
    (r.perform overflow owner property given).1 = .error .overflow → overflow = .stops ∧ r.Full
  find? : ∀ owner, r.grammar.Knows owner → ∀ property, ∃ found,
    r.find? owner property = .ok found ∧ ∀ id, found = some id → ∃ f, r.fieldAt? id = some f
  finish_find? : ∀ owner, r.grammar.Knows owner → ∀ property, ∃ found,
    r.finish.find? owner property = .ok found ∧
      ∀ n, found = some n → ∃ f, r.finish.fields[n]? = some f
  dump : ∀ p, r.finish.dump p =
    if r.finish.TooWide then .error .width else .ok (r.finish.listing p)
  json : r.finish.toJson? = .ok r.finish.toJson

theorem Reachable.handleSafe (h : Reachable overflow g r) (hg : g.WellFormed) :
    r.HandleSafe overflow where
  owners := h.knows_owner
  numbers _ _ hid := ⟨_, List.getElem?_eq_getElem (h.position_lt hid)⟩
  request _ ho property given := noForeign_perform (h.grammar_eq ▸ hg) ho overflow property given
  full_of_overflow _ _ _ := full_of_overflow
  find? owner ho property := by
    obtain ⟨found, hf⟩ := find?_of_knows ho property
    refine ⟨found, hf, ?_⟩
    rintro id rfl
    have hfinish : r.finish.find? owner property = .ok (some id.position) := by
      rw [find?_finish, hf]
      rfl
    exact ⟨_, List.getElem?_eq_getElem (h.position_lt_of_find? ho hfinish)⟩
  finish_find? owner ho property := by
    have hf := firstMatch_of_knows (g := r.finish.grammar) ho r.finish.fields
      (r.finish.index.candidates (Naming.propertyKey property))
    refine ⟨_, hf, fun n hn => ?_⟩
    have hlt := h.position_lt_of_find? ho (hf.trans (congrArg Except.ok hn))
    exact ⟨_, List.getElem?_eq_getElem (r.length_finish.symm ▸ hlt)⟩
  dump := h.dump_eq
  json := h.toJson?_finish

def strayingSinks : Schedule :=
  (Schedule.empty.insert ⟨4⟩ [.own "total"]).insert ⟨0⟩ [.own "total"]

/-- A registry with one field, which keeps its name. -/
def bare (property : String) : Registry :=
  (empty .empty).after .wraps .universal property (some .vertexColorPtr)

theorem fields_bare (property : String) :
    (bare property).finish.fields = [⟨⟨.universal, property, .vertexColorPtr, property⟩, none⟩] :=
  rfl

theorem tooWide_bare {property : String} (h : Listing.widthLimit < property.utf8ByteSize) :
    (bare property).finish.TooWide := by
  unfold Layout.TooWide
  rw [fields_bare]
  exact ⟨_, List.mem_singleton_self _, h⟩

/-- One letter more than a column holds. -/
def overlong : String := String.ofList (List.replicate 65536 'a')

theorem widthLimit_lt_overlong : Listing.widthLimit < overlong.utf8ByteSize := by
  have hsize := Listing.length_le_utf8ByteSize overlong
  unfold overlong at hsize ⊢
  rw [String.toList_ofList, List.length_replicate] at hsize
  exact Nat.lt_of_succ_le hsize

end Registry
end GrammarLayout
