import GrammarLayout.Proofs.Registry.Finish
import GrammarLayout.Proofs.Scan

/-!
# Look-ups in a registry against a scan

A look-up goes only through the numbers that the index has under the key. As long as there is a word
for every field, it still finds what a scan of all fields would find: the index has the number of
every field once, under the key of the field, and those under one key in ascending order.
-/

namespace GrammarLayout.Registry

variable {overflow : Overflow} {g : Grammar} {r r' : Registry} {owner : Owner}
  {key property : String} {id : FieldId} {n : Nat}

def listed (r : Registry) : List FieldId := r.index.values.flatten

def answering (g : Grammar) (owner : Owner) (key : String) (f : Field) : Bool :=
  f.key = key ∧ g.Answers f.owner owner

/-- The position of the first of all fields that has the key and answers for the owner. -/
def scan? (r : Registry) (owner : Owner) (key : String) : Option Nat :=
  r.fields.findIdx? (answering r.grammar owner key)

theorem scan?_finish (r : Registry) (owner : Owner) (key : String) :
    r.finish.scan? owner key = r.scan? owner key :=
  List.findIdx?_map ..

theorem listed_finish (r : Registry) :
    r.finish.index.listed = r.listed.map FieldId.position := by
  unfold FieldIndex.listed listed finish OrderedMap.values OrderedMap.map
  rw [List.map_flatten, List.map_map, List.map_map]
  rfl

/-- Requests keep it that the index lists the number of every field once, and no other. -/
theorem Reachable.listed (h : Reachable overflow g r) (hlt : r.fields.length ≤ 2 ^ 32) :
    r.finish.index.listed.Perm (List.range r.fields.length) := by
  refine h.invariant (P := fun r => r.fields.length ≤ 2 ^ 32 →
    r.finish.index.listed.Perm (List.range r.fields.length)) (fun _ => .nil) ?_ hlt
  intro r owner property given hr
  rcases r.after_cases overflow owner property given with ha | ⟨d, slot, bs, ha, _⟩
  · rw [ha]
    exact hr
  · rw [ha]
    intro hlt
    have hlength : (r.extend d slot bs).fields.length = r.fields.length + 1 := by simp [extend]
    rw [hlength] at hlt ⊢
    rw [index_finish_extend, FieldId.position_ofPosition_of_lt hlt, List.range_succ]
    exact (FieldIndex.listed_insert _ _ _).trans ((hr (Nat.le_of_succ_le hlt)).append_right _)

/-- A look-up that goes by words finds what is found by their numbers. -/
theorem find?_eq_ok {found : Option Nat} (h : r.finish.find? owner property = .ok found) :
    r.find? owner property = .ok (found.map FieldId.ofPosition) := by
  rw [find?_finish] at h
  cases hf : r.find? owner property with
  | error handle =>
    rw [hf] at h
    cases h
  | ok id? =>
    rw [hf] at h
    cases h
    cases id? with
    | none => rfl
    | some id => simp [FieldId.ofPosition_position]

theorem find?_eq_scan (hi : r.finish.Indexed) (ho : r.grammar.Knows owner) (property : String) :
    r.find? owner property =
      .ok ((r.scan? owner (Naming.propertyKey property)).map FieldId.ofPosition) := by
  rw [← scan?_finish]
  exact find?_eq_ok (hi.find?_eq (l := r.finish) ho property)

theorem field?_eq_scan (hi : r.finish.Indexed) (hlt : r.fields.length ≤ 2 ^ 32)
    (ho : r.grammar.Knows owner) (property : String) :
    r.field? owner property =
      .ok (r.fields.find? (answering r.grammar owner (Naming.propertyKey property))) := by
  rw [field?, find?_eq_scan hi ho, List.find?_eq_bind_findIdx?_getElem?]
  cases hn : r.scan? owner (Naming.propertyKey property) with
  | none =>
    unfold scan? at hn
    rw [hn]
    rfl
  | some n =>
    unfold scan? at hn
    have hword : (FieldId.ofPosition n).position = n := by
      have hle := (List.findIdx?_eq_some_iff_getElem.mp hn).1
      exact FieldId.position_ofPosition_of_lt (hle.trans_le hlt)
    rw [hn]
    simp [Except.map, fieldAt?, hword]

theorem mem_candidates_iff (hi : r.finish.Indexed) :
    id ∈ r.candidates key ↔ ∃ f, r.fieldAt? id = some f ∧ f.key = key := by
  rw [← List.mem_map_of_injective FieldId.position_injective, ← candidates_finish,
    hi.mem_candidates_iff, getElem?_finish, fieldAt?]
  constructor
  · rintro ⟨f, hf, hk⟩
    obtain ⟨f', hf', rfl⟩ := Option.map_eq_some_iff.mp hf
    exact ⟨f', hf', hk⟩
  · rintro ⟨f, hf, hk⟩
    exact ⟨f.numbered, by rw [hf, Option.map_some], hk⟩

theorem perform_of_scan (hi : r.finish.Indexed) (ho : r.grammar.Knows owner)
    (hn : r.scan? owner (Naming.propertyKey property) = some n) (overflow : Overflow)
    (given : Option StorageType) :
    r.perform overflow owner property given = (.ok (.ofPosition n), r) := by
  apply perform_of_found
  rw [find?_eq_scan hi ho, hn]
  rfl

theorem perform_of_scan_none (hi : r.finish.Indexed) (ho : r.grammar.Knows owner)
    (hn : r.scan? owner (Naming.propertyKey property) = none) {given : Option StorageType}
    (hp : r.perform overflow owner property given = (.ok id, r')) :
    id = .ofPosition r.fields.length ∧ ∃ f, f.owner = owner ∧ f.property = property ∧
      r'.fields = r.fields ++ [f] := by
  have houtcome := r.outcome overflow owner property given
  rw [hp] at houtcome
  cases houtcome with
  | found hf =>
    rw [find?_eq_scan hi ho, hn] at hf
    cases hf
  | added _ hd _ =>
    obtain ⟨howner, hproperty, _⟩ := Grammar.draftFor_eq_ok hd
    exact ⟨rfl, _, howner, hproperty, rfl⟩

/-- Looking through the index and scanning all fields come to the same, in the registry and in the
layout that it becomes. -/
structure Faithful (overflow : Overflow) (r : Registry) : Prop where
  find? : ∀ owner, r.grammar.Knows owner → ∀ property, r.find? owner property =
    .ok ((r.scan? owner (Naming.propertyKey property)).map FieldId.ofPosition)
  field? : ∀ owner, r.grammar.Knows owner → ∀ property, r.field? owner property =
    .ok (r.fields.find? (answering r.grammar owner (Naming.propertyKey property)))
  perform_found : ∀ owner, r.grammar.Knows owner → ∀ property n,
    r.scan? owner (Naming.propertyKey property) = some n → ∀ given,
      r.perform overflow owner property given = (.ok (.ofPosition n), r)
  perform_missing : ∀ owner, r.grammar.Knows owner → ∀ property,
    r.scan? owner (Naming.propertyKey property) = none → ∀ given id r',
      r.perform overflow owner property given = (.ok id, r') →
        id = .ofPosition r.fields.length ∧ ∃ f, f.owner = owner ∧ f.property = property ∧
          r'.fields = r.fields ++ [f]
  listed_once : (r.listed.map FieldId.position).Perm (List.range r.fields.length)
  mem_candidates_iff : ∀ key id, id ∈ r.candidates key ↔
    ∃ f, r.fieldAt? id = some f ∧ f.key = key
  ascending : ∀ key, (r.candidates key).Pairwise fun id id' => id.position < id'.position
  finish_find? : ∀ owner, r.grammar.Knows owner → ∀ property,
    r.finish.find? owner property = .ok (r.scan? owner (Naming.propertyKey property))

/-- Whichever requests have led to a registry, its look-ups and those that requests begin with find
what a scan finds, as long as there is a word for every field. -/
theorem faithful_of_reachable (h : Reachable overflow g r) (hlt : r.fields.length ≤ 2 ^ 32) :
    r.Faithful overflow where
  find? _ ho property := find?_eq_scan (h.indexed hlt) ho property
  field? _ ho property := field?_eq_scan (h.indexed hlt) hlt ho property
  perform_found _ ho _ _ hn given := perform_of_scan (h.indexed hlt) ho hn overflow given
  perform_missing _ ho _ hn _ _ _ hp := perform_of_scan_none (h.indexed hlt) ho hn hp
  listed_once := listed_finish r ▸ h.listed hlt
  mem_candidates_iff _ _ := mem_candidates_iff (h.indexed hlt)
  ascending key := by
    have hascending := (h.indexed hlt).ascending key
    rwa [candidates_finish, List.pairwise_map] at hascending
  finish_find? _ ho property := by
    rw [← scan?_finish]
    exact (h.indexed hlt).find?_eq (l := r.finish) ho property

def leafy : Grammar where
  interfaces := [{ name := "Node" }]
  classes := [⟨"Leaf", ⟨0⟩, .empty, .empty, .empty⟩]

/-- Two fields with one key, that of the class before that of its interface; between them a request
that fails. -/
def sizing : List Question := [
  ⟨.ofClass ⟨0⟩, "size", some .int⟩,
  ⟨.ofClass ⟨7⟩, "size", some .int⟩,
  ⟨.ofInterface ⟨0⟩, "Size", some .float⟩,
  ⟨.ofClass ⟨0⟩, "weight", some .float⟩]

/-- The scan passes by the field of the class when the interface is asked for. -/
theorem faithful_under_one_key :
    ∃ r, Reachable .stops leafy r ∧ r.fields.length ≤ 2 ^ 32 ∧ r.Faithful .stops ∧
      r.fields.map (fun f => (f.owner, f.property)) =
        [(.ofClass ⟨0⟩, "size"), (.ofInterface ⟨0⟩, "Size"), (.ofClass ⟨0⟩, "weight")] ∧
      r.listed = [⟨0⟩, ⟨1⟩, ⟨2⟩] ∧ r.candidates "size" = [⟨0⟩, ⟨1⟩] ∧
      r.find? (.ofInterface ⟨0⟩) "SIZE" = .ok (some ⟨1⟩) := by
  have hreachable : Reachable .stops leafy ((empty leafy).afterAll .stops sizing) :=
    Reachable.empty.afterAll sizing
  have hlt : ((empty leafy).afterAll .stops sizing).fields.length ≤ 2 ^ 32 := by decide +kernel
  have hfaithful := faithful_of_reachable hreachable hlt
  refine ⟨_, hreachable, hlt, hfaithful, by decide +kernel, by decide +kernel, by decide +kernel, ?_⟩
  have hknows : ((empty leafy).afterAll .stops sizing).grammar.Knows (.ofInterface ⟨0⟩) := by
    rw [hreachable.grammar_eq]
    rfl
  rw [hfaithful.find? _ hknows]
  decide +kernel

end GrammarLayout.Registry
