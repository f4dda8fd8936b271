import GrammarLayout.Proofs.Registry.Buffers

/-!
# What a request does to a registry

A request in place finds a field, adds the field of a draft, or fails; and where it fails, nothing
has been changed by then. Everything that holds of registries is proved from these outcomes.
-/

namespace GrammarLayout

/-- A request of a layout either finds a field or adds the field of a draft. -/
theorem Layout.request_eq (l : Layout) (owner : Owner) (property : String)
    (given : Option StorageType) :
    l.request owner property given =
      PlanError.ofForeign (l.find? owner property) >>= fun
        | some n => .ok (n, l)
        | none => l.grammar.draftFor owner property given >>= fun d =>
          .ok (l.fields.length, l.add d) := by
  have ht : l.typeOf owner property given = l.grammar.typeFor owner property given := by
    cases given <;> rfl
  unfold request Grammar.draftFor
  apply bind_congr
  intro found
  cases found with
  | some n => rfl
  | none =>
    simp only [ht, bind_assoc]
    apply bind_congr
    intro type
    apply bind_congr
    intro name
    apply bind_congr
    intro declared
    split <;> rfl

theorem Grammar.draftFor_eq_ok {g : Grammar} {owner : Owner} {property : String}
    {given : Option StorageType} {d : Draft} (h : g.draftFor owner property given = .ok d) :
    d.owner = owner ∧ d.property = property ∧ ∃ name, g.ownerName owner = .ok name := by
  unfold draftFor at h
  obtain ⟨type, _, h⟩ := bind_eq_ok.mp h
  obtain ⟨name, hn, h⟩ := bind_eq_ok.mp h
  obtain ⟨declared, _, h⟩ := bind_eq_ok.mp h
  split at h
  · cases h
  · cases h
    exact ⟨rfl, rfl, name, PlanError.ofForeign_eq_ok.mp hn⟩

namespace FieldId

theorem position_ofPosition (n : Nat) : (ofPosition n).position = n % 2 ^ 32 :=
  UInt32.toNat_ofNat'

theorem position_ofPosition_le (n : Nat) : (ofPosition n).position ≤ n := by
  rw [position_ofPosition]
  exact Nat.mod_le _ _

theorem position_ofPosition_of_lt {n : Nat} (h : n < 2 ^ 32) : (ofPosition n).position = n := by
  rw [position_ofPosition, Nat.mod_eq_of_lt h]

theorem ofPosition_position (id : FieldId) : ofPosition id.position = id := by
  obtain ⟨word⟩ := id
  simp [ofPosition, position]

theorem position_injective : Function.Injective position := fun id id' h => by
  rw [← id.ofPosition_position, h, ofPosition_position]

end FieldId

namespace Registry

variable {overflow : Overflow} {g : Grammar} {r r' : Registry} {owner : Owner} {property : String}
  {given : Option StorageType} {d : Draft} {slot : Option Slot} {bs : Buffers}

/-- The registry with the field of a draft behind all others. -/
def extend (r : Registry) (d : Draft) (slot : Option Slot) (bs : Buffers) : Registry where
  grammar := r.grammar
  fields := r.fields ++ [⟨d, slot⟩]
  index := r.index.insert (Naming.propertyKey d.property)
    (r.candidates (Naming.propertyKey d.property) ++ [.ofPosition r.fields.length])
  buffers := bs

inductive Outcome (overflow : Overflow) (r : Registry) (owner : Owner) (property : String)
    (given : Option StorageType) : Except Failure FieldId × Registry → Prop
  | found {id : FieldId} (h : r.find? owner property = .ok (some id)) :
      Outcome overflow r owner property given (.ok id, r)
  | stray {handle : ForeignHandle} (h : r.find? owner property = .error handle) :
      Outcome overflow r owner property given (.error (.refused (.foreign handle)), r)
  | refused {e : PlanError} (h : r.find? owner property = .ok none)
      (hd : r.grammar.draftFor owner property given = .error e) :
      Outcome overflow r owner property given (.error (.refused e), r)
  /-- The buffer of the type is full, and the program stops. -/
  | full {d : Draft} (h : r.find? owner property = .ok none)
      (hd : r.grammar.draftFor owner property given = .ok d)
      (hp : Buffers.Placing overflow r.buffers d (.error .overflow, r.buffers)) :
      Outcome overflow r owner property given (.error .overflow, r)
  | added {d : Draft} {slot : Option Slot} {bs : Buffers}
      (h : r.find? owner property = .ok none)
      (hd : r.grammar.draftFor owner property given = .ok d)
      (hp : Buffers.Placing overflow r.buffers d (.ok ⟨d, slot⟩, bs)) :
      Outcome overflow r owner property given
        (.ok (.ofPosition r.fields.length), r.extend d slot bs)

theorem run_ofPlan_bind {α β : Type} (x : Except PlanError α) (k : α → Step β) (r : Registry) :
    (Step.ofPlan x >>= k).run.run r =
      match x with
      | .ok a => (k a).run.run r
      | .error e => (.error (.refused e), r) := by
  cases x <;> rfl

theorem run_place (overflow : Overflow) (d : Draft) (r : Registry) :
    (Step.place overflow d).run.run r =
      ((r.buffers.place overflow d).1, { r with buffers := (r.buffers.place overflow d).2 }) := by
  unfold Step.place
  change (liftM (r.buffers.place overflow d).1 : Step Field).run.run _ = _
  cases (r.buffers.place overflow d).1 <;> rfl

theorem run_add_of_ok (h : r.buffers.place overflow d = (.ok ⟨d, slot⟩, bs)) :
    (Step.add overflow d).run.run r = (.ok (.ofPosition r.fields.length), r.extend d slot bs) := by
  unfold Step.add
  rw [run_bind, run_place, h]
  rfl

theorem run_add_of_error {e : Failure} (h : r.buffers.place overflow d = (.error e, bs)) :
    (Step.add overflow d).run.run r = (.error e, { r with buffers := bs }) := by
  unfold Step.add
  rw [run_bind, run_place, h]

theorem outcome (overflow : Overflow) (r : Registry) (owner : Owner) (property : String)
    (given : Option StorageType) :
    Outcome overflow r owner property given (r.perform overflow owner property given) := by
  unfold perform Step.request
  change Outcome overflow r owner property given
    ((Step.ofPlan (PlanError.ofForeign (r.find? owner property)) >>= _ : Step FieldId).run.run r)
  rw [run_ofPlan_bind]
  cases hf : r.find? owner property with
  | error handle => exact .stray hf
  | ok found =>
    cases found with
    | some id => exact .found hf
    | none =>
      change Outcome overflow r owner property given
        ((Step.ofPlan (r.grammar.draftFor owner property given) >>= _ : Step FieldId).run.run r)
      rw [run_ofPlan_bind]
      cases hd : r.grammar.draftFor owner property given with
      | error e => exact .refused hf hd
      | ok d =>
        have hplacing := r.buffers.placing overflow d
        rcases hp : r.buffers.place overflow d with ⟨x, bs⟩
        rw [hp] at hplacing
        dsimp only
        cases hplacing with
        | exempt he =>
          rw [run_add_of_ok hp]
          exact .added hf hd (.exempt he)
        | full he hstops hfull =>
          rw [run_add_of_error hp]
          exact .full hf hd (.full he hstops hfull)
        | placed he hroom =>
          rw [run_add_of_ok hp]
          exact .added hf hd (.placed he hroom)

/-- A registry after a request; one that fails leaves it as it is. -/
def after (overflow : Overflow) (r : Registry) (owner : Owner) (property : String)
    (given : Option StorageType) : Registry :=
  (r.perform overflow owner property given).2

theorem after_of_perform {x : Except Failure FieldId}
    (h : r.perform overflow owner property given = (x, r')) :
    r.after overflow owner property given = r' := by
  rw [after, h]

theorem after_cases (overflow : Overflow) (r : Registry) (owner : Owner) (property : String)
    (given : Option StorageType) :
    r.after overflow owner property given = r ∨
      ∃ d slot bs, r.after overflow owner property given = r.extend d slot bs ∧
        r.find? owner property = .ok none ∧ r.grammar.draftFor owner property given = .ok d ∧
        Buffers.Placing overflow r.buffers d (.ok ⟨d, slot⟩, bs) := by
  have houtcome := r.outcome overflow owner property given
  unfold after
  generalize r.perform overflow owner property given = answer at houtcome ⊢
  cases houtcome with
  | found | stray | refused | full => exact .inl rfl
  | added h hd hp => exact .inr ⟨_, _, _, rfl, h, hd, hp⟩

/-- Whoever makes a request that fails, and for whatever reason, the registry stays as it is. -/
theorem perform_of_error {e : Failure}
    (h : (r.perform overflow owner property given).1 = .error e) :
    (r.perform overflow owner property given).2 = r := by
  have houtcome := r.outcome overflow owner property given
  generalize r.perform overflow owner property given = answer at houtcome h ⊢
  cases houtcome with
  | found | stray | refused | full => rfl
  | added => cases h

theorem grammar_after (overflow : Overflow) (r : Registry) (owner : Owner) (property : String)
    (given : Option StorageType) :
    (r.after overflow owner property given).grammar = r.grammar := by
  rcases r.after_cases overflow owner property given with ha | ⟨d, slot, bs, ha, _⟩
  · rw [ha]
  · rw [ha]
    rfl

end Registry
end GrammarLayout
