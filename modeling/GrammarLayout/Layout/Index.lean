import GrammarLayout.Layout.Field

/-!
# Finding fields

A field answers a request if the keys of the properties are equal and the owners are compatible.
The index lists the positions of the fields under each key, so that only these are looked at.
-/

namespace GrammarLayout

/-- Whether a field of `existing` answers a request for `queried`. Universal data answer and are
asked for everywhere, and what an interface owns belongs to all classes that implement it. -/
def Grammar.ownersMatch (g : Grammar) (existing queried : Owner) : Except ForeignHandle Bool :=
  if queried = .universal ∨ existing = .universal ∨ existing = queried then .ok true
  else
    match existing with
    | .ofInterface id => (g.interfaceOf queried).map fun i => i = some id
    | _ => .ok false

/-- The positions of fields under each key, in ascending order. -/
structure FieldIndex where
  positions : OrderedMap String (List Nat)
  deriving DecidableEq

namespace FieldIndex

def empty : FieldIndex := ⟨.empty⟩

variable (index : FieldIndex)

def candidates (key : String) : List Nat := (index.positions.get? key).getD []

def insert (key : String) (position : Nat) : FieldIndex :=
  ⟨index.positions.insert key (index.candidates key ++ [position])⟩

theorem candidates_insert (key key' : String) (position : Nat) :
    (index.insert key position).candidates key' =
      if key = key' then index.candidates key ++ [position] else index.candidates key' := by
  unfold insert candidates
  rw [OrderedMap.get?_insert]
  split <;> rfl

end FieldIndex

/-- The first of some positions whose field is compatible with the owner. -/
def firstMatch (g : Grammar) (fields : List Field) (owner : Owner) :
    List Nat → Except ForeignHandle (Option Nat)
  | [] => .ok none
  | position :: rest =>
    match fields[position]? with
    | none => firstMatch g fields owner rest
    | some f =>
      match g.ownersMatch f.owner owner with
      | .error handle => .error handle
      | .ok true => .ok (some position)
      | .ok false => firstMatch g fields owner rest

end GrammarLayout
