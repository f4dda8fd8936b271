import GrammarLayout.Grammar
import GrammarLayout.Text.Lowercase

/-!
# Sinks and schedules

A sink is a property whose value a reduction of the tree keeps: one of the class itself, with or
without the role `self`, or one of a child. A schedule gives each class its sinks, each once.
-/

namespace GrammarLayout

/-- A reference to a sink, as `property`, `self@property` or `role@property`. -/
inductive SinkRef
  | own (property : String)
  | selfRef (property : String)
  | child (role : String) (property : String)
  deriving DecidableEq

namespace SinkRef

/-- Reads a reference. Only the first separator splits, and the role `self` may be written in any
case. -/
def parse (text : String) : SinkRef :=
  let cs := text.toList
  match cs.dropWhile (· ≠ '@') with
  | [] => own text
  | _ :: property =>
    let role := String.ofList (cs.takeWhile (· ≠ '@'))
    if Text.asciiLowercase role = "self" then selfRef (String.ofList property)
    else child role (String.ofList property)

/-- The property without any role. -/
def property : SinkRef → String
  | own p => p
  | selfRef p => p
  | child _ p => p

def role? : SinkRef → Option String
  | child r _ => some r
  | _ => none

/-- What the names of the sink's fields begin with: role and property with an underscore between
them; the role `self` is left away. -/
def stem : SinkRef → String
  | own p => p
  | selfRef p => p
  | child r p => r ++ "_" ++ p

def text : SinkRef → String
  | own p => p
  | selfRef p => "self@" ++ p
  | child r p => r ++ "@" ++ p

end SinkRef

/-- Of a list with one more element, that one is a repetition if it has been there before. -/
theorem eraseDups_concat {α : Type} [DecidableEq α] (xs : List α) (x : α) :
    (xs ++ [x]).eraseDups = if x ∈ xs then xs.eraseDups else xs.eraseDups ++ [x] := by
  rw [List.eraseDups_append]
  by_cases hx : x ∈ xs <;> simp [List.removeAll, hx, List.eraseDups_cons]

structure Schedule where
  entries : OrderedMap ClassId (List SinkRef)
  deriving DecidableEq

namespace Schedule

def empty : Schedule := ⟨.empty⟩

variable (s : Schedule)

def sinks (id : ClassId) : List SinkRef := (s.entries.get? id).getD []

/-- Adds those of the new sinks that are not yet in the list, in order. -/
def appendNew (old : List SinkRef) (new : List SinkRef) : List SinkRef :=
  new.foldl (fun known r => if r ∈ known then known else known ++ [r]) old

/-- Adds sinks to the entry of a class, which comes to be even if there are none. -/
def insert (id : ClassId) (new : List SinkRef) : Schedule :=
  ⟨s.entries.insert id (appendNew (s.sinks id) new)⟩

def size : Nat := s.entries.size

def isEmpty : Bool := s.entries.isEmpty

/-- A list of sinks takes new ones as if it had been written with them, but for repetitions. -/
theorem appendNew_eraseDups (old new : List SinkRef) :
    appendNew old.eraseDups new = (old ++ new).eraseDups := by
  induction new generalizing old with
  | nil => rw [List.append_nil, appendNew, List.foldl_nil]
  | cons r new ih =>
    have hold : (if r ∈ old.eraseDups then old.eraseDups else old.eraseDups ++ [r]) =
        (old ++ [r]).eraseDups := by
      rw [eraseDups_concat]
      simp only [List.mem_eraseDups]
    rw [appendNew, List.foldl_cons, hold]
    exact (ih (old ++ [r])).trans (by rw [List.append_assoc, List.singleton_append])

theorem sinks_insert (id id' : ClassId) (new : List SinkRef) :
    (s.insert id new).sinks id' =
      if id = id' then appendNew (s.sinks id) new else s.sinks id' := by
  unfold insert sinks
  rw [OrderedMap.get?_insert]
  split <;> rfl

end Schedule
end GrammarLayout
