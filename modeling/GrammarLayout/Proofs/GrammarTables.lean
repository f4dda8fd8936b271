import GrammarLayout.GrammarTables
import GrammarLayout.Proofs.Extension

/-!
# Tables in step

Each name in the tables has the handle of the position where it was declared; every declaration
keeps this, for any number of interfaces and classes. As long as there is a word for each of them,
to look up a name is to scan for it, and handles and names lead to each other.
-/

namespace GrammarLayout

theorem InterfaceId.index_ofPosition (n : Nat) : (ofPosition n).index = n % 2 ^ 32 :=
  UInt32.toNat_ofNat'

theorem ClassId.index_ofPosition (n : Nat) : (ofPosition n).index = n % 2 ^ 32 :=
  UInt32.toNat_ofNat'

theorem InterfaceId.ofPosition_of_lt {n : Nat} (h : n < 2 ^ 32) : ofPosition n = ⟨n⟩ :=
  congrArg mk ((index_ofPosition n).trans (Nat.mod_eq_of_lt h))

theorem ClassId.ofPosition_of_lt {n : Nat} (h : n < 2 ^ 32) : ofPosition n = ⟨n⟩ :=
  congrArg mk ((index_ofPosition n).trans (Nat.mod_eq_of_lt h))

/-- The entry of a name in a table of positions is that of the first position with the name. -/
theorem lookup_zipIdx {α β : Type} (name : α → String) (handle : Nat → β) (xs : List α) (k : Nat)
    (s : String) :
    OrderedMap.lookup s ((xs.zipIdx k).map fun e => (name e.1, handle e.2)) =
      (xs.findIdx? fun x => name x = s).map fun n => handle (k + n) := by
  induction xs generalizing k with
  | nil => rfl
  | cons x xs ih =>
    rw [List.zipIdx_cons, List.map_cons, OrderedMap.lookup, List.findIdx?_cons]
    by_cases hx : name x = s
    · simp [hx]
    · have hnext : (fun n => handle (k + (n + 1))) = fun n => handle (k + 1 + n) := by
        funext n
        rw [Nat.add_comm n 1, Nat.add_assoc]
      simp [hx, ih, Option.map_map, Function.comp_def, hnext]

namespace GrammarTables

variable {t t' : GrammarTables} {i : Interface} {c : Class} {name : String}

def withInterface (t : GrammarTables) (i : Interface) : GrammarTables := { t with
  interfaces := t.interfaces ++ [i]
  interfaceIds := t.interfaceIds.insert i.name (.ofPosition t.interfaces.length) }

def withClass (t : GrammarTables) (c : Class) : GrammarTables := { t with
  classes := t.classes ++ [c]
  classIds := t.classIds.insert c.name (.ofPosition t.classes.length) }

/-- A duplicate is refused before anything has changed. -/
theorem addInterface_eq (t : GrammarTables) (i : Interface) :
    t.addInterface i =
      if t.interfaceIds.contains i.name then (.error (.duplicateInterface i.name), t)
      else (.ok (.ofPosition t.interfaces.length), t.withInterface i) := by
  change (ite (t.interfaceIds.contains i.name = true) _ _ : Step InterfaceId) t = _
  split <;> rfl

theorem run_ensureInterface (t : GrammarTables) (ids : List InterfaceId) :
    (ids.forM Step.ensureInterface).run.run t =
      match ids.find? fun id => (t.interface? id).isNone with
      | some id => (.error (.foreign (.interface id)), t)
      | none => (.ok (), t) := by
  induction ids with
  | nil => rfl
  | cons id ids ih =>
    have hget : (get : Step GrammarTables).run.run t = (.ok t, t) := rfl
    rw [List.forM_eq_forM, List.forM_cons, run_bind, Step.ensureInterface, run_bind, hget,
      List.find?_cons]
    dsimp only
    cases t.interface? id with
    | some i => exact ih
    | none => rfl

theorem addClass_eq (t : GrammarTables) (c : Class) :
    t.addClass c =
      if t.classIds.contains c.name then (.error (.duplicateClass c.name), t)
      else
        match t.foreignInterface? c with
        | some id => (.error (.foreign (.interface id)), t)
        | none => (.ok (.ofPosition t.classes.length), t.withClass c) := by
  change (ite (t.classIds.contains c.name = true) _ _ : Step ClassId) t = _
  split
  · rfl
  · change ((c.interface :: c.children.values).forM Step.ensureInterface >>= _ :
      Step ClassId).run.run t = _
    rw [run_bind, run_ensureInterface, Grammar.foreignInterface?]
    cases (c.interface :: c.children.values).find? fun id => (t.interface? id).isNone <;> rfl

/-- The tables of names have an entry for each interface and each class, in their order: the handle
of its position. -/
structure InStep (t : GrammarTables) : Prop where
  interfaceIds : t.interfaceIds.entries =
    t.interfaces.zipIdx.map fun e => (e.1.name, .ofPosition e.2)
  classIds : t.classIds.entries = t.classes.zipIdx.map fun e => (e.1.name, .ofPosition e.2)

theorem inStep_empty : InStep .empty := ⟨rfl, rfl⟩

theorem put_zipIdx {α β : Type} {name : α → String} (handle : Nat → β) {xs : List α} {x : α}
    (h : name x ∉ xs.map name) :
    OrderedMap.put (name x) (handle xs.length)
        (xs.zipIdx.map fun e => (name e.1, handle e.2)) =
      (xs ++ [x]).zipIdx.map fun e => (name e.1, handle e.2) := by
  have hkeys : name x ∉ (xs.zipIdx.map fun e => (name e.1, handle e.2)).map Prod.fst := by
    have hfst : (xs.zipIdx.map fun e => (name e.1, handle e.2)).map Prod.fst = xs.map name := by
      rw [List.map_map, ← List.zipIdx_map_fst 0 xs, List.map_map, List.zipIdx_map_fst]
      rfl
    rwa [hfst]
  rw [OrderedMap.put_of_not_mem hkeys, List.zipIdx_append, List.map_append, Nat.zero_add]
  rfl

namespace InStep

variable (h : t.InStep)
include h

/-- To look up a name is to scan the interfaces for it, up to what a word leaves of the position. -/
theorem interfaceByName?_eq (name : String) :
    t.interfaceByName? name = (t.interfaces.findIdx? fun i => i.name = name).map .ofPosition := by
  rw [interfaceByName?, OrderedMap.get?, h.interfaceIds, lookup_zipIdx Interface.name]
  simp only [Nat.zero_add]

theorem classByName?_eq (name : String) :
    t.classByName? name = (t.classes.findIdx? fun c => c.name = name).map .ofPosition := by
  rw [classByName?, OrderedMap.get?, h.classIds, lookup_zipIdx Class.name]
  simp only [Nat.zero_add]

theorem contains_interfaceIds (name : String) :
    t.interfaceIds.contains name = (t.toGrammar.interfaceByName? name).isSome := by
  have hlookup := h.interfaceByName?_eq name
  rw [interfaceByName?] at hlookup
  rw [OrderedMap.contains, hlookup, Grammar.interfaceByName?, Option.isSome_map, Option.isSome_map]

theorem contains_classIds (name : String) :
    t.classIds.contains name = (t.toGrammar.classByName? name).isSome := by
  have hlookup := h.classByName?_eq name
  rw [classByName?] at hlookup
  rw [OrderedMap.contains, hlookup, Grammar.classByName?, Option.isSome_map, Option.isSome_map]

theorem withInterface (hi : ¬ t.interfaceIds.contains i.name) : (t.withInterface i).InStep where
  interfaceIds := by
    rw [h.contains_interfaceIds, Grammar.isSome_interfaceByName?] at hi
    have hput := put_zipIdx InterfaceId.ofPosition hi
    rw [← h.interfaceIds] at hput
    exact hput
  classIds := h.classIds

theorem withClass (hc : ¬ t.classIds.contains c.name) : (t.withClass c).InStep where
  interfaceIds := h.interfaceIds
  classIds := by
    rw [h.contains_classIds, Grammar.isSome_classByName?] at hc
    have hput := put_zipIdx ClassId.ofPosition hc
    rw [← h.classIds] at hput
    exact hput

theorem declare (d : Declaration) : (t.declare d).InStep := by
  cases d with
  | interface i =>
    rw [GrammarTables.declare, addInterface_eq]
    split
    · exact h
    · next hi => exact h.withInterface hi
  | ofClass c =>
    rw [GrammarTables.declare, addClass_eq]
    split
    · exact h
    · next hc =>
      split
      · exact h
      · exact h.withClass hc

theorem toGrammar_declare (d : Declaration) :
    (t.declare d).toGrammar = t.toGrammar.declare d := by
  cases d with
  | interface i =>
    rw [GrammarTables.declare, addInterface_eq, h.contains_interfaceIds, Grammar.declare,
      Grammar.addInterface]
    split <;> rfl
  | ofClass c =>
    rw [GrammarTables.declare, addClass_eq, h.contains_classIds, Grammar.declare, Grammar.addClass]
    split
    · rfl
    · cases t.foreignInterface? c <;> rfl

end InStep

theorem declared_concat (ds : List Declaration) (d : Declaration) :
    declared (ds ++ [d]) = (declared ds).declare d := by
  rw [declared, List.foldl_append]
  rfl

theorem inStep_declared (ds : List Declaration) : (declared ds).InStep := by
  induction ds using List.reverseRecOn with
  | nil => exact inStep_empty
  | append_singleton ds d ih =>
    rw [declared_concat]
    exact ih.declare d

/-- The grammar that declarations lead to in place is the one that they lead to. -/
theorem toGrammar_declared (ds : List Declaration) :
    (declared ds).toGrammar = Grammar.declared ds := by
  induction ds using List.reverseRecOn with
  | nil => rfl
  | append_singleton ds d ih =>
    rw [declared_concat, (inStep_declared ds).toGrammar_declare, ih, Grammar.declared,
      Grammar.declared, List.foldl_append]
    rfl

theorem wellFormed_declared (ds : List Declaration) : (declared ds).toGrammar.WellFormed :=
  toGrammar_declared ds ▸ (Grammar.built_declared ds).wellFormed

theorem map_findIdx?_eq_some_iff {α β : Type} {name : α → String} {handle : Nat → β}
    {index : β → Nat} {xs : List α} (h : (xs.map name).Nodup)
    (hhandle : ∀ n < xs.length, ∀ b, handle n = b ↔ n = index b) {s : String} {b : β} :
    (xs.findIdx? fun x => name x = s).map handle = some b ↔
      ∃ x, xs[index b]? = some x ∧ name x = s := by
  rw [← findIdx?_name_eq_some_iff h]
  cases hn : xs.findIdx? fun x => name x = s with
  | none => simp
  | some n =>
    have hlt := (List.findIdx?_eq_some_iff_getElem.mp hn).1
    simp [hhandle n hlt b]

theorem InStep.interfaceByName?_eq_some_iff (h : t.InStep) (hg : t.toGrammar.WellFormed)
    (hlt : t.interfaces.length ≤ 2 ^ 32) {id : InterfaceId} :
    t.interfaceByName? name = some id ↔ ∃ i, t.interface? id = some i ∧ i.name = name := by
  rw [h.interfaceByName?_eq]
  apply map_findIdx?_eq_some_iff hg.interfaces
  intro n hn ⟨m⟩
  rw [InterfaceId.ofPosition_of_lt (hn.trans_le hlt), InterfaceId.mk.injEq]

theorem InStep.classByName?_eq_some_iff (h : t.InStep) (hg : t.toGrammar.WellFormed)
    (hlt : t.classes.length ≤ 2 ^ 32) {id : ClassId} :
    t.classByName? name = some id ↔ ∃ c, t.class? id = some c ∧ c.name = name := by
  rw [h.classByName?_eq]
  apply map_findIdx?_eq_some_iff hg.classes
  intro n hn ⟨m⟩
  rw [ClassId.ofPosition_of_lt (hn.trans_le hlt), ClassId.mk.injEq]

theorem addInterface_eq_ok {id : InterfaceId} :
    t.addInterface i = (.ok id, t') ↔ ¬ t.interfaceIds.contains i.name ∧
      id = .ofPosition t.interfaces.length ∧ t' = t.withInterface i := by
  rw [addInterface_eq]
  split
  · next h => simp [h]
  · next h => simp [h, eq_comm]

theorem addClass_eq_ok {id : ClassId} :
    t.addClass c = (.ok id, t') ↔ ¬ t.classIds.contains c.name ∧ t.foreignInterface? c = none ∧
      id = .ofPosition t.classes.length ∧ t' = t.withClass c := by
  rw [addClass_eq]
  split
  · next h => simp [h]
  · next h =>
    cases hf : t.foreignInterface? c with
    | some id => simp
    | none => simp [h, eq_comm]

/-- The tables are in step and handles lead somewhere. What is said of new handles and of the
handles of names goes as far as there is a word for each of the interfaces, or classes. -/
structure Sound (t : GrammarTables) : Prop where
  interfaceByName? : t.interfaces.length ≤ 2 ^ 32 → ∀ name id,
    t.interfaceByName? name = some id ↔ ∃ i, t.interface? id = some i ∧ i.name = name
  classByName? : t.classes.length ≤ 2 ^ 32 → ∀ name id,
    t.classByName? name = some id ↔ ∃ c, t.class? id = some c ∧ c.name = name
  interfaceNames : t.interfaceIds.keys = t.interfaces.map Interface.name
  classNames : t.classIds.keys = t.classes.map Class.name
  interfaces : ∀ id, (∃ i, t.interface? id = some i) ↔ id.index < t.interfaces.length
  classes : ∀ id, (∃ c, t.class? id = some c) ↔ id.index < t.classes.length
  /-- A new interface gets the next handle. -/
  nextInterface : t.interfaces.length < 2 ^ 32 → ∀ i id t', t.addInterface i = (.ok id, t') →
    id.index = t.interfaces.length ∧ t'.interface? id = some i
  /-- A new class gets the next handle. -/
  nextClass : t.classes.length < 2 ^ 32 → ∀ c id t', t.addClass c = (.ok id, t') →
    id.index = t.classes.length ∧ t'.class? id = some c
  /-- A refused interface leaves all tables as they are. -/
  refusedInterface : ∀ i e t', t.addInterface i = (.error e, t') → t' = t
  /-- A refused class leaves all tables as they are, also one with a foreign handle. -/
  refusedClass : ∀ c e t', t.addClass c = (.error e, t') → t' = t
  implemented : ∀ id c, t.class? id = some c → ∃ i, t.interface? c.interface = some i
  children : ∀ id c role j, t.class? id = some c → c.child? role = some j →
    ∃ i, t.interface? j = some i

/-- What the first tables answer, the second answer in the same way. -/
structure StaysIn (t t' : GrammarTables) : Prop where
  interface? : ∀ id i, t.interface? id = some i → t'.interface? id = some i
  class? : ∀ id c, t.class? id = some c → t'.class? id = some c
  interfaceByName? : ∀ name id,
    t.interfaceByName? name = some id → t'.interfaceByName? name = some id
  classByName? : ∀ name id, t.classByName? name = some id → t'.classByName? name = some id
  property : ∀ owner name d, t.property owner name = .ok d → t'.property owner name = .ok d
  interfaceOf : ∀ owner id?, t.interfaceOf owner = .ok id? → t'.interfaceOf owner = .ok id?
  ownerName : ∀ owner name, t.ownerName owner = .ok name → t'.ownerName owner = .ok name

theorem keys_zipIdx {α β : Type} {name : α → String} {handle : Nat → β} {xs : List α}
    {m : OrderedMap String β} (h : m.entries = xs.zipIdx.map fun e => (name e.1, handle e.2)) :
    m.keys = xs.map name := by
  conv_rhs => rw [← List.zipIdx_map_fst 0 xs, List.map_map]
  rw [OrderedMap.keys, h, List.map_map]
  rfl

theorem eq_of_addInterface_error {e : DeclarationError} (h : t.addInterface i = (.error e, t')) :
    t' = t := by
  rw [addInterface_eq] at h
  split at h <;> cases h
  rfl

theorem eq_of_addClass_error {e : DeclarationError} (h : t.addClass c = (.error e, t')) :
    t' = t := by
  rw [addClass_eq] at h
  split at h
  · cases h
    rfl
  · split at h <;> cases h
    rfl

theorem InStep.sound (h : t.InStep) (hg : t.toGrammar.WellFormed) : t.Sound where
  interfaceByName? hlt _ _ := h.interfaceByName?_eq_some_iff hg hlt
  classByName? hlt _ _ := h.classByName?_eq_some_iff hg hlt
  interfaceNames := keys_zipIdx h.interfaceIds
  classNames := keys_zipIdx h.classIds
  interfaces id := by simp [Grammar.interface?, List.getElem?_eq_some_iff]
  classes id := by simp [Grammar.class?, List.getElem?_eq_some_iff]
  nextInterface hlt i id t' hi := by
    obtain ⟨_, rfl, rfl⟩ := addInterface_eq_ok.mp hi
    rw [InterfaceId.ofPosition_of_lt hlt]
    exact ⟨rfl, List.getElem?_concat_length⟩
  nextClass hlt c id t' hc := by
    obtain ⟨_, _, rfl, rfl⟩ := addClass_eq_ok.mp hc
    rw [ClassId.ofPosition_of_lt hlt]
    exact ⟨rfl, List.getElem?_concat_length⟩
  refusedInterface _ _ _ := eq_of_addInterface_error
  refusedClass _ _ _ := eq_of_addClass_error
  implemented _ _ hc := Option.isSome_iff_exists.mp (hg.knows_of_mem hc List.mem_cons_self)
  children _ _ _ _ hc hj := Option.isSome_iff_exists.mp (hg.knows_child hc hj)

theorem InStep.staysIn (h : t.InStep) (h' : t'.InStep)
    (hext : t.toGrammar.Extends t'.toGrammar) : t.StaysIn t' where
  interface? _ _ := hext.interface?_eq_some
  class? _ _ := hext.class?_eq_some
  interfaceByName? name id hn := by
    rw [h.interfaceByName?_eq, Option.map_eq_some_iff] at hn
    obtain ⟨n, hn, rfl⟩ := hn
    rw [h'.interfaceByName?_eq, findIdx?_of_prefix hext.interfaces hn, Option.map_some]
  classByName? name id hn := by
    rw [h.classByName?_eq, Option.map_eq_some_iff] at hn
    obtain ⟨n, hn, rfl⟩ := hn
    rw [h'.classByName?_eq, findIdx?_of_prefix hext.classes hn, Option.map_some]
  property _ _ _ := hext.property_eq_ok
  interfaceOf _ _ := hext.interfaceOf_eq_ok
  ownerName _ _ := hext.ownerName_eq_ok

/-- Whatever has been declared, refused declarations included, handles and names are in step; and
whatever is declared after that, all that was answered is answered as before. -/
theorem sound_and_stays (ds : List Declaration) :
    (declared ds).Sound ∧ ∀ ds', (declared ds).StaysIn (declared (ds ++ ds')) := by
  refine ⟨(inStep_declared ds).sound (wellFormed_declared ds), fun ds' => ?_⟩
  apply (inStep_declared ds).staysIn (inStep_declared (ds ++ ds'))
  rw [toGrammar_declared, toGrammar_declared]
  exact Grammar.extends_declared ds ds'

/-- A grammar with one interface and one class: the other declarations are refused, one for its name
and one for its handle. -/
def refusing : List Declaration := [
  .interface { name := "Node", attributes := .ofList [("total", ⟨"int", false⟩)] },
  .interface { name := "Node" },
  .ofClass ⟨"Odd", ⟨9⟩, .empty, .empty, .empty⟩,
  .ofClass ⟨"Leaf", ⟨0⟩, .empty, .empty, .empty⟩]

/-- A refused class takes neither a handle nor its name. -/
example : (declared refusing).classByName? "Leaf" = some ⟨0⟩ ∧
    (declared refusing).classByName? "Odd" = none := by
  decide +kernel

end GrammarTables
end GrammarLayout
