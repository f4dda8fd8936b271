import GrammarLayout.Model.Resolve
import GrammarLayout.Proofs.Extension

/-!
# What the names of a document come to

Looking up the names of a document ends with the first problem in reading order, and without any
problem it gives a model that has everything in the document under the same names. Problems are
told from the document alone: a name is missing if nothing is declared under it, and taken if it
has been declared before.
-/

namespace GrammarLayout

section Positions

variable {α : Type} {name : α → String} {xs : List α} {n : String}

def position (name : α → String) (xs : List α) (n : String) : Nat :=
  xs.findIdx fun x => name x = n

theorem position_lt (h : n ∈ xs.map name) : position name xs n < xs.length := by
  rw [position, List.findIdx_lt_length]
  simpa using h

theorem findIdx?_eq_position (h : n ∈ xs.map name) :
    (xs.findIdx? fun x => name x = n) = some (position name xs n) :=
  List.findIdx?_eq_some_iff_findIdx_eq.mpr ⟨position_lt h, rfl⟩

theorem getElem?_position (h : n ∈ xs.map name) :
    (xs[position name xs n]?).map name = some n := by
  obtain ⟨hlt, hname, _⟩ := List.findIdx?_eq_some_iff_getElem.mp (findIdx?_eq_position h)
  rw [List.getElem?_eq_getElem hlt, Option.map_some, of_decide_eq_true hname]

theorem position_eq (h : (xs.map name).Nodup) {i : Nat} {x : α} (hx : xs[i]? = some x) :
    position name xs (name x) = i := by
  have hi := (findIdx?_name_eq_some_iff h).mpr ⟨x, hx, rfl⟩
  rw [findIdx?_eq_position (List.mem_map_of_mem (List.mem_of_getElem? hx))] at hi
  exact Option.some.inj hi

theorem position_inj {n' : String} (h : n ∈ xs.map name) (h' : n' ∈ xs.map name)
    (heq : position name xs n = position name xs n') : n = n' := by
  have hn := getElem?_position h
  rw [heq, getElem?_position h'] at hn
  exact (Option.some.inj hn).symm

theorem findIdx?_eq_none_of_not_mem (h : n ∉ xs.map name) :
    (xs.findIdx? fun x => name x = n) = none := by
  rw [List.findIdx?_eq_none_iff]
  intro x hx
  exact decide_eq_false fun hn => h (hn ▸ List.mem_map_of_mem hx)

def withEarlier (xs : List α) : List (List α × α) := xs.zipIdx.map fun e => (xs.take e.2, e.1)

theorem withEarlier_concat (xs : List α) (x : α) :
    withEarlier (xs ++ [x]) = withEarlier xs ++ [(xs, x)] := by
  have hinit : xs.zipIdx.map (fun e => ((xs ++ [x]).take e.2, e.1)) = withEarlier xs := by
    apply List.map_congr_left
    intro e he
    have hlt : e.2 < xs.length := (List.getElem?_eq_some_iff.mp
      (List.mem_zipIdx_iff_getElem?.mp he)).1
    rw [List.take_append_of_le_length (Nat.le_of_lt hlt)]
  rw [withEarlier, List.zipIdx_append, List.map_append, hinit]
  simp

theorem map_snd_withEarlier (xs : List α) : (withEarlier xs).map Prod.snd = xs := by
  simp [withEarlier, List.map_map, Function.comp_def]

end Positions

namespace Model

/-! ## Problems -/

/-- The result, unless there is a problem; of several the first counts. -/
def unlessFirst {α : Type} (problems : List ModelError) (a : α) : Except ModelError α :=
  match problems with
  | [] => .ok a
  | e :: _ => .error e

def missing (names : List String) (name : String) (e : ModelError) : List ModelError :=
  if name ∈ names then [] else [e]

def taken (names : List String) (name : String) (e : ModelError) : List ModelError :=
  if name ∈ names then [e] else []

def interfaceProblems (earlier : List Interface) (i : Interface) : List ModelError :=
  taken (earlier.map Interface.name) i.name (.declaration (.duplicateInterface i.name))

def childProblems (interfaces : List String) (className : String) (child : String × String) :
    List ModelError :=
  missing interfaces child.2 (.unknownChildInterface className child.1 child.2)

def classProblems (interfaces : List String) (earlier : List ClassDeclaration)
    (c : ClassDeclaration) : List ModelError :=
  missing interfaces c.interface (.unknownInterface c.name c.interface) ++
    c.children.entries.flatMap (childProblems interfaces c.name) ++
    taken (earlier.map ClassDeclaration.name) c.name (.declaration (.duplicateClass c.name))

namespace Document

variable (d : Document)

def interfaceNames : List String := d.interfaces.map Interface.name

def classNames : List String := d.classes.map ClassDeclaration.name

def problems : List ModelError :=
  ((withEarlier d.interfaces).flatMap fun e => interfaceProblems e.1 e.2) ++
    ((withEarlier d.classes).flatMap fun e => classProblems d.interfaceNames e.1 e.2) ++
    d.schedule.entries.flatMap fun e =>
      missing d.classNames e.1 (.unknownScheduledClass e.1)

/-- Names are unique, and what is referred to is declared. -/
structure Consistent : Prop where
  interfaces : d.interfaceNames.Nodup
  classes : d.classNames.Nodup
  implemented : ∀ c ∈ d.classes, c.interface ∈ d.interfaceNames
  children : ∀ c ∈ d.classes, ∀ e ∈ c.children.entries, e.2 ∈ d.interfaceNames
  scheduled : ∀ name ∈ d.schedule.keys, name ∈ d.classNames

end Document

variable {α β : Type} {d : Document}

theorem missing_eq_nil {names : List String} {name : String} {e : ModelError} :
    missing names name e = [] ↔ name ∈ names := by
  unfold missing
  split <;> simp_all

theorem taken_eq_nil {names : List String} {name : String} {e : ModelError} :
    taken names name e = [] ↔ name ∉ names := by
  unfold taken
  split <;> simp_all

/-- No name has been declared before just if all names are different. -/
theorem forall_withEarlier_iff {name : α → String} {xs : List α} :
    (∀ e ∈ withEarlier xs, name e.2 ∉ e.1.map name) ↔ (xs.map name).Nodup := by
  induction xs using List.reverseRecOn with
  | nil => simp [withEarlier]
  | append_singleton xs x ih =>
    rw [withEarlier_concat, Grammar.nodup_names_concat, ← ih]
    simp [or_imp, forall_and]

theorem forall_withEarlier_snd {P : α → Prop} {xs : List α} :
    (∀ e ∈ withEarlier xs, P e.2) ↔ ∀ x ∈ xs, P x := by
  conv_rhs => rw [← map_snd_withEarlier xs]
  rw [List.forall_mem_map]

theorem problems_eq_nil : d.problems = [] ↔ d.Consistent := by
  have hi : ((withEarlier d.interfaces).flatMap fun e => interfaceProblems e.1 e.2) = [] ↔
      d.interfaceNames.Nodup := by
    simp only [List.flatMap_eq_nil_iff, interfaceProblems, taken_eq_nil]
    exact forall_withEarlier_iff
  have hc : ((withEarlier d.classes).flatMap fun e => classProblems d.interfaceNames e.1 e.2) = [] ↔
      (∀ c ∈ d.classes, c.interface ∈ d.interfaceNames) ∧
        (∀ c ∈ d.classes, ∀ e ∈ c.children.entries, e.2 ∈ d.interfaceNames) ∧
        d.classNames.Nodup := by
    simp only [List.flatMap_eq_nil_iff, classProblems, childProblems, List.append_eq_nil_iff,
      missing_eq_nil, taken_eq_nil, forall_and, and_assoc]
    rw [forall_withEarlier_iff,
      forall_withEarlier_snd (P := fun c : ClassDeclaration => c.interface ∈ d.interfaceNames),
      forall_withEarlier_snd (P := fun c : ClassDeclaration =>
        ∀ e ∈ c.children.entries, e.2 ∈ d.interfaceNames)]
    rfl
  have hs : (d.schedule.entries.flatMap fun e =>
      missing d.classNames e.1 (.unknownScheduledClass e.1)) = [] ↔
      ∀ name ∈ d.schedule.keys, name ∈ d.classNames := by
    simp only [List.flatMap_eq_nil_iff, missing_eq_nil, OrderedMap.keys, List.forall_mem_map]
  rw [Document.problems, List.append_eq_nil_iff, List.append_eq_nil_iff, hi, hc, hs]
  constructor
  · rintro ⟨⟨hi, hc, hr, hn⟩, hs⟩
    exact ⟨hi, hn, hc, hr, hs⟩
  · intro h
    exact ⟨⟨h.interfaces, h.implemented, h.children, h.classes⟩, h.scheduled⟩

/-! ## Reading on until the first problem -/

theorem unlessFirst_bind {ps qs : List ModelError} {a : α} {b : β}
    {k : α → Except ModelError β} (h : k a = unlessFirst qs b) :
    unlessFirst ps a >>= k = unlessFirst (ps ++ qs) b := by
  cases ps with
  | nil => exact h
  | cons e ps => rfl

theorem unlessFirst_eq_error {ps : List ModelError} {a : α} {e : ModelError} :
    unlessFirst ps a = .error e ↔ ps.head? = some e := by
  cases ps <;> simp [unlessFirst]

theorem unlessFirst_eq_ok {ps : List ModelError} {a b : α} :
    unlessFirst ps a = .ok b ↔ ps = [] ∧ a = b := by
  cases ps <;> simp [unlessFirst]

/-- What holds of every step, whatever has been read before it, holds of reading all. -/
theorem foldlM_eq_unlessFirst {step : β → α → Except ModelError β} {state : List α → β}
    {problems : List α → α → List ModelError}
    (h : ∀ xs x, step (state xs) x = unlessFirst (problems xs x) (state (xs ++ [x])))
    (xs : List α) : xs.foldlM step (state []) =
      unlessFirst ((withEarlier xs).flatMap fun e => problems e.1 e.2) (state xs) := by
  induction xs using List.reverseRecOn with
  | nil => rfl
  | append_singleton xs x ih =>
    rw [List.foldlM_append, ih, withEarlier_concat, List.flatMap_append, List.flatMap_singleton]
    apply unlessFirst_bind
    rw [List.foldlM_cons, h]
    cases problems xs x <;> rfl

/-! ## The model of a document -/

namespace Document

variable (d : Document)

def interfaceId (name : String) : InterfaceId := ⟨position Interface.name d.interfaces name⟩

def classId (name : String) : ClassId := ⟨position ClassDeclaration.name d.classes name⟩

def toClass (c : ClassDeclaration) : Class :=
  ⟨c.name, d.interfaceId c.interface, c.fields, c.attributes, c.children.map d.interfaceId⟩

def grammar : Grammar := ⟨d.interfaces, d.classes.map d.toClass⟩

def entry (e : String × List String) : ClassId × List SinkRef :=
  (d.classId e.1, (e.2.map SinkRef.parse).eraseDups)

def fill (es : List (String × List String)) : Schedule :=
  es.foldl (fun s e => s.insert (d.classId e.1) (e.2.map SinkRef.parse)) .empty

end Document

theorem interfaceByName?_of_mem {g : Grammar} (hg : g.interfaces = d.interfaces) {name : String}
    (h : name ∈ d.interfaceNames) : g.interfaceByName? name = some (d.interfaceId name) := by
  rw [Grammar.interfaceByName?, hg, findIdx?_eq_position h]
  rfl

theorem interfaceByName?_of_not_mem {g : Grammar} (hg : g.interfaces = d.interfaces)
    {name : String} (h : name ∉ d.interfaceNames) : g.interfaceByName? name = none := by
  rw [Grammar.interfaceByName?, hg, findIdx?_eq_none_of_not_mem h]
  rfl

theorem declareInterface_eq (earlier : List Interface) (i : Interface) :
    declareInterface ⟨earlier, []⟩ i =
      unlessFirst (interfaceProblems earlier i) ⟨earlier ++ [i], []⟩ := by
  have htaken := Grammar.isSome_interfaceByName? ⟨earlier, []⟩ i.name
  unfold declareInterface Grammar.addInterface interfaceProblems taken
  by_cases h : i.name ∈ earlier.map Interface.name
  · rw [if_pos (htaken.mpr h), if_pos h]
    rfl
  · rw [if_neg (mt htaken.mp h), if_neg h]
    rfl

theorem resolveChildren_eq {g : Grammar} (hg : g.interfaces = d.interfaces) (className : String)
    (es : List (String × String)) :
    resolveChildren g className es =
      unlessFirst (es.flatMap (childProblems d.interfaceNames className))
        (es.map fun e => (e.1, d.interfaceId e.2)) := by
  induction es with
  | nil => rfl
  | cons e es ih =>
    rw [resolveChildren, List.flatMap_cons, childProblems, missing]
    by_cases h : e.2 ∈ d.interfaceNames
    · simp only [interfaceByName?_of_mem hg h, if_pos h, ih, List.nil_append]
      cases es.flatMap (childProblems d.interfaceNames className) <;> rfl
    · simp only [interfaceByName?_of_not_mem hg h, if_neg h]
      rfl

theorem handlesBelow_toClass {c : ClassDeclaration} (hi : c.interface ∈ d.interfaceNames)
    (hc : ∀ e ∈ c.children.entries, e.2 ∈ d.interfaceNames) :
    Grammar.HandlesBelow d.interfaces.length (d.toClass c) := by
  intro id hid
  rcases List.mem_cons.mp hid with rfl | hid
  · exact position_lt hi
  · obtain ⟨e', he', rfl⟩ := List.mem_map.mp hid
    obtain ⟨e, he, rfl⟩ := List.mem_map.mp he'
    exact position_lt (hc e he)

theorem addClass_toClass {earlier : List ClassDeclaration} {c : ClassDeclaration}
    (hi : c.interface ∈ d.interfaceNames)
    (hc : ∀ e ∈ c.children.entries, e.2 ∈ d.interfaceNames) :
    Grammar.addClass ⟨d.interfaces, earlier.map d.toClass⟩ (d.toClass c) =
      if c.name ∈ earlier.map ClassDeclaration.name then .error (.duplicateClass c.name)
      else .ok (⟨earlier.length⟩, ⟨d.interfaces, (earlier ++ [c]).map d.toClass⟩) := by
  have hnames : (earlier.map d.toClass).map Class.name = earlier.map ClassDeclaration.name := by
    rw [List.map_map]
    rfl
  have htaken := Grammar.isSome_classByName? ⟨d.interfaces, earlier.map d.toClass⟩
    (d.toClass c).name
  rw [hnames] at htaken
  have hforeign := Grammar.foreignInterface?_eq_none (g := ⟨d.interfaces, earlier.map d.toClass⟩)
    |>.mpr (handlesBelow_toClass hi hc)
  unfold Grammar.addClass
  by_cases h : c.name ∈ earlier.map ClassDeclaration.name
  · rw [if_pos (htaken.mpr h), if_pos h]
    rfl
  · rw [if_neg (mt htaken.mp h), if_neg h, hforeign]
    simp

theorem declareClass_eq (earlier : List ClassDeclaration) (c : ClassDeclaration) :
    declareClass ⟨d.interfaces, earlier.map d.toClass⟩ c =
      unlessFirst (classProblems d.interfaceNames earlier c)
        ⟨d.interfaces, (earlier ++ [c]).map d.toClass⟩ := by
  unfold declareClass classProblems
  by_cases hi : c.interface ∈ d.interfaceNames
  · have hchildren : resolveChildren ⟨d.interfaces, earlier.map d.toClass⟩ c.name
        c.children.entries = _ := resolveChildren_eq rfl c.name c.children.entries
    rw [interfaceByName?_of_mem rfl hi, missing_eq_nil.mpr hi, List.nil_append]
    simp only [hchildren]
    cases hc : c.children.entries.flatMap (childProblems d.interfaceNames c.name) with
    | cons e ps => rfl
    | nil =>
      have hknown : ∀ e ∈ c.children.entries, e.2 ∈ d.interfaceNames := by
        simpa [childProblems, missing_eq_nil] using hc
      have hclass : (⟨c.name, d.interfaceId c.interface, c.fields, c.attributes,
          .ofList (c.children.entries.map fun e => (e.1, d.interfaceId e.2))⟩ : Class) =
            d.toClass c := by
        rw [Document.toClass, ← OrderedMap.ofList_entries (c.children.map d.interfaceId)]
        rfl
      simp only [unlessFirst, hclass, addClass_toClass hi hknown, taken]
      by_cases h : c.name ∈ earlier.map ClassDeclaration.name <;> simp [h]
  · rw [interfaceByName?_of_not_mem rfl hi, missing, if_neg hi]
    rfl

theorem scheduleClass_eq (s : Schedule) (e : String × List String) :
    scheduleClass d.grammar s e =
      unlessFirst (missing d.classNames e.1 (.unknownScheduledClass e.1))
        (s.insert (d.classId e.1) (e.2.map SinkRef.parse)) := by
  have hclass : d.grammar.classByName? e.1 =
      (d.classes.findIdx? fun c => c.name = e.1).map ClassId.mk := by
    rw [Grammar.classByName?, Document.grammar, List.findIdx?_map]
    rfl
  unfold scheduleClass missing
  by_cases h : e.1 ∈ d.classNames
  · rw [hclass, findIdx?_eq_position h, if_pos h]
    rfl
  · rw [hclass, findIdx?_eq_none_of_not_mem h, if_neg h]
    rfl

theorem foldlM_scheduleClass (es : List (String × List String)) :
    es.foldlM (scheduleClass d.grammar) .empty =
      unlessFirst (es.flatMap fun e => missing d.classNames e.1 (.unknownScheduledClass e.1))
        (d.fill es) := by
  have hstep : ∀ xs e, scheduleClass d.grammar (d.fill xs) e =
      unlessFirst (missing d.classNames e.1 (.unknownScheduledClass e.1))
        (d.fill (xs ++ [e])) := by
    intro xs e
    rw [scheduleClass_eq, Document.fill, Document.fill, List.foldl_concat]
  have hall : es.foldlM (scheduleClass d.grammar) (d.fill []) = _ :=
    foldlM_eq_unlessFirst hstep es
  rw [← map_snd_withEarlier es, List.flatMap_map, map_snd_withEarlier]
  exact hall

/-- Resolving a document gives its model unless there is a problem, and else the first one. -/
theorem resolve_eq (d : Document) :
    d.resolve = unlessFirst d.problems ⟨d.grammar, d.fill d.schedule.entries⟩ := by
  have hi : d.interfaces.foldlM declareInterface ⟨[], []⟩ = unlessFirst _ ⟨d.interfaces, []⟩ :=
    foldlM_eq_unlessFirst declareInterface_eq d.interfaces
  have hc : d.classes.foldlM declareClass ⟨d.interfaces, []⟩ = unlessFirst _ d.grammar :=
    foldlM_eq_unlessFirst declareClass_eq d.classes
  rw [Document.problems, List.append_assoc, Document.resolve, Grammar.empty, hi]
  apply unlessFirst_bind
  rw [hc]
  apply unlessFirst_bind
  rw [foldlM_scheduleClass]
  cases d.schedule.entries.flatMap _ <;> rfl

/-! ## Reading a model back -/

/-- A class says what its declaration says, with names in place of handles. -/
structure Restores (g : Grammar) (c : Class) (decl : ClassDeclaration) : Prop where
  name : c.name = decl.name
  interface : (g.interface? c.interface).map Interface.name = some decl.interface
  fields : c.fields = decl.fields
  attributes : c.attributes = decl.attributes
  children : c.children.map (fun id => (g.interface? id).map Interface.name) =
    decl.children.map some

/-- Reading a model by names gives a document, except for repetitions among the sinks. -/
structure ReadsBack (m : Model) (d : Document) : Prop where
  interfaces : m.grammar.interfaces = d.interfaces
  classes : List.Forall₂ (Restores m.grammar) m.grammar.classes d.classes
  interfaceByName : ∀ id i, m.grammar.interface? id = some i →
    m.grammar.interfaceByName? i.name = some id
  classByName : ∀ id c, m.grammar.class? id = some c → m.grammar.classByName? c.name = some id
  scheduled : m.schedule.entries.keys.map (fun id => (m.grammar.class? id).map Class.name) =
    d.schedule.keys.map some
  sinks : ∀ id c, m.grammar.class? id = some c → m.schedule.sinks id =
    (((d.schedule.get? c.name).getD []).map SinkRef.parse).eraseDups

theorem interface?_interfaceId {name : String} (h : name ∈ d.interfaceNames) :
    (d.grammar.interface? (d.interfaceId name)).map Interface.name = some name :=
  getElem?_position h

theorem class?_classId {name : String} (h : name ∈ d.classNames) :
    (d.grammar.class? (d.classId name)).map Class.name = some name := by
  have hname := getElem?_position h
  rw [Grammar.class?, Document.grammar, List.getElem?_map, Option.map_map]
  exact hname

theorem restores_toClass {c : ClassDeclaration} (hi : c.interface ∈ d.interfaceNames)
    (hc : ∀ e ∈ c.children.entries, e.2 ∈ d.interfaceNames) :
    Restores d.grammar (d.toClass c) c where
  name := rfl
  interface := interface?_interfaceId hi
  fields := rfl
  attributes := rfl
  children := by
    apply OrderedMap.eq_of_entries_eq
    simp only [Document.toClass, OrderedMap.map, List.map_map]
    apply List.map_congr_left
    intro e he
    simp only [Function.comp_apply, interface?_interfaceId (hc e he)]

theorem classId_inj {n n' : String} (h : n ∈ d.classNames) (h' : n' ∈ d.classNames)
    (heq : d.classId n = d.classId n') : n = n' :=
  position_inj h h' (ClassId.mk.inj heq)

theorem sinks_of_entries {s : Schedule} {es : List (String × List String)}
    (hs : s.entries.entries = es.map d.entry) (hes : ∀ n ∈ es.map Prod.fst, n ∈ d.classNames)
    {name : String} (hname : name ∈ d.classNames) : s.sinks (d.classId name) =
      (((OrderedMap.lookup name es).getD []).map SinkRef.parse).eraseDups := by
  have hlookup : OrderedMap.lookup (d.classId name) (es.map d.entry) =
      (OrderedMap.lookup name es).map fun refs => (refs.map SinkRef.parse).eraseDups :=
    OrderedMap.lookup_map (g := fun refs => (refs.map SinkRef.parse).eraseDups)
      fun e he => classId_inj (hes _ (List.mem_map_of_mem he)) hname
  rw [Schedule.sinks, OrderedMap.get?, hs, hlookup]
  cases OrderedMap.lookup name es <;> rfl

/-- Filling in entries of different classes keeps them as they are, without repetitions. -/
theorem entries_fill {es : List (String × List String)} (hnodup : (es.map Prod.fst).Nodup)
    (hes : ∀ n ∈ es.map Prod.fst, n ∈ d.classNames) :
    (d.fill es).entries.entries = es.map d.entry := by
  induction es using List.reverseRecOn with
  | nil => rfl
  | append_singleton es e ih =>
    obtain ⟨hnodup, hnew⟩ := Grammar.nodup_names_concat.mp hnodup
    rw [List.map_append, List.forall_mem_append] at hes
    obtain ⟨hes, he⟩ := hes
    have hname : e.1 ∈ d.classNames := he e.1 (by simp)
    have hfilled := ih hnodup hes
    have hnone : (d.fill es).sinks (d.classId e.1) = ([] : List SinkRef).eraseDups := by
      rw [sinks_of_entries hfilled hes hname, OrderedMap.lookup_of_not_mem hnew]
      rfl
    have habsent : d.classId e.1 ∉ (es.map d.entry).map Prod.fst := by
      rw [List.map_map]
      intro hmem
      obtain ⟨e', he', heq⟩ := List.mem_map.mp hmem
      have hsame := classId_inj (hes _ (List.mem_map_of_mem he')) hname heq
      exact hnew (hsame ▸ List.mem_map_of_mem he')
    rw [Document.fill, List.foldl_concat, ← Document.fill, Schedule.insert, hnone,
      Schedule.appendNew_eraseDups]
    simp only [OrderedMap.insert]
    rw [hfilled, OrderedMap.put_of_not_mem habsent, List.map_append]
    rfl

theorem class?_grammar {id : ClassId} {c : Class} (h : d.grammar.class? id = some c) :
    ∃ decl, d.classes[id.index]? = some decl ∧ d.toClass decl = c := by
  rw [Grammar.class?, Document.grammar, List.getElem?_map] at h
  exact Option.map_eq_some_iff.mp h

theorem names_grammar : d.grammar.classes.map Class.name = d.classNames := by
  rw [Document.grammar, List.map_map]
  rfl

theorem readsBack_of_consistent (h : d.Consistent) :
    ReadsBack ⟨d.grammar, d.fill d.schedule.entries⟩ d where
  interfaces := rfl
  classes := by
    rw [Document.grammar, List.forall₂_map_left_iff, List.forall₂_same]
    exact fun c hc => restores_toClass (h.implemented c hc) (h.children c hc)
  interfaceByName := fun id i hi => by
    have hfind := (findIdx?_name_eq_some_iff h.interfaces).mpr ⟨i, hi, rfl⟩
    exact Grammar.interfaceByName?_eq_some_iff.mpr hfind
  classByName := fun id c hc => by
    have hnodup : (d.grammar.classes.map Class.name).Nodup := names_grammar ▸ h.classes
    have hfind := (findIdx?_name_eq_some_iff hnodup).mpr ⟨c, hc, rfl⟩
    exact Grammar.classByName?_eq_some_iff.mpr hfind
  scheduled := by
    rw [OrderedMap.keys, entries_fill d.schedule.nodup_keys h.scheduled, OrderedMap.keys,
      List.map_map, List.map_map, List.map_map]
    apply List.map_congr_left
    intro e he
    exact class?_classId (h.scheduled _ (List.mem_map_of_mem he))
  sinks := fun id c hc => by
    obtain ⟨decl, hdecl, rfl⟩ := class?_grammar hc
    have hname : decl.name ∈ d.classNames := List.mem_map_of_mem (List.mem_of_getElem? hdecl)
    have hid : d.classId decl.name = id := congrArg ClassId.mk (position_eq h.classes hdecl)
    rw [← hid]
    exact sinks_of_entries (entries_fill d.schedule.nodup_keys h.scheduled) h.scheduled hname

/-- Resolving succeeds exactly on consistent documents, and then all that is written can be read
back from the model; else it fails with the first problem. -/
theorem resolve_exact (d : Document) :
    ((∃ m, d.resolve = .ok m) ↔ d.Consistent) ∧ (∀ m, d.resolve = .ok m → m.ReadsBack d) ∧
      ∀ e, d.resolve = .error e ↔ d.problems.head? = some e := by
  rw [resolve_eq]
  refine ⟨?_, ?_, fun e => unlessFirst_eq_error⟩
  · simp only [unlessFirst_eq_ok, exists_and_left, exists_eq', and_true]
    exact problems_eq_nil
  · intro m hm
    obtain ⟨hnone, rfl⟩ := unlessFirst_eq_ok.mp hm
    exact readsBack_of_consistent (problems_eq_nil.mp hnone)

def repeatedSink : Document where
  interfaces := [{ name := "Node" }]
  classes := [{ name := "Branch", interface := "Node", children := .ofList [("left", "Node")] }]
  schedule := .ofList [("Branch", ["sum", "left@sum", "sum"])]

def strayChild : Document :=
  { repeatedSink with
    classes := repeatedSink.classes ++
      [{ name := "Branch", interface := "Node", children := .ofList [("left", "Tree")] }] }

/-- The missing interface of the child comes before the name that is taken. -/
theorem repeated_sink_resolves :
    (∃ m, repeatedSink.resolve = .ok m ∧ m.ReadsBack repeatedSink) ∧
      strayChild.resolve = .error (.unknownChildInterface "Branch" "left" "Tree") := by
  have hconsistent : repeatedSink.Consistent := problems_eq_nil.mp (by decide)
  obtain ⟨m, hm⟩ := (resolve_exact repeatedSink).1.mpr hconsistent
  exact ⟨⟨m, hm, (resolve_exact repeatedSink).2.1 m hm⟩,
    ((resolve_exact strayChild).2.2 _).mpr (by decide)⟩

end Model
end GrammarLayout
