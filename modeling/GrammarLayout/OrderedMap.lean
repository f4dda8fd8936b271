/-!
# Maps that remember insertion order

An ordered map is the list of its entries, each key once, in the order in which the keys first
came. Inserting a key again replaces its value and keeps its place.
-/

namespace GrammarLayout

/-- Entries in insertion order; no key occurs twice. -/
structure OrderedMap (κ α : Type) where
  entries : List (κ × α)
  nodup : (entries.map Prod.fst).Nodup := by simp
  deriving DecidableEq

namespace OrderedMap

variable {κ α β : Type}

def empty : OrderedMap κ α := ⟨[], by simp⟩

instance : Inhabited (OrderedMap κ α) := ⟨empty⟩

def keys (m : OrderedMap κ α) : List κ := m.entries.map Prod.fst

def values (m : OrderedMap κ α) : List α := m.entries.map Prod.snd

def size (m : OrderedMap κ α) : Nat := m.entries.length

def isEmpty (m : OrderedMap κ α) : Bool := m.entries.isEmpty

theorem nodup_keys (m : OrderedMap κ α) : m.keys.Nodup := m.nodup

theorem length_keys (m : OrderedMap κ α) : m.keys.length = m.size := by
  simp [keys, size]

variable [DecidableEq κ]

/-- The value of the first entry with the key. -/
def lookup (k : κ) : List (κ × α) → Option α
  | [] => none
  | (k', a) :: rest => if k' = k then some a else lookup k rest

/-- Replaces the value of the first entry with the key, or adds an entry at the end. -/
def put (k : κ) (a : α) : List (κ × α) → List (κ × α)
  | [] => [(k, a)]
  | (k', a') :: rest => if k' = k then (k', a) :: rest else (k', a') :: put k a rest

theorem map_fst_put (k : κ) (a : α) (es : List (κ × α)) :
    (put k a es).map Prod.fst =
      if k ∈ es.map Prod.fst then es.map Prod.fst else es.map Prod.fst ++ [k] := by
  induction es with
  | nil => simp [put]
  | cons e es ih =>
    obtain ⟨k', a'⟩ := e
    by_cases h : k' = k
    · simp [put, h]
    · have h' : k ≠ k' := fun e => h e.symm
      simp only [put, if_neg h, List.map_cons, ih, List.mem_cons, h', false_or]
      split <;> simp

theorem lookup_put (k k' : κ) (a : α) (es : List (κ × α)) :
    lookup k' (put k a es) = if k = k' then some a else lookup k' es := by
  induction es with
  | nil => simp [put, lookup]
  | cons e es ih =>
    obtain ⟨j, b⟩ := e
    by_cases hj : j = k
    · subst hj
      by_cases hk : j = k' <;> simp [put, lookup, hk]
    · by_cases hk : k = k'
      · subst hk
        simp [put, lookup, hj, ih]
      · simp only [put, if_neg hj, lookup, ih, if_neg hk]

theorem put_put (k : κ) (a b : α) (es : List (κ × α)) : put k b (put k a es) = put k b es := by
  induction es with
  | nil => simp [put]
  | cons e es ih =>
    obtain ⟨j, c⟩ := e
    by_cases hj : j = k <;> simp [put, hj, ih]

theorem map_put {f : α → β} (k : κ) (a : α) (es : List (κ × α)) :
    (put k a es).map (fun e => (e.1, f e.2)) = put k (f a) (es.map fun e => (e.1, f e.2)) := by
  induction es with
  | nil => rfl
  | cons e es ih =>
    obtain ⟨j, c⟩ := e
    by_cases hj : j = k <;> simp [put, hj, ih]

theorem lookup_of_not_mem {k : κ} {es : List (κ × α)} (h : k ∉ es.map Prod.fst) :
    lookup k es = none := by
  induction es with
  | nil => rfl
  | cons e es ih =>
    rw [List.map_cons, List.mem_cons, not_or] at h
    rw [lookup, if_neg fun he => h.1 he.symm, ih h.2]

theorem mem_of_lookup {k : κ} {a : α} {es : List (κ × α)} (h : lookup k es = some a) :
    (k, a) ∈ es := by
  induction es with
  | nil => cases h
  | cons e es ih =>
    obtain ⟨j, b⟩ := e
    by_cases hj : j = k
    · simp_all [lookup]
    · rw [lookup, if_neg hj] at h
      exact List.mem_cons_of_mem _ (ih h)

theorem mem_put {k : κ} {a : α} {e : κ × α} {es : List (κ × α)} (h : e ∈ put k a es) :
    e = (k, a) ∨ e ∈ es := by
  induction es with
  | nil => exact .inl (List.mem_singleton.mp h)
  | cons e' es ih =>
    obtain ⟨j, b⟩ := e'
    by_cases hj : j = k
    · rw [put, if_pos hj, List.mem_cons] at h
      exact h.imp (fun he => hj ▸ he) (List.mem_cons_of_mem _)
    · rw [put, if_neg hj, List.mem_cons] at h
      rcases h with rfl | h
      · exact .inr List.mem_cons_self
      · exact (ih h).imp_right (List.mem_cons_of_mem _)

/-- Looking up a key that is told from the others also after renaming. -/
theorem lookup_map {κ' : Type} [DecidableEq κ'] {f : κ → κ'} {g : α → β} {k : κ}
    {es : List (κ × α)} (h : ∀ e ∈ es, f e.1 = f k → e.1 = k) :
    lookup (f k) (es.map fun e => (f e.1, g e.2)) = (lookup k es).map g := by
  induction es with
  | nil => rfl
  | cons e es ih =>
    have hrest := ih fun e' he' => h e' (List.mem_cons_of_mem _ he')
    by_cases hk : e.1 = k
    · simp [lookup, hk]
    · have hf : f e.1 ≠ f k := fun hf => hk (h e List.mem_cons_self hf)
      simp [lookup, hk, hf, hrest]

def get? (m : OrderedMap κ α) (k : κ) : Option α := lookup k m.entries

def contains (m : OrderedMap κ α) (k : κ) : Bool := (m.get? k).isSome

def insert (m : OrderedMap κ α) (k : κ) (a : α) : OrderedMap κ α where
  entries := put k a m.entries
  nodup := by
    rw [map_fst_put]
    split
    · exact m.nodup
    · next h =>
      rw [List.nodup_append]
      exact ⟨m.nodup, by simp, fun x hx y hy => by
        rw [List.mem_singleton] at hy
        subst hy
        exact fun e => h (e ▸ hx)⟩

def ofList (es : List (κ × α)) : OrderedMap κ α :=
  es.foldl (fun m e => m.insert e.1 e.2) empty

theorem put_of_not_mem {k : κ} {es : List (κ × α)} (h : k ∉ es.map Prod.fst) (a : α) :
    put k a es = es ++ [(k, a)] := by
  induction es with
  | nil => rfl
  | cons e es ih =>
    rw [List.map_cons, List.mem_cons, not_or] at h
    rw [put, if_neg fun he => h.1 he.symm, ih h.2]
    rfl

theorem entries_foldl_insert (m : OrderedMap κ α) {es : List (κ × α)}
    (h : ((m.entries ++ es).map Prod.fst).Nodup) :
    (es.foldl (fun m e => m.insert e.1 e.2) m).entries = m.entries ++ es := by
  induction es generalizing m with
  | nil => simp
  | cons e es ih =>
    have hnew : e.1 ∉ m.entries.map Prod.fst := by
      rw [List.map_append, List.nodup_append] at h
      exact fun hmem => h.2.2 _ hmem _ List.mem_cons_self rfl
    have hinsert : (m.insert e.1 e.2).entries = m.entries ++ [e] := put_of_not_mem hnew e.2
    rw [List.foldl_cons, ih, hinsert, List.append_assoc]
    · rfl
    · rw [hinsert, List.append_assoc]
      exact h

omit [DecidableEq κ] in
theorem eq_of_entries_eq {m m' : OrderedMap κ α} (h : m.entries = m'.entries) : m = m' := by
  obtain ⟨es, hes⟩ := m
  obtain ⟨es', hes'⟩ := m'
  cases h
  rfl

theorem ofList_entries (m : OrderedMap κ α) : ofList m.entries = m :=
  eq_of_entries_eq (entries_foldl_insert empty m.nodup)

theorem keys_insert (m : OrderedMap κ α) (k : κ) (a : α) :
    (m.insert k a).keys = if k ∈ m.keys then m.keys else m.keys ++ [k] :=
  map_fst_put k a m.entries

@[simp] theorem get?_insert (m : OrderedMap κ α) (k k' : κ) (a : α) :
    (m.insert k a).get? k' = if k = k' then some a else m.get? k' :=
  lookup_put k k' a m.entries

/-- Changes every value and keeps keys and order. -/
def map (f : α → β) (m : OrderedMap κ α) : OrderedMap κ β where
  entries := m.entries.map fun e => (e.1, f e.2)
  nodup := by
    have h : (m.entries.map fun e => (e.1, f e.2)).map Prod.fst = m.entries.map Prod.fst := by
      simp [List.map_map, Function.comp_def]
    rw [h]
    exact m.nodup

omit [DecidableEq κ] in
@[simp] theorem keys_map (f : α → β) (m : OrderedMap κ α) : (m.map f).keys = m.keys := by
  simp [keys, map, List.map_map, Function.comp_def]

theorem map_insert (f : α → β) (m : OrderedMap κ α) (k : κ) (a : α) :
    (m.insert k a).map f = (m.map f).insert k (f a) :=
  eq_of_entries_eq (map_put k a m.entries)

@[simp] theorem get?_map (f : α → β) (m : OrderedMap κ α) (k : κ) :
    (m.map f).get? k = (m.get? k).map f :=
  lookup_map (f := id) (g := f) fun _ _ h => h

end OrderedMap
end GrammarLayout
