import GrammarLayout.Command.Run
import GrammarLayout.Proofs.Command.Views
import GrammarLayout.Proofs.Registry.Handles
import GrammarLayout.Proofs.Rendering

/-!
# What the commands come to

On any lawful system, both commands come to the layout of the bytes that they read. A layout is
rendered or, where it is too wide to be listed, stops the program; then it is delivered.
-/

namespace GrammarLayout

open Json

namespace Model

theorem built_declareInterface {g g' : Grammar} {i : Interface} (hg : g.Built)
    (h : declareInterface g i = .ok g') : g'.Built := by
  unfold declareInterface at h
  split at h
  · next answer hi =>
    cases h
    exact hg.addInterface hi
  · cases h

theorem built_declareClass {g g' : Grammar} {c : ClassDeclaration} (hg : g.Built)
    (h : declareClass g c = .ok g') : g'.Built := by
  unfold declareClass at h
  split at h
  · cases h
  · split at h
    · cases h
    · split at h
      · next answer hc =>
        cases h
        exact hg.addClass hc
      · cases h

theorem built_ofJson {text : String} {m : Model} (h : ofJson text = .ok m) : m.grammar.Built := by
  unfold ofJson at h
  split at h
  · obtain ⟨g, hg, h⟩ := bind_eq_ok.mp h
    obtain ⟨g', hg', h⟩ := bind_eq_ok.mp h
    obtain ⟨s, _, h⟩ := bind_eq_ok.mp h
    cases h
    have hbuilt := foldlM_invariant (fun _ _ _ => built_declareInterface) .empty hg
    exact foldlM_invariant (fun _ _ _ => built_declareClass) hbuilt hg'
  · cases h

end Model

namespace Command

variable {S File : Type} {sys : System (StateM S)} {v : View S File} {overflow : Overflow}
  {options : LogOptions} {model path : String} {s : S} {l : Layout}

def layoutOf (overflow : Overflow) (path : String) (bytes : Except FileError ByteArray) :
    Except Failure Layout := do
  let model ← (loadModel path bytes).mapError .error
  (planModel overflow model).mapError .ofRegistry

theorem loadModel_eq_ok {bytes : Except FileError ByteArray} {m : Model}
    (h : loadModel path bytes = .ok m) : m.grammar.Built := by
  unfold loadModel at h
  split at h
  · next text _ =>
    unfold parseModel at h
    cases hm : Model.ofJson text with
    | ok m' =>
      rw [hm] at h
      cases h
      exact Model.built_ofJson hm
    | error e =>
      rw [hm] at h
      cases h
  · cases h

theorem mapError_eq_ok {ε ε' α : Type} {x : Except ε α} {f : ε → ε'} {a : α} :
    x.mapError f = .ok a ↔ x = .ok a := by
  cases x <;> simp [Except.mapError]

theorem mapError_eq_error {ε ε' α : Type} {x : Except ε α} {f : ε → ε'} {e : ε'} :
    x.mapError f = .error e ↔ ∃ e', x = .error e' ∧ f e' = e := by
  cases x <;> simp [Except.mapError]

theorem layoutOf_eq_ok {bytes : Except FileError ByteArray} {m : Model}
    (hm : loadModel path bytes = .ok m) (hl : planModel overflow m = .ok l) :
    layoutOf overflow path bytes = .ok l := by
  unfold layoutOf
  rw [hm]
  exact mapError_eq_ok.mpr hl

theorem reachable_of_layoutOf {bytes : Except FileError ByteArray}
    (h : layoutOf overflow path bytes = .ok l) :
    ∃ g r, Registry.Reachable overflow g r ∧ r.finish = l := by
  obtain ⟨m, _, hm⟩ := bind_eq_ok.mp h
  exact ⟨m.grammar, Registry.plan_eq_ok (mapError_eq_ok.mp hm)⟩

/-- No foreign handle stops the planning of a model that has been read. -/
theorem panic_of_layoutOf {bytes : Except FileError ByteArray} {p : Panic}
    (h : layoutOf overflow path bytes = .error (.panic p)) :
    p = .overflow ∧ overflow = .stops := by
  unfold layoutOf at h
  cases hm : loadModel path bytes with
  | error e =>
    rw [hm] at h
    cases h
  | ok m =>
    rw [hm] at h
    obtain ⟨e, he, hp⟩ := mapError_eq_error.mp h
    have hforeign := Registry.noForeign_plan (loadModel_eq_ok hm).wellFormed overflow m.schedule
    cases e with
    | overflow =>
      cases hp
      exact ⟨rfl, Registry.stops_of_plan he⟩
    | refused e =>
      cases e with
      | foreign handle => exact absurd he (hforeign handle)
      | unsupportedType | maybeValue | unresolvedProperty | unknownChildRole => cases hp

theorem rendering_eq {bytes : Except FileError ByteArray}
    (h : layoutOf overflow path bytes = .ok l) (format : OutputFormat) (p : Palette) :
    rendering l format p =
      if format = .text ∧ l.TooWide then .error .width else .ok (render l format p) := by
  obtain ⟨g, r, hr, rfl⟩ := reachable_of_layoutOf h
  cases format with
  | text =>
    rw [rendering, hr.dump_eq]
    simp only [true_and]
    rfl
  | json =>
    rw [rendering, hr.toJson?_finish, if_neg (by simp)]
    rfl

theorem toList_render (l : Layout) (p : Palette) :
    (render l .json p).toList = l.toJson.write 0 ++ ['\n'] := by
  rw [render, String.toList_append, Value.pretty, String.toList_ofList]
  rfl

/-- A layout that has been planned is read back from its JSON form. -/
theorem read_render_json {bytes : Except FileError ByteArray}
    (h : layoutOf overflow path bytes = .ok l) (p : Palette) :
    Value.read (render l .json p).toList = .ok l.toJson := by
  obtain ⟨g, r, _, rfl⟩ := reachable_of_layoutOf h
  have hword : ∀ w : UInt32, w.toNat < UInt64.size := fun w => w.toNat_lt.trans (by decide)
  have hcount : ∀ b ∈ r.finish.buffers, b.count < UInt64.size := by
    intro b hb
    obtain ⟨b, _, rfl⟩ := List.mem_map.mp hb
    exact hword b.length
  have hoffset : ∀ f ∈ r.finish.fields, ∀ k, f.offset? = some k → k < UInt64.size := by
    intro f hf k hk
    obtain ⟨f, _, rfl⟩ := List.mem_map.mp hf
    obtain ⟨s, hs, rfl⟩ := Option.map_eq_some_iff.mp hk
    obtain ⟨s, _, rfl⟩ := Option.map_eq_some_iff.mp hs
    exact hword s.offset
  rw [toList_render]
  exact (Layout.readable_toJson hcount hoffset).read_write blanks_nil (blanks_singleton rfl)

def result {α : Type} (action : ExceptT Failure (StateM S) α) (s : S) : Except Failure α :=
  (action.run.run s).1

def left {α : Type} (action : ExceptT Failure (StateM S) α) (s : S) : S := (action.run.run s).2

def bytesOf (sys : System (StateM S)) (path : String) (s : S) : Except FileError ByteArray :=
  ((contents sys path).run s).1

theorem unseen_contents (h : sys.Lawful v) (path : String) (s : S) :
    v.Unseen s ((contents sys path).run s).2 := by
  unfold contents
  split
  · exact h.readInput s
  · exact h.readFile path s

theorem bytesOf_log (h : sys.Lawful v) (options : LogOptions) (event : LogEvent) (path : String)
    (s : S) : bytesOf sys path ((sys.log options event).run s).2 = bytesOf sys path s := by
  unfold bytesOf contents
  split
  · exact h.readInput_log options event s
  · exact h.readFile_log options event path s

theorem run_lift {α : Type} (x : StateM S α) (s : S) :
    (ExceptT.lift x : ExceptT Failure (StateM S) α).run.run s = (.ok (x.run s).1, (x.run s).2) :=
  rfl

theorem run_mk {α : Type} (x : Except Failure α) (s : S) :
    (ExceptT.mk (pure x) : ExceptT Failure (StateM S) α).run.run s = (x, s) :=
  rfl

/-- Planning comes to the layout of the bytes that are read, and nothing is seen of it. -/
theorem run_layout (h : sys.Lawful v) (overflow : Overflow) (options : LogOptions)
    (path : String) (s : S) :
    ∃ s', (layout sys overflow options path).run.run s =
      (layoutOf overflow path (bytesOf sys path s), s') ∧ v.Unseen s s' := by
  have hcontents := unseen_contents h path s
  unfold layout layoutOf bytesOf
  rw [run_bind, run_lift]
  dsimp only
  rw [run_bind, run_mk]
  cases loadModel path ((contents sys path).run s).1 with
  | error e => exact ⟨_, rfl, hcontents⟩
  | ok m => exact ⟨_, rfl, hcontents.trans (h.log options _ _)⟩

theorem run_check (overflow : Overflow) (options : LogOptions) (path : String) (s : S) :
    (check sys overflow options path).run.run s =
      (((layout sys overflow options path).run.run s).1.map summary,
        ((layout sys overflow options path).run.run s).2) := by
  unfold check
  rw [map_eq_pure_bind, run_bind]
  rcases (layout sys overflow options path).run.run s with ⟨_ | _, _⟩ <;> rfl

/-- What is left to do with the text of a layout. -/
def deliver (sys : System (StateM S)) (output : Option String) (text : String) (s : S) :
    Except Failure (Option String) × S :=
  match output with
  | none => (.ok (some text), s)
  | some path =>
    let written := (sys.writeFile path text).run s
    (written.1.mapError (fun e => .error (.write path e)) |>.map fun _ => none, written.2)

theorem run_execute (o : PlanOrder) (s : S) :
    (o.execute sys overflow options).run.run s =
      match (layout sys overflow options o.model).run.run s with
      | (.error e, s') => (.error e, s')
      | (.ok l, s') =>
        match rendering l o.format o.palette with
        | .error p => (.error (.panic p), s')
        | .ok text => deliver sys o.output text s' := by
  unfold PlanOrder.execute
  rw [run_bind]
  rcases (layout sys overflow options o.model).run.run s with ⟨e | l, s'⟩
  · rfl
  · dsimp only
    rw [run_bind, run_mk]
    cases rendering l o.format o.palette with
    | error p => rfl
    | ok text =>
      dsimp only [Except.mapError]
      unfold deliver
      cases o.output with
      | none => rfl
      | some path =>
        dsimp only
        rw [run_bind, run_lift]
        dsimp only
        rcases (sys.writeFile path text).run s' with ⟨e | _, _⟩ <;> rfl

theorem result_layout (h : sys.Lawful v) (overflow : Overflow) (options : LogOptions)
    (path : String) (s : S) :
    result (layout sys overflow options path) s = layoutOf overflow path (bytesOf sys path s) := by
  obtain ⟨s', hrun, _⟩ := run_layout h overflow options path s
  rw [result, hrun]

theorem result_check (h : sys.Lawful v) (overflow : Overflow) (options : LogOptions)
    (path : String) (s : S) :
    result (check sys overflow options path) s =
      (layoutOf overflow path (bytesOf sys path s)).map summary := by
  obtain ⟨s', hrun, _⟩ := run_layout h overflow options path s
  rw [result, run_check, hrun]

theorem result_execute (h : sys.Lawful v) (overflow : Overflow) (options : LogOptions)
    (model : String) (format : OutputFormat) (color : Bool) (s : S) :
    result ((PlanOrder.mk model format color none).execute sys overflow options) s =
      match layoutOf overflow model (bytesOf sys model s) with
      | .error e => .error e
      | .ok l =>
        if format = .text ∧ l.TooWide then .error (.panic .width)
        else .ok (some (render l format (.ofBool color))) := by
  obtain ⟨s', hrun, _⟩ := run_layout h overflow options model s
  rw [result, run_execute, hrun]
  cases hl : layoutOf overflow model (bytesOf sys model s) with
  | error e => rfl
  | ok l =>
    have hpalette : (PlanOrder.mk model format color none).palette = .ofBool color := by
      simp [PlanOrder.palette]
    dsimp only
    rw [hpalette, rendering_eq hl]
    by_cases hw : format = .text ∧ l.TooWide
    · simp only [if_pos hw]
    · simp only [if_neg hw]
      rfl

end Command
end GrammarLayout
