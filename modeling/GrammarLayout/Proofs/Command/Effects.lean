import GrammarLayout.Proofs.Command.Layouts

/-!
# What the commands do to a system

The two commands on one model succeed and fail alike, but for a listing that is too wide, and
`check` counts what `plan` renders. A command that fails prints nothing. Files change only where a
layout is saved, and then one file at most: where the path leads to something else, the text is sent
there.
-/

namespace GrammarLayout.Command

open Json

variable {S File : Type} {sys : System (StateM S)} {v : View S File} {overflow : Overflow}
  {options : LogOptions} {model path : String} {s : S} {l : Layout}

/-! ## Agreement -/

/-- The commands succeed and fail alike, with whatever options they log, except where only `plan` is
stopped by a listing that is too wide; and the line of `check` counts what the JSON form lists. -/
structure Agree (sys : System (StateM S)) (overflow : Overflow) (s : S) (model : String) : Prop where
  succeed : ∀ options options' format color,
    (∃ text, result ((PlanOrder.mk model format color none).execute sys overflow options) s =
        .ok (some text)) ↔
      (∃ line, result (check sys overflow options' model) s = .ok line) ∧
        ¬ (format = .text ∧ ∃ l, result (layout sys overflow options model) s = .ok l ∧ l.TooWide)
  fail : ∀ options options' format color e,
    result ((PlanOrder.mk model format color none).execute sys overflow options) s =
        .error (.error e) ↔
      result (check sys overflow options' model) s = .error (.error e)
  panic : ∀ options options' format color p,
    result ((PlanOrder.mk model format color none).execute sys overflow options) s =
        .error (.panic p) ↔
      result (check sys overflow options' model) s = .error (.panic p) ∨
        p = .width ∧ format = .text ∧
          ∃ l, result (layout sys overflow options model) s = .ok l ∧ l.TooWide
  check_panic : ∀ options p, result (check sys overflow options model) s = .error (.panic p) →
    p = .overflow ∧ overflow = .stops
  counts : ∀ options options' line, result (check sys overflow options model) s = .ok line →
    ∃ buffers fields : List Value,
      line = s!"ok: {fields.length} fields in {buffers.length} buffers" ∧
      let form : Value := .object [("buffers", .array buffers), ("fields", .array fields)]
      (∀ color, result ((PlanOrder.mk model .json color none).execute sys overflow options') s =
        .ok (some (form.pretty ++ "\n"))) ∧
      Value.read (form.pretty ++ "\n").toList = .ok form

theorem agree (h : sys.Lawful v) (overflow : Overflow) (s : S) (model : String) :
    Agree sys overflow s model where
  succeed options options' format color := by
    rw [result_execute h, result_check h, result_layout h]
    cases layoutOf overflow model (bytesOf sys model s) with
    | error e => simp [Except.map]
    | ok l => by_cases hw : format = .text ∧ l.TooWide <;> simp [Except.map, hw]
  fail options options' format color e := by
    rw [result_execute h, result_check h]
    cases layoutOf overflow model (bytesOf sys model s) with
    | error e => simp [Except.map]
    | ok l => by_cases hw : format = .text ∧ l.TooWide <;> simp [Except.map, hw]
  panic options options' format color p := by
    rw [result_execute h, result_check h, result_layout h]
    cases layoutOf overflow model (bytesOf sys model s) with
    | error e => simp [Except.map]
    | ok l => by_cases hw : format = .text ∧ l.TooWide <;> simp [Except.map, hw, eq_comm]
  check_panic options p hp := by
    rw [result_check h] at hp
    cases hl : layoutOf overflow model (bytesOf sys model s) with
    | ok l =>
      rw [hl] at hp
      cases hp
    | error e =>
      rw [hl] at hp
      cases hp
      exact panic_of_layoutOf hl
  counts options options' line hline := by
    rw [result_check h] at hline
    cases hl : layoutOf overflow model (bytesOf sys model s) with
    | error e =>
      rw [hl] at hline
      cases hline
    | ok l =>
      rw [hl] at hline
      cases hline
      refine ⟨l.buffers.map Buffer.toJson, l.fields.map l.fieldToJson, ?_, ?_, ?_⟩
      · rw [List.length_map, List.length_map]
        rfl
      · intro color
        rw [result_execute h, hl]
        rfl
      · exact read_render_json hl .off

/-! ## What is left behind -/

/-- A run has ended with a code. It has changed no file and printed a text. -/
structure Leaves (v : View S File) (s : S) (code : UInt32) (text : String) (run : UInt32 × S) :
    Prop where
  code : run.1 = code
  kept : v.Kept s run.2
  printed : v.printed run.2 = v.printed s ++ text

structure Writes (v : View S File) (s : S) (d : Destination File) (text : String)
    (run : UInt32 × S) : Prop where
  code : run.1 = 0
  wrote : v.Wrote text s run.2 (.ok ()) d

theorem Leaves.of_unseen {s' : S} {code : UInt32} {text : String} {run : UInt32 × S}
    (hs : v.Unseen s s') (h : Leaves v s' code text run) : Leaves v s code text run where
  code := h.code
  kept f := (h.kept f).trans (hs.kept f)
  printed := hs.printed ▸ h.printed

theorem leaves_of_unseen {s' : S} (hs : v.Unseen s s') (code : UInt32) :
    Leaves v s code "" (code, s') :=
  ⟨rfl, hs.kept, hs.printed.trans String.append_empty.symm⟩

theorem leaves_stop (h : sys.Lawful v) (message : String) (s : S) :
    Leaves v s 101 "" ((stop sys message).run s) :=
  leaves_of_unseen (h.report message s) 101

theorem leaves_printed (h : sys.Lawful v) (text : String) (s : S) :
    Leaves v s 0 text ((printed sys text).run s) := by
  obtain ⟨hok, hkept, hprinted⟩ := h.print text s
  unfold printed
  rw [StateT.run_bind]
  rcases hrun : (sys.print text).run s with ⟨answer, s'⟩
  rw [hrun] at hok hkept hprinted
  cases hok
  exact ⟨rfl, hkept, hprinted⟩

theorem leaves_failed (h : sys.Lawful v) (e : CommandError) (s : S) :
    Leaves v s 1 "" ((failed sys e).run s) := by
  obtain ⟨hok, hunseen⟩ := h.complain s!"error: {e.message}\n" s
  unfold failed
  rw [StateT.run_bind]
  rcases hrun : (sys.complain s!"error: {e.message}\n").run s with ⟨answer, s'⟩
  rw [hrun] at hok hunseen
  cases hok
  exact leaves_of_unseen hunseen 1

/-- The state in which a command begins whose start has been logged. -/
def started (sys : System (StateM S)) (options : LogOptions) (command model : String) (s : S) : S :=
  ((sys.log options (.start command model)).run s).2

theorem run_perform_check (environment : LogSettings) (terminal : Bool) (model : String)
    (log : LogSettings) (s : S) {options : LogOptions} (ho : .effective environment log = options) :
    (perform sys overflow environment terminal (.check model log)).run s =
      (conclude sys options "check"
        ((result (check sys overflow options model) (started sys options "check" model s)).map
          fun line => some (line ++ "\n"))).run
        (left (check sys overflow options model) (started sys options "check" model s)) := by
  subst ho
  rfl

theorem run_perform_plan (environment : LogSettings) (terminal : Bool) (model : String)
    (format : OutputFormat) (output : Option String) (color : ColorChoice) (log : LogSettings)
    (s : S) {options : LogOptions} (ho : .effective environment log = options) {o : PlanOrder}
    (horder : .ofChoice terminal model format output color = o) :
    (perform sys overflow environment terminal (.plan model format output color log)).run s =
      (conclude sys options "plan"
        (result (o.execute sys overflow options) (started sys options "plan" model s))).run
        (left (o.execute sys overflow options) (started sys options "plan" model s)) := by
  subst ho horder
  rfl

/-- A run prints what its command has come to. An error ends it with code 1, and a panic with code
101; both print nothing. -/
def Ends (v : View S File) (s : S) (run : UInt32 × S) : Except Failure String → Prop
  | .ok text => Leaves v s 0 text run
  | .error (.error _) => Leaves v s 1 "" run
  | .error (.panic _) => Leaves v s 101 "" run

theorem Ends.of_unseen {s' : S} {run : UInt32 × S} {x : Except Failure String}
    (hs : v.Unseen s s') (h : Ends v s' run x) : Ends v s run x := by
  match x, h with
  | .ok _, h => exact Leaves.of_unseen hs h
  | .error (.error _), h => exact Leaves.of_unseen hs h
  | .error (.panic _), h => exact Leaves.of_unseen hs h

theorem ends_conclude (h : sys.Lawful v) (options : LogOptions) (command : String) (s : S)
    (x : Except Failure String) :
    Ends v s ((conclude sys options command (x.map some)).run s) x := by
  match x with
  | .ok text =>
    exact (leaves_printed h text _).of_unseen (h.log options (.footer command true) s)
  | .error (.error e) =>
    exact (leaves_failed h e _).of_unseen (h.log options (.footer command false) s)
  | .error (.panic p) => exact leaves_stop h p.message s

/-- What the commands do to a system. The text that is written to a path depends on neither the
colour that is chosen nor the terminal. -/
structure Effects (sys : System (StateM S)) (v : View S File) (overflow : Overflow)
    (environment : LogSettings) (terminal : Bool) (s : S) (model : String) : Prop where
  check : ∀ log,
    Ends v s ((perform sys overflow environment terminal (.check model log)).run s)
      ((result (check sys overflow (.effective environment log) model) s).map (· ++ "\n"))
  plan_prints : ∀ format color log x,
    result ((PlanOrder.ofChoice terminal model format none color).execute sys overflow
      (.effective environment log)) s = x.map some →
        Ends v s ((perform sys overflow environment terminal
          (.plan model format none color log)).run s) x
  plan_fails : ∀ format output color log f,
    result ((PlanOrder.ofChoice terminal model format output color).execute sys overflow
      (.effective environment log)) s = .error f →
        Ends v s ((perform sys overflow environment terminal
          (.plan model format output color log)).run s) (.error f)
  plan_writes : ∀ format path color log l,
    result (layout sys overflow (.effective environment log) model) s = .ok l →
      ¬ (format = .text ∧ l.TooWide) → (∀ e, v.destination s path ≠ .refused e) →
        Writes v s (v.destination s path) (render l format .off)
          ((perform sys overflow environment terminal
            (.plan model format (some path) color log)).run s)
  plan_refused : ∀ format path color log l e,
    result (layout sys overflow (.effective environment log) model) s = .ok l →
      ¬ (format = .text ∧ l.TooWide) → v.destination s path = .refused e →
        result ((PlanOrder.ofChoice terminal model format (some path) color).execute sys overflow
          (.effective environment log)) s = .error (.error (.write path e))

/-- An order is carried out on the layout of the bytes that are read, of which nothing is seen. -/
theorem exists_run_execute (h : sys.Lawful v) (overflow : Overflow) (options : LogOptions)
    (o : PlanOrder) (s : S) :
    ∃ s', v.Unseen s s' ∧ (o.execute sys overflow options).run.run s =
      match layoutOf overflow o.model (bytesOf sys o.model s) with
      | .error f => (.error f, s')
      | .ok l =>
        if o.format = .text ∧ l.TooWide then (.error (.panic .width), s')
        else deliver sys o.output (render l o.format o.palette) s' := by
  obtain ⟨s', hrun, hunseen⟩ := run_layout h overflow options o.model s
  refine ⟨s', hunseen, ?_⟩
  rw [run_execute, hrun]
  cases hl : layoutOf overflow o.model (bytesOf sys o.model s) with
  | error f => rfl
  | ok l =>
    dsimp only
    rw [rendering_eq hl]
    by_cases hw : o.format = .text ∧ l.TooWide
    · simp only [if_pos hw]
    · simp only [if_neg hw]

theorem deliver_cases (h : sys.Lawful v) (text path : String) (s : S) :
    (∃ e, v.destination s path = .refused e ∧
      (deliver sys (some path) text s).1 = .error (.error (.write path e)) ∧
      v.Unseen s (deliver sys (some path) text s).2) ∨
    (∀ e, v.destination s path ≠ .refused e) ∧
      (deliver sys (some path) text s).1 = .ok none ∧
      v.Wrote text s (deliver sys (some path) text s).2 (.ok ()) (v.destination s path) := by
  have hwrote := h.writeFile path text s
  unfold deliver
  dsimp only
  cases hd : v.destination s path with
  | refused e =>
    rw [hd] at hwrote
    exact .inl ⟨e, rfl, by rw [hwrote.1]; rfl, hwrote.2⟩
  | file | standardOutput | elsewhere =>
    rw [hd] at hwrote
    exact .inr ⟨nofun, by rw [hwrote.1]; rfl, hwrote.1 ▸ hwrote⟩

theorem deliver_congr (h : sys.Lawful v) (output : Option String) (text : String) {s s' : S}
    (hs : v.destination s' = v.destination s) :
    (deliver sys output text s').1 = (deliver sys output text s).1 := by
  cases output with
  | none => rfl
  | some path =>
    rcases deliver_cases h text path s with ⟨e, hd, hx, _⟩ | ⟨hd, hx, _⟩ <;>
      rcases deliver_cases h text path s' with ⟨e', hd', hx', _⟩ | ⟨hd', hx', _⟩
    · rw [hs, hd] at hd'
      cases hd'
      rw [hx, hx']
    · exact absurd (hs ▸ hd) (hd' e)
    · exact absurd (hs ▸ hd') (hd e')
    · rw [hx, hx']

theorem unseen_started (h : sys.Lawful v) (options : LogOptions) (command model : String) (s : S) :
    v.Unseen s (started sys options command model s) :=
  h.log options (.start command model) s

theorem bytesOf_started (h : sys.Lawful v) (options : LogOptions) (command model path : String)
    (s : S) : bytesOf sys path (started sys options command model s) = bytesOf sys path s :=
  bytesOf_log h options (.start command model) path s

theorem result_execute_started (h : sys.Lawful v) (overflow : Overflow) (options : LogOptions)
    (command model : String) (o : PlanOrder) (s : S) :
    result (o.execute sys overflow options) (started sys options command model s) =
      result (o.execute sys overflow options) s := by
  obtain ⟨s₁, hs₁, hrun₁⟩ := exists_run_execute h overflow options o s
  obtain ⟨s₂, hs₂, hrun₂⟩ :=
    exists_run_execute h overflow options o (started sys options command model s)
  have hlog := unseen_started h options command model s
  rw [result, result, hrun₁, hrun₂, bytesOf_started h]
  cases layoutOf overflow o.model (bytesOf sys o.model s) with
  | error f => rfl
  | ok l =>
    have hdestination : v.destination s₂ = v.destination s₁ :=
      (hlog.trans hs₂).destination.trans hs₁.destination.symm
    dsimp only
    split
    · rfl
    · exact deliver_congr h o.output _ hdestination

theorem unseen_execute (h : sys.Lawful v) (o : PlanOrder) (s : S)
    (hx : result (o.execute sys overflow options) s ≠ .ok none) :
    v.Unseen s (left (o.execute sys overflow options) s) := by
  obtain ⟨s', hs', hrun⟩ := exists_run_execute h overflow options o s
  rw [result, hrun] at hx
  rw [left, hrun]
  cases hl : layoutOf overflow o.model (bytesOf sys o.model s) with
  | error f => exact hs'
  | ok l =>
    rw [hl] at hx
    dsimp only at hx ⊢
    by_cases hw : o.format = .text ∧ l.TooWide
    · rw [if_pos hw]
      exact hs'
    · rw [if_neg hw] at hx ⊢
      cases hout : o.output with
      | none => exact hs'
      | some path =>
        rw [hout] at hx
        rcases deliver_cases h (render l o.format o.palette) path s' with
          ⟨_, _, _, hs''⟩ | ⟨_, hok, _⟩
        · exact hs'.trans hs''
        · exact absurd hok hx

/-- An order with an output path, whose layout can be rendered, writes it or is refused. -/
theorem execute_output (h : sys.Lawful v) (options : LogOptions) {o : PlanOrder}
    (ho : o.output = some path) (hl : layoutOf overflow o.model (bytesOf sys o.model s) = .ok l)
    (hw : ¬ (o.format = .text ∧ l.TooWide)) :
    (∃ e, v.destination s path = .refused e ∧
      result (o.execute sys overflow options) s = .error (.error (.write path e))) ∨
    (∀ e, v.destination s path ≠ .refused e) ∧
      result (o.execute sys overflow options) s = .ok none ∧
      v.Wrote (render l o.format .off) s (left (o.execute sys overflow options) s) (.ok ())
        (v.destination s path) := by
  obtain ⟨s', hs', hrun⟩ := exists_run_execute h overflow options o s
  have hpalette : o.palette = .off := by simp [PlanOrder.palette, ho, Palette.ofBool]
  rw [hl] at hrun
  dsimp only at hrun
  rw [if_neg hw, ho, hpalette] at hrun
  rw [result, left, hrun, ← hs'.destination]
  rcases deliver_cases h (render l o.format .off) path s' with ⟨e, hd, hx, _⟩ | ⟨hd, hx, hwrote⟩
  · exact .inl ⟨e, hd, hx⟩
  · exact .inr ⟨hd, hx, hwrote.of_unseen hs'⟩

theorem ends_plan (h : sys.Lawful v) (environment : LogSettings) (terminal : Bool)
    (format : OutputFormat) (output : Option String) (color : ColorChoice) (log : LogSettings)
    {x : Except Failure String}
    (hx : result ((PlanOrder.ofChoice terminal model format output color).execute sys overflow
      (.effective environment log)) s = x.map some) :
    Ends v s ((perform sys overflow environment terminal
      (.plan model format output color log)).run s) x := by
  have hstarted := unseen_started h (.effective environment log) "plan" model s
  rw [← result_execute_started h overflow (.effective environment log) "plan" model] at hx
  have hne : x.map some ≠ .ok none := by cases x <;> nofun
  have hleft := unseen_execute h _ _ (hx ▸ hne)
  rw [run_perform_plan environment terminal model format output color log s rfl rfl, hx]
  exact ((ends_conclude h _ "plan" _ x).of_unseen hleft).of_unseen hstarted

theorem effects (h : sys.Lawful v) (overflow : Overflow) (environment : LogSettings)
    (terminal : Bool) (s : S) (model : String) :
    Effects sys v overflow environment terminal s model where
  check log := by
    have hstarted := unseen_started h (.effective environment log) "check" model s
    obtain ⟨s', hrun, hs'⟩ := run_layout h overflow (.effective environment log) model
      (started sys (.effective environment log) "check" model s)
    have hleft : left (check sys overflow (.effective environment log) model)
        (started sys (.effective environment log) "check" model s) = s' := by
      rw [left, run_check, hrun]
    have hmap : ∀ x : Except Failure String,
        (x.map fun line => some (line ++ "\n")) = (x.map (· ++ "\n")).map some := by
      intro x
      cases x <;> rfl
    rw [run_perform_check environment terminal model log s rfl, hleft, result_check h,
      result_check h, bytesOf_started h, hmap]
    exact ((ends_conclude h _ "check" s' _).of_unseen hs').of_unseen hstarted
  plan_prints format color log x hx := ends_plan h environment terminal format none color log hx
  plan_fails format output color log f hf :=
    ends_plan h environment terminal format output color log (x := .error f) hf
  plan_writes format path color log l hl hw hd := by
    have hstarted := unseen_started h (.effective environment log) "plan" model s
    rw [result_layout h, ← bytesOf_started h (.effective environment log) "plan" model] at hl
    rcases execute_output h (.effective environment log)
        (o := .ofChoice terminal model format (some path) color) rfl hl hw with
      ⟨e, he, _⟩ | ⟨_, hx, hwrote⟩
    · exact absurd (hstarted.destination ▸ he) (hd e)
    · rw [run_perform_plan environment terminal model format (some path) color log s rfl rfl, hx]
      rw [hstarted.destination] at hwrote
      exact ⟨rfl, (hwrote.of_unseen hstarted).unseen (h.log _ (.footer "plan" true) _)⟩
  plan_refused format path color log l e hl hw hd := by
    rw [result_layout h] at hl
    rcases execute_output h (.effective environment log)
        (o := .ofChoice terminal model format (some path) color) rfl hl hw with
      ⟨e', he', hx⟩ | ⟨hne, _⟩
    · cases hd.symm.trans he'
      exact hx
    · exact absurd hd (hne e)

/-- The commands on one model agree, and leave everything alone but what they are asked for. -/
theorem agree_and_effects (h : sys.Lawful v) (overflow : Overflow) (environment : LogSettings)
    (terminal : Bool) (s : S) (model : String) :
    Agree sys overflow s model ∧ Effects sys v overflow environment terminal s model :=
  ⟨agree h overflow s model, effects h overflow environment terminal s model⟩

def emptyLayout : Layout :=
  ((Registry.empty .empty).performAll .wraps (Layout.requests .empty .empty)).2.finish

theorem layoutOf_empty (path : String) :
    layoutOf .wraps path (.ok "{}".toUTF8) = .ok emptyLayout := by
  have hdecode : decode "{}".toUTF8 = .ok "{}" := rfl
  have hmodel : Model.ofJson "{}" = .ok ⟨.empty, .empty⟩ := rfl
  have hload : loadModel path (.ok "{}".toUTF8) = .ok ⟨.empty, .empty⟩ := by
    have hbind : (Except.ok "{}".toUTF8 : Except FileError ByteArray) >>= decode = .ok "{}" :=
      hdecode
    simp only [loadModel, hbind, parseModel, hmodel]
  have hperformed : ((Registry.empty .empty).performAll .wraps
      (Layout.requests .empty .empty)).1 = .ok () := by
    decide +kernel
  have hplan : planModel .wraps ⟨.empty, .empty⟩ = .ok emptyLayout := by
    unfold planModel Registry.plan
    dsimp only
    rw [hperformed]
    rfl
  exact layoutOf_eq_ok hload hplan

def modelFile : World := .start .empty ⟨.bare, .ofList [(["model.json"], "{}".toUTF8)]⟩

/-- The listing of a model is saved over the model. -/
theorem model_replaced : World.system.Lawful World.view ∧
    result (layout World.system .wraps .default "model.json") modelFile = .ok emptyLayout ∧
    Agree World.system .wraps modelFile "model.json" ∧
    Writes World.view modelFile (.file ["model.json"]) (emptyLayout.listing .off)
      ((perform World.system .wraps ⟨none, none⟩ true
        (.plan "model.json" .text (some "model.json") .always ⟨none, none⟩)).run modelFile) := by
  have hagree :=
    agree_and_effects World.lawful_system .wraps ⟨none, none⟩ true modelFile "model.json"
  have hbytes : bytesOf World.system "model.json" modelFile = .ok "{}".toUTF8 := rfl
  have hlayout : result (layout World.system .wraps .default "model.json") modelFile =
      .ok emptyLayout := by
    rw [result_layout World.lawful_system, hbytes, layoutOf_empty]
  have hnarrow : ¬ emptyLayout.TooWide := by decide +kernel
  have hfile : World.view.destination modelFile "model.json" = .file ["model.json"] := rfl
  refine ⟨World.lawful_system, hlayout, hagree.1, ?_⟩
  have hwrites := hagree.2.plan_writes .text "model.json" .always ⟨none, none⟩ emptyLayout hlayout
    (fun hw => hnarrow hw.2) fun e he => by cases hfile.symm.trans he
  rwa [hfile] at hwrites

theorem listing_ne_empty (l : Layout) (p : Palette) : l.listing p ≠ "" := by
  intro h
  have hchars := congrArg String.toList h
  rw [Layout.listing, String.toList_ofList] at hchars
  simp [Listing.writeSection] at hchars

def piping : Machine := { Machine.bare with
  directories := [["/"], ["/", "dev"]]
  devices := [(["/", "dev", "stdout"], .stream .output)] }

/-- A layout that is saved is printed if it is saved on the standard output. -/
theorem not_all_saved_silently : ¬ ∀ w terminal model format path color log,
    ((perform World.system .wraps ⟨none, none⟩ terminal
      (.plan model format (some path) color log)).run w).1 = 0 →
        ((perform World.system .wraps ⟨none, none⟩ terminal
          (.plan model format (some path) color log)).run w).2.stdout = w.stdout := by
  intro hall
  let w : World := .start "{}".toUTF8 ⟨piping, .empty⟩
  have hbytes : bytesOf World.system "-" w = .ok "{}".toUTF8 := rfl
  have hlayout : result (layout World.system .wraps .default "-") w = .ok emptyLayout := by
    rw [result_layout World.lawful_system, hbytes, layoutOf_empty]
  have hnarrow : ¬ emptyLayout.TooWide := by decide +kernel
  have hout : World.view.destination w "/dev/stdout" = .standardOutput := rfl
  have hwrites := (effects World.lawful_system .wraps ⟨none, none⟩ false w "-").plan_writes .text
    "/dev/stdout" .never ⟨none, none⟩ emptyLayout hlayout (fun hw => hnarrow hw.2)
    fun e he => by cases hout.symm.trans he
  rw [hout] at hwrites
  have hsilent := hwrites.wrote.2.2.symm.trans (hall _ _ _ _ _ _ _ hwrites.code)
  apply listing_ne_empty emptyLayout .off
  simpa [World.start, w, World.view, render] using hsilent

end GrammarLayout.Command
