import GrammarLayout.Command.World
import Mathlib.Tactic

/-!
# What is seen of a system

The files of a system, what it has printed, and where paths lead are what is seen of its states. A
system is lawful if it behaves as the documentation of files and standard streams has it. What is
read, where a path leads and whether it can be written is left to the system.
-/

namespace GrammarLayout

inductive Destination (File : Type)
  | file (f : File)
  | standardOutput
  /-- Something that keeps nothing and is not the standard output. -/
  | elsewhere
  | refused (e : FileError)

/-- What is seen of the states of a system. -/
structure View (S File : Type) where
  bytes? : S → File → Option ByteArray
  printed : S → String
  destination : S → String → Destination File

namespace View

variable {S File : Type} (v : View S File)

def Kept (s s' : S) : Prop := ∀ f, v.bytes? s' f = v.bytes? s f

structure Unseen (s s' : S) : Prop where
  kept : v.Kept s s'
  printed : v.printed s' = v.printed s
  destination : v.destination s' = v.destination s

/-- What comes of writing a text, all of it or nothing. -/
def Wrote (text : String) (s s' : S) (result : Except FileError Unit) : Destination File → Prop
  | .file f => result = .ok () ∧ v.bytes? s' f = some text.toUTF8 ∧
      (∀ f' ≠ f, v.bytes? s' f' = v.bytes? s f') ∧ v.printed s' = v.printed s
  | .standardOutput => result = .ok () ∧ v.Kept s s' ∧ v.printed s' = v.printed s ++ text
  | .elsewhere => result = .ok () ∧ v.Kept s s' ∧ v.printed s' = v.printed s
  | .refused e => result = .error e ∧ v.Unseen s s'

variable {v} {s s' s'' : S}

theorem Unseen.refl (s : S) : v.Unseen s s := ⟨fun _ => rfl, rfl, rfl⟩

theorem Unseen.trans (h : v.Unseen s s') (h' : v.Unseen s' s'') : v.Unseen s s'' where
  kept f := (h'.kept f).trans (h.kept f)
  printed := h'.printed.trans h.printed
  destination := h'.destination.trans h.destination

theorem Wrote.of_unseen {text : String} {result : Except FileError Unit} {d : Destination File}
    (hs : v.Unseen s s') (h : v.Wrote text s' s'' result d) : v.Wrote text s s'' result d := by
  cases d with
  | file f =>
    obtain ⟨hok, hfile, hothers, hprinted⟩ := h
    exact ⟨hok, hfile, fun f' hf' => (hothers f' hf').trans (hs.kept f'),
      hprinted.trans hs.printed⟩
  | standardOutput =>
    exact ⟨h.1, fun f => (h.2.1 f).trans (hs.kept f), hs.printed ▸ h.2.2⟩
  | elsewhere => exact ⟨h.1, fun f => (h.2.1 f).trans (hs.kept f), h.2.2.trans hs.printed⟩
  | refused => exact ⟨h.1, hs.trans h.2⟩

theorem Wrote.unseen {text : String} {result : Except FileError Unit} {d : Destination File}
    (h : v.Wrote text s s' result d) (hs : v.Unseen s' s'') : v.Wrote text s s'' result d := by
  cases d with
  | file f =>
    obtain ⟨hok, hfile, hothers, hprinted⟩ := h
    exact ⟨hok, (hs.kept f).trans hfile, fun f' hf' => (hs.kept f').trans (hothers f' hf'),
      hs.printed.trans hprinted⟩
  | standardOutput | elsewhere =>
    exact ⟨h.1, fun f => (hs.kept f).trans (h.2.1 f), hs.printed.trans h.2.2⟩
  | refused => exact ⟨h.1, h.2.trans hs⟩

end View

/-- What is assumed of a system: reading and logging change no file and print nothing, logging does
not change what is read, a text is written at once or not at all, and the standard streams take what
is written to them and are not among the files. -/
structure System.Lawful {S File : Type} (sys : System (StateM S)) (v : View S File) : Prop where
  readInput : ∀ s, v.Unseen s (sys.readInput.run s).2
  readFile : ∀ path s, v.Unseen s ((sys.readFile path).run s).2
  writeFile : ∀ path text s, v.Wrote text s ((sys.writeFile path text).run s).2
    ((sys.writeFile path text).run s).1 (v.destination s path)
  print : ∀ text s, ((sys.print text).run s).1 = .ok () ∧
    v.Kept s ((sys.print text).run s).2 ∧
    v.printed ((sys.print text).run s).2 = v.printed s ++ text
  complain : ∀ text s, ((sys.complain text).run s).1 = .ok () ∧
    v.Unseen s ((sys.complain text).run s).2
  report : ∀ message s, v.Unseen s ((sys.report message).run s).2
  log : ∀ options event s, v.Unseen s ((sys.log options event).run s).2
  readInput_log : ∀ options event s,
    (sys.readInput.run ((sys.log options event).run s).2).1 = (sys.readInput.run s).1
  readFile_log : ∀ options event path s,
    ((sys.readFile path).run ((sys.log options event).run s).2).1 = ((sys.readFile path).run s).1

/-- Where the text goes that is written to a device. -/
def Device.destination : Device → Destination Place
  | .null | .endless | .stream .input | .stream .error => .elsewhere
  | .full => .refused .noSpace
  | .terminal => .refused .noDevice
  | .stream .output => .standardOutput

namespace World

def view : View World Place where
  bytes? w place := w.files.files.get? place
  printed := stdout
  destination w path :=
    match w.files.target path with
    | .ok (.file place) => .file place
    | .ok (.device d) => d.destination
    | .error e => .refused e

theorem wrote_send (text : String) (w : World) (d : Device) :
    match w.send text d with
    | .ok w' => view.Wrote text w w' (.ok ()) d.destination
    | .error e => d.destination = .refused e := by
  cases d with
  | null | endless => exact ⟨rfl, fun _ => rfl, rfl⟩
  | full | terminal => rfl
  | stream s => cases s <;> exact ⟨rfl, fun _ => rfl, rfl⟩

theorem wrote_put (text : String) (w : World) (place : Place) :
    view.Wrote text w { w with files := w.files.put place text.toUTF8 } (.ok ()) (.file place) := by
  refine ⟨rfl, ?_, fun p hp => ?_, rfl⟩
  · exact (OrderedMap.get?_insert w.files.files place place _).trans (if_pos rfl)
  · exact (OrderedMap.get?_insert w.files.files place p _).trans (if_neg hp.symm)

theorem run_writeFile (path text : String) (w : World) :
    (system.writeFile path text).run w =
      match w.save path text with
      | .ok saved => (.ok (), saved)
      | .error e => (.error e, w) := by
  change ((match w.save path text with
    | .ok saved => do
      set saved
      return .ok ()
    | .error e => return .error e : StateM World (Except FileError Unit))).run w = _
  cases w.save path text <;> rfl

theorem wrote_writeFile (path text : String) (w : World) :
    view.Wrote text w ((system.writeFile path text).run w).2 ((system.writeFile path text).run w).1
      (view.destination w path) := by
  rw [run_writeFile, save, view]
  dsimp only
  cases ht : w.files.target path with
  | error e => exact ⟨rfl, .refl w⟩
  | ok target =>
    cases target with
    | file place => exact wrote_put text w place
    | device d =>
      have hsend := wrote_send text w d
      dsimp only [bind, Except.bind]
      cases hx : w.send text d with
      | ok w' =>
        rw [hx] at hsend
        exact hsend
      | error e =>
        rw [hx] at hsend
        rw [hsend]
        exact ⟨rfl, .refl w⟩

/-- A system in memory does what is assumed of systems, whatever machine it is on. -/
theorem lawful_system : system.Lawful view where
  readInput w := .refl w
  readFile _ w := .refl w
  writeFile := wrote_writeFile
  print _ _ := ⟨rfl, fun _ => rfl, rfl⟩
  complain _ _ := ⟨rfl, fun _ => rfl, rfl, rfl⟩
  report _ _ := ⟨fun _ => rfl, rfl, rfl⟩
  log _ _ _ := ⟨fun _ => rfl, rfl, rfl⟩
  readInput_log _ _ _ := rfl
  readFile_log _ _ _ _ := rfl

end World

end GrammarLayout
