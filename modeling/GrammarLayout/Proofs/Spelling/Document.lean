import GrammarLayout.Model.Resolve
import GrammarLayout.Proofs.Spelling.Record

/-!
# Spellings of models

A model may be spelled in many ways: each of its records in either form, with its fields in any
order, defaults written out or not, unknown members, blanks, and strings escaped or not. All of
them load as the model that the document means, or fail as its names do.
-/

namespace GrammarLayout.Model

open Json

variable {tok ws ws' : List Char}

inductive SpellsBoolean : Bool → List Char → Prop
  | true : SpellsBoolean true ['t', 'r', 'u', 'e']
  | false : SpellsBoolean false ['f', 'a', 'l', 's', 'e']

def propertyFields : List (WrittenField Property) := [
  ⟨"type", fun p => SpellsText p.type, fun _ => False⟩,
  ⟨"maybe", fun p => SpellsBoolean p.maybe, fun p => p.maybe = false⟩]

def SpellsProperties : Properties → List Char → Prop := SpellsMap (SpellsRecord propertyFields)

def interfaceFields : List (WrittenField Interface) := [
  ⟨"name", fun i => SpellsText i.name, fun _ => False⟩,
  ⟨"inputs", fun i => SpellsProperties i.inputs, fun i => i.inputs = .empty⟩,
  ⟨"attributes", fun i => SpellsProperties i.attributes, fun i => i.attributes = .empty⟩,
  ⟨"fields", fun i => SpellsProperties i.fields, fun i => i.fields = .empty⟩]

def classFields : List (WrittenField ClassDeclaration) := [
  ⟨"name", fun c => SpellsText c.name, fun _ => False⟩,
  ⟨"interface", fun c => SpellsText c.interface, fun _ => False⟩,
  ⟨"fields", fun c => SpellsProperties c.fields, fun c => c.fields = .empty⟩,
  ⟨"attributes", fun c => SpellsProperties c.attributes, fun c => c.attributes = .empty⟩,
  ⟨"children", fun c => SpellsMap SpellsText c.children, fun c => c.children = .empty⟩]

def documentFields : List (WrittenField Document) := [
  ⟨"interfaces", fun d => SpellsList (SpellsRecord interfaceFields) d.interfaces,
    fun d => d.interfaces = []⟩,
  ⟨"classes", fun d => SpellsList (SpellsRecord classFields) d.classes, fun d => d.classes = []⟩,
  ⟨"schedule", fun d => SpellsMap (SpellsList SpellsText) d.schedule,
    fun d => d.schedule = .empty⟩]

def Document.Spelled (d : Document) (json : String) : Prop :=
  ∃ ws tok ws', Blanks ws ∧ SpellsRecord documentFields d tok ∧ Blanks ws' ∧
    json.toList = ws ++ (tok ++ ws')

theorem exists_spellsText (s : String) : ∃ tok, SpellsText s tok := ⟨_, spellsText_writeString s⟩

theorem exists_spellsBoolean (b : Bool) : ∃ tok, SpellsBoolean b tok := by
  cases b with
  | true => exact ⟨_, .true⟩
  | false => exact ⟨_, .false⟩

theorem exists_spellsProperties (ps : Properties) : ∃ tok, SpellsProperties ps tok := by
  refine exists_spellsMap (fun p => exists_spellsRecord ?_) ps
  simp only [propertyFields, List.forall_mem_cons]
  exact ⟨exists_spellsText _, exists_spellsBoolean _, nofun⟩

theorem exists_spellsInterface (i : Interface) : ∃ tok, SpellsRecord interfaceFields i tok := by
  apply exists_spellsRecord
  simp only [interfaceFields, List.forall_mem_cons]
  exact ⟨exists_spellsText _, exists_spellsProperties _, exists_spellsProperties _,
    exists_spellsProperties _, nofun⟩

theorem exists_spellsClass (c : ClassDeclaration) : ∃ tok, SpellsRecord classFields c tok := by
  apply exists_spellsRecord
  simp only [classFields, List.forall_mem_cons]
  exact ⟨exists_spellsText _, exists_spellsText _, exists_spellsProperties _,
    exists_spellsProperties _, exists_spellsMap exists_spellsText _, nofun⟩

theorem exists_spelled (d : Document) : ∃ json, d.Spelled json := by
  have hdocument : ∃ tok, SpellsRecord documentFields d tok := by
    apply exists_spellsRecord
    simp only [documentFields, List.forall_mem_cons]
    exact ⟨exists_spellsList fun i _ => exists_spellsInterface i,
      exists_spellsList fun c _ => exists_spellsClass c,
      exists_spellsMap (fun _ => exists_spellsList fun s _ => exists_spellsText s) _, nofun⟩
  obtain ⟨tok, htok⟩ := hdocument
  refine ⟨String.ofList tok, [], tok, [], blanks_nil, htok, blanks_nil, ?_⟩
  rw [String.toList_ofList, List.nil_append, List.append_nil]

theorem boolean_reads {b : Bool} (h : SpellsBoolean b tok) : boolean.Reads tok b := by
  refine ⟨by cases h <;> exact ⟨_, _, rfl, rfl⟩, fun ws rest hws _ => ?_⟩
  cases h with
  | true =>
    have hd := dropBlank_mark hws (c := 't') rfl ('r' :: 'u' :: 'e' :: rest)
    obtain ⟨hl, h⟩ : (literal 't' ['r', 'u', 'e'] true).Takes ('t' :: 'r' :: 'u' :: 'e' :: rest)
      true rest := literal_takes 't' ['r', 'u', 'e'] true rest
    refine ⟨Nat.lt_of_lt_of_le hl (hd ▸ length_dropBlank_le _), ?_⟩
    unfold boolean
    split
    · next heq _ =>
      cases hd.symm.trans heq
      rw [h]
      rfl
    · next heq _ => cases hd.symm.trans heq
    · next hne _ => exact (hne _ (hd ▸ length_dropBlank_le _) hd (proof_irrel_heq _ _)).elim
  | false =>
    have hd := dropBlank_mark hws (c := 'f') rfl ('a' :: 'l' :: 's' :: 'e' :: rest)
    obtain ⟨hl, h⟩ : (literal 'f' ['a', 'l', 's', 'e'] false).Takes
      ('f' :: 'a' :: 'l' :: 's' :: 'e' :: rest) false rest :=
        literal_takes 'f' ['a', 'l', 's', 'e'] false rest
    refine ⟨Nat.lt_of_lt_of_le hl (hd ▸ length_dropBlank_le _), ?_⟩
    unfold boolean
    split
    · next heq _ => cases hd.symm.trans heq
    · next heq _ =>
      cases hd.symm.trans heq
      rw [h]
      rfl
    · next hne => exact (hne _ (hd ▸ length_dropBlank_le _) hd (proof_irrel_heq _ _)).elim

def propertyState (p : Property) (names : List String) : PropertyParts :=
  ⟨got names "type" p.type, got names "maybe" p.maybe⟩

theorem propertyShape_fits : propertyShape.Fits propertyFields propertyState where
  nodup := by decide
  blank _ := rfl
  shapes := by
    refine .cons ?_ (.cons ?_ .nil)
    · exact FieldShape.fits_of_part Property.type rfl (fun _ _ => rfl)
        (by simp [propertyState, got]) fun _ _ => SpellsText.text_reads
    · exact FieldShape.fits_of_part Property.maybe rfl (fun _ _ => rfl)
        (by simp [propertyState, got]) fun _ _ => boolean_reads
  build p names h := by
    simp only [propertyFields, List.forall_mem_cons] at h
    obtain ⟨htype, hmaybe, -⟩ := h
    simp only [propertyShape, propertyState, got_of_mem (not_not.mp htype), getD_got hmaybe]

theorem properties_reads {ps : Properties} (h : SpellsProperties ps tok) :
    properties.Reads tok ps :=
  map_reads (fun _ _ => propertyShape_fits.reads) h

def interfaceState (i : Interface) (names : List String) : InterfaceParts :=
  ⟨got names "name" i.name, got names "inputs" i.inputs, got names "attributes" i.attributes,
    got names "fields" i.fields⟩

theorem interfaceShape_fits : interfaceShape.Fits interfaceFields interfaceState where
  nodup := by decide
  blank _ := rfl
  shapes := by
    refine .cons ?_ (.cons ?_ (.cons ?_ (.cons ?_ .nil)))
    · exact FieldShape.fits_of_part Interface.name rfl (fun _ _ => rfl)
        (by simp [interfaceState, got]) fun _ _ => SpellsText.text_reads
    · exact FieldShape.fits_of_part Interface.inputs rfl (fun _ _ => rfl)
        (by simp [interfaceState, got]) fun _ _ => properties_reads
    · exact FieldShape.fits_of_part Interface.attributes rfl (fun _ _ => rfl)
        (by simp [interfaceState, got]) fun _ _ => properties_reads
    · exact FieldShape.fits_of_part Interface.fields rfl (fun _ _ => rfl)
        (by simp [interfaceState, got]) fun _ _ => properties_reads
  build i names h := by
    simp only [interfaceFields, List.forall_mem_cons] at h
    obtain ⟨hname, hinputs, hattributes, hfields, -⟩ := h
    simp only [interfaceShape, interfaceState, got_of_mem (not_not.mp hname), getD_got hinputs,
      getD_got hattributes, getD_got hfields]

def classState (c : ClassDeclaration) (names : List String) : ClassParts :=
  ⟨got names "name" c.name, got names "interface" c.interface, got names "fields" c.fields,
    got names "attributes" c.attributes, got names "children" c.children⟩

theorem classShape_fits : classShape.Fits classFields classState where
  nodup := by decide
  blank _ := rfl
  shapes := by
    refine .cons ?_ (.cons ?_ (.cons ?_ (.cons ?_ (.cons ?_ .nil))))
    · exact FieldShape.fits_of_part ClassDeclaration.name rfl (fun _ _ => rfl)
        (by simp [classState, got]) fun _ _ => SpellsText.text_reads
    · exact FieldShape.fits_of_part ClassDeclaration.interface rfl (fun _ _ => rfl)
        (by simp [classState, got]) fun _ _ => SpellsText.text_reads
    · exact FieldShape.fits_of_part ClassDeclaration.fields rfl (fun _ _ => rfl)
        (by simp [classState, got]) fun _ _ => properties_reads
    · exact FieldShape.fits_of_part ClassDeclaration.attributes rfl (fun _ _ => rfl)
        (by simp [classState, got]) fun _ _ => properties_reads
    · exact FieldShape.fits_of_part ClassDeclaration.children rfl (fun _ _ => rfl)
        (by simp [classState, got]) fun _ _ => map_reads fun _ _ => SpellsText.text_reads
  build c names h := by
    simp only [classFields, List.forall_mem_cons] at h
    obtain ⟨hname, hinterface, hfields, hattributes, hchildren, -⟩ := h
    simp only [classShape, classState, got_of_mem (not_not.mp hname),
      got_of_mem (not_not.mp hinterface), getD_got hfields, getD_got hattributes,
      getD_got hchildren]

def documentState (d : Document) (names : List String) : DocumentParts :=
  ⟨got names "interfaces" d.interfaces, got names "classes" d.classes,
    got names "schedule" d.schedule⟩

theorem documentShape_fits : documentShape.Fits documentFields documentState where
  nodup := by decide
  blank _ := rfl
  shapes := by
    refine .cons ?_ (.cons ?_ (.cons ?_ .nil))
    · exact FieldShape.fits_of_part Document.interfaces rfl (fun _ _ => rfl)
        (by simp [documentState, got]) fun _ _ => list_reads fun _ _ => interfaceShape_fits.reads
    · exact FieldShape.fits_of_part Document.classes rfl (fun _ _ => rfl)
        (by simp [documentState, got]) fun _ _ => list_reads fun _ _ => classShape_fits.reads
    · exact FieldShape.fits_of_part Document.schedule rfl (fun _ _ => rfl)
        (by simp [documentState, got]) fun _ _ => map_reads fun _ _ =>
          list_reads fun _ _ => SpellsText.text_reads
  build d names h := by
    simp only [documentFields, List.forall_mem_cons] at h
    obtain ⟨hinterfaces, hclasses, hschedule, -⟩ := h
    simp only [documentShape, documentState, getD_got hinterfaces, getD_got hclasses,
      getD_got hschedule]

theorem Document.Spelled.ofJson_eq {d : Document} {json : String} (h : d.Spelled json) :
    Document.ofJson json = .ok d := by
  obtain ⟨ws, tok, ws', hws, htok, hws', hjson⟩ := h
  rw [Document.ofJson, hjson]
  exact document_reads (documentShape_fits.reads htok) hws hws'

section loading

variable {α β : Type} {g : Grammar}

def NoFault (outcome : Except ModelError α) : Prop := ∀ fault, outcome ≠ .error (.json fault)

theorem NoFault.bind {outcome : Except ModelError α} {k : α → Except ModelError β}
    (h : NoFault outcome) (hk : ∀ a, NoFault (k a)) : NoFault (outcome >>= k) := by
  cases outcome with
  | ok a => exact hk a
  | error e => exact fun fault heq => h fault (by cases heq; rfl)

theorem noFault_foldlM {step : β → α → Except ModelError β} (h : ∀ b a, NoFault (step b a))
    (as : List α) (b : β) : NoFault (as.foldlM step b) := by
  induction as generalizing b with
  | nil => exact nofun
  | cons a as ih =>
    rw [List.foldlM_cons]
    exact (h b a).bind ih

theorem noFault_declareInterface (g : Grammar) (i : Interface) :
    NoFault (declareInterface g i) := by
  intro fault
  unfold declareInterface
  split <;> nofun

theorem noFault_resolveChildren (g : Grammar) (className : String) (es : List (String × String)) :
    NoFault (resolveChildren g className es) := by
  induction es with
  | nil => exact nofun
  | cons e es ih =>
    intro fault
    unfold resolveChildren
    split
    · exact nofun
    · cases hes : resolveChildren g className es with
      | ok ids => exact nofun
      | error e => exact fun heq => ih fault (by cases heq; exact hes)

theorem noFault_declareClass (g : Grammar) (c : ClassDeclaration) : NoFault (declareClass g c) := by
  intro fault
  unfold declareClass
  split
  · exact nofun
  · split
    · next h =>
      exact fun heq => noFault_resolveChildren g c.name c.children.entries fault (by
        cases heq
        exact h)
    · split <;> nofun

theorem noFault_scheduleClass (g : Grammar) (s : Schedule) (e : String × List String) :
    NoFault (scheduleClass g s e) := by
  intro fault
  unfold scheduleClass
  split <;> nofun

/-- What is wrong with the names of a document is no fault of its text. -/
theorem noFault_resolve (d : Document) : NoFault d.resolve :=
  (noFault_foldlM noFault_declareInterface _ _).bind fun _ =>
    (noFault_foldlM noFault_declareClass _ _).bind fun g =>
      (noFault_foldlM (noFault_scheduleClass g) _ _).bind fun _ => nofun

/-- Every spelling of a document loads as the model that the document means, or fails as the names
in it do, but never for its text. -/
theorem ofJson_of_spelled {d : Document} {json : String} (h : d.Spelled json) :
    ofJson json = d.resolve ∧ ∀ fault, ofJson json ≠ .error (.json fault) := by
  have heq : ofJson json = d.resolve := by rw [ofJson, h.ofJson_eq]
  exact ⟨heq, heq ▸ noFault_resolve d⟩

end loading

def nodeWithDepth : Document where
  interfaces := [{ name := "Node", inputs := .ofList [("depth", ⟨"int", false⟩)] }]

def junk : List Char := "[\x7b\"\\ud800\":-1.5\x7d]".toList

/-- A property with its members turned around and its default written out. -/
def depthText : List Char := "\x7b\"maybe\":false,\"type\":\"i\\u006et\"\x7d".toList

/-- An interface as an array, up to its last field that is no default. -/
def nodeText : List Char := "[\"Node\",\x7b\"depth\":".toList ++ depthText ++ "\x7d]".toList

def unusual : String := String.ofList ("\n\x7b\"junk\":".toList ++ junk ++
  ", \"\\u0069nterfaces\" : [".toList ++ nodeText ++ "]\x7d\n".toList)

theorem wellFormed_junk : WellFormed junk := by
  have hunit : SpellsUnit 0xd800 ['d', '8', '0', '0'] :=
    .digits (w := 13) (x := 8) (y := 0) (z := 0) ⟨by decide, .inl rfl⟩ ⟨by decide, .inl rfl⟩
      ⟨by decide, .inl rfl⟩ ⟨by decide, .inl rfl⟩
  have hkey : Passable "\"\\ud800\"".toList := ⟨_, .unit hunit .nil, rfl⟩
  have hwhole : IsWhole ['1'] := .inr ⟨isDigits_singleton rfl, by simp⟩
  have hfraction : IsDigits ['5'] := isDigits_singleton rfl
  have hnumber : WellFormed "-1.5".toList := .number (.negative hwhole (.point hfraction) .none)
  have hobject : WellFormed "\x7b\"\\ud800\":-1.5\x7d".toList :=
    .object (List.forall_mem_singleton.mpr hkey) (List.forall_mem_singleton.mpr hnumber)
      ⟨_, _, .cons (.colon blanks_nil blanks_nil) .nil, .item blanks_nil (.close blanks_nil), rfl⟩
  exact .array (List.forall_mem_singleton.mpr hobject)
    ⟨_, .item blanks_nil (.close blanks_nil), rfl⟩

theorem depthText_spells : SpellsRecord propertyFields ⟨"int", false⟩ depthText := by
  have hn : SpellsChar 'n' "\\u006e".toList := .unit (spellsUnit_of_lt (n := 110) (by decide))
  have htype : SpellsText "int" "\"i\\u006et\"".toList :=
    ⟨_, .cons (spellsChar_writeChar 'i') (.cons hn (.cons (spellsChar_writeChar 't') .nil)), rfl⟩
  refine .object (.field (List.mem_cons_of_mem _ List.mem_cons_self) ?_ (spellsText_writeString _)
    SpellsBoolean.false (.field List.mem_cons_self ?_ (spellsText_writeString _) htype .nil)) ?_ ?_
  · decide
  · decide
  · exact ⟨_, _, .cons (.colon blanks_nil blanks_nil) (.cons (.colon blanks_nil blanks_nil) .nil),
      .item blanks_nil (.item blanks_nil blanks_nil (.close blanks_nil)), rfl⟩
  · simp [propertyFields]

theorem nodeText_spells : ∀ i ∈ nodeWithDepth.interfaces,
    SpellsRecord interfaceFields i nodeText := by
  refine List.forall_mem_singleton.mpr ?_
  have hinputs : SpellsProperties (.ofList [("depth", ⟨"int", false⟩)])
      ("\x7b\"depth\":".toList ++ depthText ++ "\x7d".toList) :=
    ⟨_, _, rfl, .cons ⟨spellsText_writeString _, depthText_spells⟩ .nil, _, _,
      .cons (.colon blanks_nil blanks_nil) .nil, .item blanks_nil (.close blanks_nil), rfl⟩
  refine .array (.field (spellsText_writeString _) (.field hinputs (.done ?_)))
    ⟨_, .item blanks_nil (.item blanks_nil blanks_nil (.close blanks_nil)), rfl⟩
  simp

theorem unusual_spelled : nodeWithDepth.Spelled unusual := by
  have hi : SpellsChar 'i' "\\u0069".toList := .unit (spellsUnit_of_lt (n := 105) (by decide))
  have hkey : SpellsText "interfaces" "\"\\u0069nterfaces\"".toList :=
    ⟨_, .cons hi (spellsChars_write "nterfaces".toList), rfl⟩
  have hinterfaces : SpellsList (SpellsRecord interfaceFields) nodeWithDepth.interfaces
      ("[".toList ++ nodeText ++ "]".toList) :=
    ⟨_, .cons (nodeText_spells _ List.mem_cons_self) .nil, _, .item blanks_nil (.close blanks_nil),
      rfl⟩
  have hmembers : SpellsMembers documentFields nodeWithDepth ["interfaces"]
      [(writeString "junk", junk), ("\"\\u0069nterfaces\"".toList,
        "[".toList ++ nodeText ++ "]".toList)] := by
    refine .other ?_ (spellsText_writeString "junk") wellFormed_junk (.field List.mem_cons_self ?_
      hkey hinterfaces .nil)
    · simp [documentFields]
    · simp
  have hspace : Blanks [' '] := blanks_singleton rfl
  have hline : Blanks ['\n'] := blanks_singleton rfl
  refine ⟨['\n'], _, ['\n'], hline, .object hmembers ⟨_, _, .cons (.colon blanks_nil blanks_nil)
    (.cons (.colon hspace hspace) .nil), .item blanks_nil (.item blanks_nil hspace
      (.close blanks_nil)), rfl⟩ ?_, hline, ?_⟩
  · simp [documentFields, nodeWithDepth]
  · decide +kernel

/-- The unusual text loads as the document that it spells. -/
theorem unusual_loads : nodeWithDepth.Spelled unusual ∧
    ofJson unusual = nodeWithDepth.resolve ∧
    ofJson unusual = .ok ⟨⟨nodeWithDepth.interfaces, []⟩, .empty⟩ := by
  obtain ⟨heq, -⟩ := ofJson_of_spelled unusual_spelled
  exact ⟨unusual_spelled, heq, by rw [heq]; decide +kernel⟩

end GrammarLayout.Model
