import GrammarLayout.Proofs.Planning

/-!
# Nothing that is asked for is lost

A request may be met by a field of another owner, of an earlier phase or of another spelling. It is
still found in the finished plan, since a look-up there finds the field of the first request that
answers, and whoever owns it answers for the one who asks.
-/

namespace GrammarLayout
namespace Layout

/-- A look-up finds a field under the key of the property that belongs to one of some owners. -/
def Finds (l : Layout) (owner : Owner) (property : String) (owners : List Owner) : Prop :=
  ∃ f, l.field? owner property = .ok (some f) ∧
    f.key = Naming.propertyKey property ∧ f.owner ∈ owners

/-- Whose fields a class may find: what is universal, its own, and those of its interface. -/
def classOwners (id : ClassId) (c : Class) : List Owner :=
  [.universal, .ofClass id, .ofInterface c.interface]

/-- Everything that a grammar and a schedule give a name to has a field. -/
structure Complete (g : Grammar) (s : Schedule) (l : Layout) : Prop where
  interfaceData : ∀ id i, g.interface? id = some i → ∀ e ∈ i.declarations,
    l.Finds (.ofInterface id) e.1 [.universal, .ofInterface id]
  classData : ∀ id c, g.class? id = some c → ∀ e ∈ c.declarations,
    l.Finds (.ofClass id) e.1 (classOwners id c)
  inheritedData : ∀ id c i, g.class? id = some c → g.interface? c.interface = some i →
    ∀ e ∈ i.declarations, l.Finds (.ofClass id) e.1 (classOwners id c)
  links : ∀ id c, g.class? id = some c → ∀ role ∈ c.children.keys,
    l.Finds (.ofClass id) ("child_" ++ role ++ "_leftmost_child") (classOwners id c) ∧
      l.Finds (.ofClass id) ("child_" ++ role ++ "_count") (classOwners id c)
  snapshots : ∀ id c, g.class? id = some c → ∀ sink ∈ s.sinks id,
    l.Finds (.ofClass id) (sink.stem ++ "_init") (classOwners id c) ∧
      l.Finds (.ofClass id) (sink.stem ++ "_last") (classOwners id c)
  universalData : ∀ owner, g.Knows owner → ∀ r ∈ universalRequests,
    l.Finds owner r.property [.universal]

variable {g : Grammar} {s : Schedule} {l : Layout} {rs : List Request} {r : Request}
  {owner : Owner} {property : String}

theorem finds_of_first (h : plan g s = .ok l) (ho : g.Knows owner) {first : Request}
    (hfirst : (requests g s).find?
      (fun r => g.Covers r owner (Naming.propertyKey property)) = some first)
    {owners : List Owner} (howner : first.owner ∈ owners) : l.Finds owner property owners := by
  obtain ⟨f, hf, hm⟩ := (follows_of_plan h).field?_of_first (wellPosed_requests g s) ho hfirst
  have hcovers : g.Covers first owner (Naming.propertyKey property) := by
    simpa using List.find?_some hfirst
  refine ⟨f, hf, ?_, hm.owner ▸ howner⟩
  rw [Field.key, hm.property]
  exact hcovers.1

/-- What one of the requests answers is found at the end. -/
theorem finds_of_request (h : plan g s = .ok l) (ho : g.Knows owner) (hr : r ∈ requests g s)
    (hc : g.Covers r owner (Naming.propertyKey property)) {owners : List Owner}
    (howners : ∀ a, g.Answers a owner → a ∈ owners) : l.Finds owner property owners := by
  obtain ⟨first, _, hp, hfirst⟩ :=
    exists_first (p := fun r => g.Covers r owner (Naming.propertyKey property)) hr
      (by simpa using hc)
  have hcovers : g.Covers first owner (Naming.propertyKey property) := by simpa using hp
  exact finds_of_first h ho hfirst (howners _ hcovers.2)

section Class

variable {id : ClassId} {c : Class} {origin : TypeOrigin} (h : plan g s = .ok l)
  (hc : g.class? id = some c)
include h hc

theorem finds_ofClass (hr : ⟨owner, property, origin⟩ ∈ requests g s)
    (ha : g.Answers owner (.ofClass id)) : l.Finds (.ofClass id) property (classOwners id c) := by
  refine finds_of_request h (Grammar.knows_ofClass hc) hr ⟨rfl, ha⟩ fun a ha => ?_
  rw [Grammar.answers_ofClass hc] at ha
  simpa [classOwners] using ha

theorem finds_of_own_request
    (hr : ⟨.ofClass id, property, origin⟩ ∈ memberRequests id c ∨
      ⟨.ofClass id, property, origin⟩ ∈ linkRequests id c ∨
      ⟨.ofClass id, property, origin⟩ ∈ sinkRequests s id) :
    l.Finds (.ofClass id) property (classOwners id c) := by
  have hmem : ⟨.ofClass id, property, origin⟩ ∈ requests g s := by
    rw [requests_eq]
    exact List.mem_append_right _ (mem_derivedRequests.mpr (.inr ⟨id, c, hc, hr⟩))
  exact finds_ofClass h hc hmem (g.answers_self _)

end Class

theorem mem_requests_of_interface {id : InterfaceId} {i : Interface}
    (hi : g.interface? id = some i) {e : String × Property} (he : e ∈ i.declarations) :
    ⟨.ofInterface id, e.1, .declared⟩ ∈ requests g s := by
  have hr : ⟨.ofInterface id, e.1, .declared⟩ ∈ interfaceRequests id i := by
    rw [interfaceRequests_eq]
    exact List.mem_map_of_mem he
  rw [requests_eq]
  exact List.mem_append_right _ (mem_derivedRequests.mpr (.inl ⟨id, i, hi, hr⟩))

theorem finds_universal (h : plan g s = .ok l) (ho : g.Knows owner) (hr : r ∈ universalRequests) :
    l.Finds owner r.property [.universal] := by
  have hcovers : g.Covers r owner (Naming.propertyKey r.property) := by
    simp [Grammar.Covers, Request.key, (of_mem_universalRequests hr).1, g.universal_answers]
  obtain ⟨first, hmem, _, hfirst⟩ :=
    exists_first (p := fun r' => g.Covers r' owner (Naming.propertyKey r.property)) hr
      (by simpa using hcovers)
  -- Universal requests stand before all others, so the first one that answers is one of them.
  have hfirst' : (requests g s).find?
      (fun r' => g.Covers r' owner (Naming.propertyKey r.property)) = some first := by
    rw [requests_eq, List.find?_append, hfirst, Option.some_or]
  exact finds_of_first h ho hfirst' (by simp [(of_mem_universalRequests hmem).1])

/-- A plan has a field for every declared datum, link, snapshot and universal datum. -/
theorem complete_of_plan (h : plan g s = .ok l) : Complete g s l where
  interfaceData id i hi e he := by
    have hk := Grammar.knows_ofInterface hi
    refine finds_of_request h hk (mem_requests_of_interface hi he) ⟨rfl, g.answers_self _⟩ ?_
    intro a ha
    simpa using Grammar.answers_ofInterface.mp ha
  classData id c hc e he := by
    have hr : ⟨.ofClass id, e.1, .declared⟩ ∈ memberRequests id c := by
      rw [memberRequests_eq]
      exact List.mem_map_of_mem he
    exact finds_of_own_request h hc (.inl hr)
  inheritedData id c i hc hi e he := by
    have ha : g.Answers (.ofInterface c.interface) (.ofClass id) :=
      (Grammar.answers_ofClass hc).mpr (.inr (.inr rfl))
    exact finds_ofClass h hc (mem_requests_of_interface hi he) ha
  links id c hc role hrole := by
    have hpair := mem_linkRequests id hrole
    exact ⟨finds_of_own_request h hc (.inr (.inl hpair.1)),
      finds_of_own_request h hc (.inr (.inl hpair.2))⟩
  snapshots id c hc sink hsink := by
    have hpair := mem_sinkRequests hsink
    exact ⟨finds_of_own_request h hc (.inr (.inr hpair.1)),
      finds_of_own_request h hc (.inr (.inr hpair.2))⟩
  universalData owner ho r hr := finds_universal h ho hr

def branching : Grammar where
  interfaces := [{ name := "Node", attributes := ⟨[("height", ⟨"int", false⟩)], by simp⟩ }]
  classes := [⟨"Branch", ⟨0⟩, ⟨[("HEIGHT", ⟨"float", false⟩)], by simp⟩, .empty,
    ⟨[("next", ⟨0⟩)], by simp⟩⟩]

def branchingSinks : Schedule := Schedule.empty.insert ⟨0⟩ [.child "next" "height", .selfRef "height"]

theorem branching_finds : ∃ l, plan branching branchingSinks = .ok l ∧
    l.Finds (.ofClass ⟨0⟩) "HEIGHT" [.universal, .ofClass ⟨0⟩, .ofInterface ⟨0⟩] ∧
    l.Finds (.ofClass ⟨0⟩) "next_height_last" [.universal, .ofClass ⟨0⟩, .ofInterface ⟨0⟩] ∧
    l.Finds (.ofInterface ⟨0⟩) "parent" [.universal] := by
  obtain ⟨l, hl⟩ := exists_plan (g := branching) (s := branchingSinks) (by decide +kernel)
  have hcomplete := complete_of_plan hl
  refine ⟨l, hl, ?_, ?_, ?_⟩
  · exact hcomplete.classData ⟨0⟩ _ rfl ("HEIGHT", ⟨"float", false⟩) (by decide)
  · exact (hcomplete.snapshots ⟨0⟩ _ rfl (.child "next" "height") (by decide)).2
  · exact hcomplete.universalData (.ofInterface ⟨0⟩) rfl ⟨.universal, "parent", .known .nodeIndex⟩
      (by decide)

end Layout
end GrammarLayout
