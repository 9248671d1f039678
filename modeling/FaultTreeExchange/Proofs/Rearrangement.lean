import FaultTreeExchange.FaultTree.Views
import FaultTreeExchange.Proofs.Lookup
import FaultTreeExchange.Proofs.NameCasing

/-!
# Documents in another order

Two documents that say the same in another order are sound or unsound alike, although the first of
several spellings of an undeclared name differs. Their trees agree in everything but positions, lines
and these spellings.
-/

namespace FaultTreeExchange
open Relation

/-! ### Rearranged documents -/

/-- What a definition says, wherever it stands. -/
def GateDefinition.content (definition : GateDefinition) : String × Formula :=
  (definition.name, definition.formula)

/-- What an assignment says, wherever it stands. -/
def ProbabilityAssignment.content (assignment : ProbabilityAssignment) : String × Binary64 :=
  (assignment.name, assignment.value)

/-- What an assignment says, wherever it stands. -/
def StateAssignment.content (assignment : StateAssignment) : String × Bool :=
  (assignment.name, assignment.value)

lemma exists_of_perm_map {α β : Type} {image : α → β} {items others : List α}
    (h : (items.map image).Perm (others.map image)) {item : α} (hitem : item ∈ items) :
    ∃ other ∈ others, image other = image item :=
  List.mem_map.mp (h.mem_iff.mp (List.mem_map_of_mem hitem))

namespace Document

/-- The documents have one name, and their statements say the same in any order. -/
structure Rearranges (document other : Document) : Prop where
  name : document.name = other.name
  gates : (document.gates.map GateDefinition.content).Perm (other.gates.map GateDefinition.content)
  probabilities : (document.probabilities.map ProbabilityAssignment.content).Perm
    (other.probabilities.map ProbabilityAssignment.content)
  states : (document.states.map StateAssignment.content).Perm
    (other.states.map StateAssignment.content)

/-- Every reference is written like a word. -/
def RefersByWords (document : Document) : Prop :=
  ∀ reference ∈ document.references, Name.IsWord reference.name

variable {document other : Document} {multiTop : Bool} {name : String}

lemma RefersTo.of_content {first second image image' : GateDefinition}
    (h : document.RefersTo first second)
    (hfirst : image ∈ other.gates ∧ image.content = first.content)
    (hsecond : image' ∈ other.gates ∧ image'.content = second.content) :
    other.RefersTo image image' := by
  obtain ⟨-, -, reference, hreference, hkey⟩ := h
  refine ⟨hfirst.1, hsecond.1, reference, ?_, ?_⟩
  · rwa [(Prod.mk.inj hfirst.2).2]
  · rwa [(Prod.mk.inj hsecond.2).1]

namespace Rearranges

lemma symm (h : document.Rearranges other) : other.Rearranges document :=
  ⟨h.name.symm, h.gates.symm, h.probabilities.symm, h.states.symm⟩

lemma forall_gates (h : document.Rearranges other) (property : String × Formula → Prop)
    (hgates : ∀ definition ∈ document.gates, property definition.content) :
    ∀ definition ∈ other.gates, property definition.content := by
  intro definition hdefinition
  obtain ⟨source, hsource, hcontent⟩ := exists_of_perm_map h.gates.symm hdefinition
  rw [← hcontent]
  exact hgates source hsource

lemma declaredNames (h : document.Rearranges other) :
    document.declaredNames.Perm other.declaredNames := by
  have hgates := h.gates.map Prod.fst
  have hprobabilities := h.probabilities.map Prod.fst
  have hstates := h.states.map Prod.fst
  simp only [List.map_map] at hgates hprobabilities hstates
  exact (hgates.append hprobabilities).append hstates

lemma declaredKeys (h : document.Rearranges other) :
    document.declaredKeys.Perm other.declaredKeys :=
  h.declaredNames.map Name.key

lemma references (h : document.Rearranges other) :
    document.references.Perm other.references := by
  have hreferences := h.gates.flatMap_right fun content => content.2.arguments
  simp only [List.flatMap_map] at hreferences
  exact hreferences

lemma topGates (h : document.Rearranges other) :
    (document.topGates.map GateDefinition.content).Perm
      (other.topGates.map GateDefinition.content) := by
  have hfilter : ∀ document : Document, document.topGates.map GateDefinition.content =
      (document.gates.map GateDefinition.content).filter fun content =>
        document.references.all fun reference => Name.key reference.name ≠ Name.key content.1 := by
    intro document
    rw [List.filter_map]
    rfl
  have htest : ∀ content : String × Formula,
      (document.references.all fun reference => Name.key reference.name ≠ Name.key content.1) =
        other.references.all fun reference => Name.key reference.name ≠ Name.key content.1 := by
    intro content
    rw [Bool.eq_iff_iff, List.all_eq_true, List.all_eq_true]
    simp only [h.references.mem_iff]
  rw [hfilter, hfilter]
  simp only [htest]
  exact h.gates.filter _

/-! ### Requirements -/

/-- The first spelling of an undeclared name is valid in one order when it is in another, since its
spellings are words with one key. -/
lemma validNames (h : document.Rearranges other) (hwords : document.RefersByWords)
    (hnames : document.ValidNames) : other.ValidNames where
  tree := h.name ▸ hnames.tree
  declared := fun name hname => hnames.declared name (h.declaredNames.mem_iff.mpr hname)
  undeclared := by
    intro name hfirst hnew
    have hnames' : ∀ name, name ∈ document.references.map Reference.name →
        Name.IsWord name := by
      rintro name hname
      obtain ⟨reference, hreference, rfl⟩ := List.mem_map.mp hname
      exact hwords reference hreference
    have hmem : name ∈ document.references.map Reference.name := by
      obtain ⟨before, after, heq, -⟩ := hfirst
      rw [(h.references.map Reference.name).mem_iff, heq]
      simp
    obtain ⟨spelling, hspelling, hkey⟩ := exists_isFirst Name.key hmem
    have hword : Name.IsWord spelling := by
      obtain ⟨before, after, heq, -⟩ := hspelling
      exact hnames' spelling (by rw [heq]; simp)
    rw [← Name.isValid_eq_of_key_eq hword (hnames' name hmem) hkey]
    refine hnames.undeclared spelling hspelling ?_
    rwa [hkey, h.declaredKeys.mem_iff]

lemma acyclic (h : document.Rearranges other) (hacyclic : document.Acyclic) : other.Acyclic := by
  intro definition hcycle
  obtain ⟨_, ⟨hdefinition, -⟩, -⟩ := TransGen.head'_iff.mp hcycle
  obtain ⟨image, himage, hcontent⟩ := exists_of_perm_map h.gates.symm hdefinition
  refine hacyclic image (transGen_of_linked
    (fun first image => image ∈ document.gates ∧ image.content = first.content) ?_ ?_ hcycle
    image image ⟨himage, hcontent⟩ ⟨himage, hcontent⟩)
  · rintro first second ⟨hfirst, -⟩
    exact exists_of_perm_map h.gates.symm hfirst
  · intro first second image image' hedge hfirst hsecond
    exact hedge.of_content hfirst hsecond

lemma hasTop (h : document.Rearranges other) (htop : document.HasTop multiTop) :
    other.HasTop multiTop := by
  have hlength := h.topGates.length_eq
  rw [List.length_map, List.length_map] at hlength
  refine ⟨fun hnil => htop.1 ?_, fun hsingle => hlength ▸ htop.2 hsingle⟩
  have hgates := h.gates
  rw [hnil, List.map_nil, List.perm_nil, List.map_eq_nil_iff] at hgates
  exact hgates

theorem sound (h : document.Rearranges other) (hwords : document.RefersByWords)
    (hsound : document.Sound multiTop) : other.Sound multiTop where
  distinctArguments := h.forall_gates
    (fun content => (content.2.arguments.map Reference.mark).Nodup) hsound.distinctArguments
  distinctDeclarations := h.declaredKeys.nodup_iff.mp hsound.distinctDeclarations
  validNames := h.validNames hwords hsound.validNames
  fittingOperands := h.forall_gates
    (fun content => content.2.operator.Takes content.2.arguments.length) hsound.fittingOperands
  acyclic := h.acyclic hsound.acyclic
  top := h.hasTop hsound.top

end Rearranges
end Document

/-! ### Rearranged trees -/

/-- What a name can stand for. Events that no statement declares are told from declared ones. -/
inductive EventKind where
  | gate
  | declared
  | undefined
  | house
  deriving DecidableEq, Repr

def Event.kind : Event → EventKind
  | .gate _ => .gate
  | .basic ⟨_, _, .declared, _⟩ => .declared
  | .basic ⟨_, _, .undefined, _⟩ => .undefined
  | .house _ => .house

namespace FaultTree

/-- The gate or event that an argument refers to. -/
def target? (tree : FaultTree) (argument : Argument) : Option Event :=
  argument.target.bind tree.event?

/-- What an argument says: its spelling and polarity, and the kind and key of its target. -/
def argumentContent (tree : FaultTree) (argument : Argument) :
    String × Bool × Option (EventKind × String) :=
  (argument.name, argument.complement,
    (tree.target? argument).map fun event => (event.kind, Name.key event.name))

/-- What a gate says: its name, its operator and its arguments. -/
def gateContent (tree : FaultTree) (gate : Gate) :
    String × Operator × List (String × Bool × Option (EventKind × String)) :=
  (gate.name, gate.operator, gate.arguments.map tree.argumentContent)

/-- The trees have the same name, gates, top gates and events, in any order. Undefined events are the
same up to letter case, and so are the targets of arguments. -/
structure Rearranges (tree other : FaultTree) : Prop where
  name : tree.name = other.name
  gates : (tree.gates.map tree.gateContent).Perm (other.gates.map other.gateContent)
  targets : ∀ gate ∈ tree.gates, ∀ argument ∈ gate.arguments, (tree.target? argument).isSome
  roots : (tree.rootGates.map Gate.name).Perm (other.rootGates.map Gate.name)
  declared : (tree.declaredEvents.map fun event => (event.name, event.probability)).Perm
    (other.declaredEvents.map fun event => (event.name, event.probability))
  houses : (tree.houseEvents.map fun event => (event.name, event.state)).Perm
    (other.houseEvents.map fun event => (event.name, event.state))
  undefined : (tree.undefinedEvents.map fun event => Name.key event.name).Perm
    (other.undefinedEvents.map fun event => Name.key event.name)

end FaultTree

namespace Document

variable {document other : Document} {name : String} {kind : EventKind} {event : Event}

/-- A name stands for a gate or event of the kind when a statement of that kind declares it. -/
def DeclaresAs (document : Document) (name : String) : EventKind → Prop
  | .gate => ∃ definition ∈ document.gates, Name.key definition.name = Name.key name
  | .declared => ∃ assignment ∈ document.probabilities, Name.key assignment.name = Name.key name
  | .house => ∃ state ∈ document.states, Name.key state.name = Name.key name
  | .undefined => ∀ declared ∈ document.declaredNames, Name.key declared ≠ Name.key name

lemma kind_eq_iff (h : event.StandsFor document name) :
    event.kind = kind ↔ document.DeclaresAs name kind := by
  have hkind : event.kind = kind ↔ match kind with
      | .gate => ∃ entity, event = .gate entity
      | .declared => ∃ entity, event = .basic entity ∧ entity.origin = .declared
      | .undefined => ∃ entity, event = .basic entity ∧ entity.origin = .undefined
      | .house => ∃ entity, event = .house entity := by
    rcases event with gate | ⟨spelling, probability, origin, line⟩ | house
    · cases kind <;> simp [Event.kind]
    · cases origin <;> cases kind <;> simp [Event.kind]
    · cases kind <;> simp [Event.kind]
  rw [hkind]
  cases kind with
  | gate => exact h.gate_iff
  | declared => exact h.declared_iff
  | undefined => exact h.undefined_iff
  | house => exact h.house_iff

namespace Rearranges

lemma declaresAs (h : document.Rearranges other) (hdeclares : document.DeclaresAs name kind) :
    other.DeclaresAs name kind := by
  cases kind with
  | gate =>
    obtain ⟨definition, hdefinition, hkey⟩ := hdeclares
    obtain ⟨image, himage, hcontent⟩ := exists_of_perm_map h.gates hdefinition
    exact ⟨image, himage, (Prod.mk.inj hcontent).1 ▸ hkey⟩
  | declared =>
    obtain ⟨assignment, hassignment, hkey⟩ := hdeclares
    obtain ⟨image, himage, hcontent⟩ := exists_of_perm_map h.probabilities hassignment
    exact ⟨image, himage, (Prod.mk.inj hcontent).1 ▸ hkey⟩
  | house =>
    obtain ⟨state, hstate, hkey⟩ := hdeclares
    obtain ⟨image, himage, hcontent⟩ := exists_of_perm_map h.states hstate
    exact ⟨image, himage, (Prod.mk.inj hcontent).1 ▸ hkey⟩
  | undefined =>
    exact fun declared hdeclared => hdeclares declared (h.declaredNames.mem_iff.mpr hdeclared)

lemma kind_eq (h : document.Rearranges other) {found : Event}
    (hevent : event.StandsFor document name) (hfound : found.StandsFor other name) :
    event.kind = found.kind := by
  exact ((kind_eq_iff hfound).mpr (h.declaresAs ((kind_eq_iff hevent).mp rfl))).symm

end Rearranges
end Document

namespace FaultTree

variable {document other : Document}

/-! ### The gates of sound documents -/

lemma exists_lookup_ofSound (h : document.DistinctDeclarations) {reference : Reference}
    (hreference : reference ∈ document.references) :
    ∃ event, (ofSound document).lookup reference.name = some event ∧
      event.StandsFor document reference.name ∧
      Name.key event.name = Name.key reference.name := by
  obtain ⟨definition, hdefinition, hargument⟩ := List.mem_flatMap.mp hreference
  have hknown : Name.key reference.name ∈ (ofSound document).names.map Prod.fst := by
    rw [names_ofSound]
    exact key_mem_ofBuild (mem_mentions hdefinition hargument)
  obtain ⟨id, hid⟩ := NameTable.exists_find?_eq_some_iff.mpr hknown
  obtain ⟨event, hevent, hkey⟩ := (consistent_ofSound document).agree.exists_event hid
  have hlookup : (ofSound document).lookup reference.name = some event :=
    Option.bind_eq_some_iff.mpr ⟨id, hid, hevent⟩
  exact ⟨event, hlookup, standsFor_of_lookup h hlookup, hkey⟩

/-- What a reference says in the tree of the document. -/
def referenceContent (document : Document) (reference : Reference) :
    String × Bool × Option (EventKind × String) :=
  (reference.name, reference.complement,
    ((ofSound document).lookup reference.name).map fun event => (event.kind, Name.key event.name))

lemma gateContent_resolvedGate (document : Document) (definition : GateDefinition) :
    (ofSound document).gateContent (resolvedGate document definition) =
      (definition.content.1, definition.content.2.operator,
        definition.content.2.arguments.map (referenceContent document)) := by
  have harguments : (resolvedGate document definition).arguments.map
      (ofSound document).argumentContent =
        definition.formula.arguments.map (referenceContent document) := by
    unfold resolvedGate Gate.resolved GateDefinition.toGate
    rw [List.map_map, List.map_map]
    refine List.map_congr_left fun reference _ => ?_
    unfold referenceContent lookup
    rw [names_ofSound]
    rfl
  unfold gateContent
  rw [harguments]
  rfl

lemma referenceContent_eq (h : document.Rearranges other) (hdocument : document.DistinctDeclarations)
    {reference : Reference} (hreference : reference ∈ document.references) :
    referenceContent document reference = referenceContent other reference := by
  have hother := h.declaredKeys.nodup_iff.mp hdocument
  obtain ⟨event, hevent, hstands, hkey⟩ := exists_lookup_ofSound hdocument hreference
  obtain ⟨found, hfound, hstands', hkey'⟩ :=
    exists_lookup_ofSound hother (h.references.mem_iff.mp hreference)
  unfold referenceContent
  rw [hevent, hfound, Option.map_some, Option.map_some, h.kind_eq hstands hstands', hkey, hkey']

lemma perm_gateContent (h : document.Rearranges other)
    (hdocument : document.DistinctDeclarations) :
    ((ofSound document).gates.map (ofSound document).gateContent).Perm
      ((ofSound other).gates.map (ofSound other).gateContent) := by
  have hcontent : ∀ document : Document,
      (ofSound document).gates.map (ofSound document).gateContent =
        (document.gates.map GateDefinition.content).map fun content =>
          (content.1, content.2.operator, content.2.arguments.map (referenceContent document)) := by
    intro document
    rw [gates_ofSound, List.map_map, List.map_map]
    exact List.map_congr_left fun definition _ => gateContent_resolvedGate document definition
  have hsame : (ofSound document).gates.map (ofSound document).gateContent =
      (document.gates.map GateDefinition.content).map fun content =>
        (content.1, content.2.operator, content.2.arguments.map (referenceContent other)) := by
    rw [hcontent, List.map_map, List.map_map]
    refine List.map_congr_left fun definition hdefinition => ?_
    have harguments : definition.formula.arguments.map (referenceContent document) =
        definition.formula.arguments.map (referenceContent other) :=
      List.map_congr_left fun reference hreference =>
        referenceContent_eq h hdocument (List.mem_flatMap.mpr ⟨definition, hdefinition, hreference⟩)
    simp only [Function.comp_apply, GateDefinition.content, harguments]
  rw [hsame, hcontent other]
  exact h.gates.map _

lemma isSome_target?_ofSound (h : document.DistinctDeclarations) {gate : Gate}
    (hgate : gate ∈ (ofSound document).gates) {argument : Argument}
    (hargument : argument ∈ gate.arguments) :
    ((ofSound document).target? argument).isSome := by
  have htarget : (ofSound document).target? argument =
      (ofSound document).lookup argument.name := by
    unfold target? lookup
    rw [(resolved_ofSound document).target_eq hgate hargument]
  rw [gates_ofSound] at hgate
  obtain ⟨definition, hdefinition, rfl⟩ := List.mem_map.mp hgate
  obtain ⟨_, hunresolved, rfl⟩ := List.mem_map.mp hargument
  obtain ⟨reference, hreference, rfl⟩ := List.mem_map.mp hunresolved
  obtain ⟨event, hevent, -, -⟩ :=
    exists_lookup_ofSound h (List.mem_flatMap.mpr ⟨definition, hdefinition, hreference⟩)
  rw [htarget]
  exact Option.isSome_iff_exists.mpr ⟨event, hevent⟩

/-! ### The top gates and the events of sound documents -/

lemma rootGates_ofSound (h : document.DistinctDeclarations) :
    (ofSound document).rootGates = document.topGates.map (resolvedGate document) := by
  have hroots : (ofSound document).roots.map (fun index => (ofSound document).gates[index]?) =
      (document.topGates.map (resolvedGate document)).map some := by
    have htop := congrArg (List.map (Option.map (resolvedGate document)))
      (map_getElem?_topCandidates h)
    rw [List.map_map, List.map_map] at htop
    rw [gates_ofSound, List.map_map]
    simp only [List.getElem?_map]
    exact htop
  calc (ofSound document).rootGates
    _ = ((ofSound document).roots.map fun index => (ofSound document).gates[index]?).filterMap id := by
        rw [List.filterMap_map]
        rfl
    _ = document.topGates.map (resolvedGate document) := by
        rw [hroots, List.filterMap_map]
        exact List.filterMap_some

lemma declaredEvents_eq (document : Document) :
    (ofSound document).declaredEvents = document.probabilities.map fun assignment =>
      ⟨assignment.name, some assignment.value, .declared, assignment.place.line⟩ := by
  have hbuild := declaredEvents_ofBuild document
  unfold declaredEvents at hbuild ⊢
  rw [basicEvents_ofSound, hbuild]
  rfl

lemma undefinedEvents_eq (document : Document) :
    (ofSound document).undefinedEvents =
      document.undeclared.map fun mention => ⟨mention.1, none, .undefined, mention.2⟩ := by
  have hbuild := undefinedEvents_ofBuild document
  unfold undefinedEvents at hbuild ⊢
  rw [basicEvents_ofSound, hbuild]

lemma declaredEvents_ofSound (document : Document) :
    (ofSound document).declaredEvents.map (fun event => (event.name, event.probability)) =
      (document.probabilities.map ProbabilityAssignment.content).map fun content =>
        (content.1, some content.2) := by
  rw [declaredEvents_eq, List.map_map, List.map_map]
  rfl

lemma undefinedEvents_ofSound (document : Document) :
    (ofSound document).undefinedEvents.map (fun event => Name.key event.name) =
      document.undeclared.map fun mention => Name.key mention.1 := by
  rw [undefinedEvents_eq, List.map_map]
  rfl

lemma mem_undeclared_keys_iff {key : String} :
    key ∈ document.undeclared.map (fun mention => Name.key mention.1) ↔
      key ∉ document.declaredKeys ∧
        ∃ reference ∈ document.references, Name.key reference.name = key := by
  have hnames : key ∈ document.undeclared.map (fun mention => Name.key mention.1) ↔
      ∃ name ∈ document.undeclared.map Prod.fst, Name.key name = key := by
    simp
  rw [hnames]
  simp only [Document.mem_undeclared_names_iff]
  constructor
  · rintro ⟨name, ⟨hnew, before, after, heq, -⟩, rfl⟩
    have hname : name ∈ document.references.map Reference.name := by
      rw [heq]
      simp
    obtain ⟨reference, hreference, rfl⟩ := List.mem_map.mp hname
    exact ⟨hnew, reference, hreference, rfl⟩
  · rintro ⟨hnew, reference, hreference, rfl⟩
    obtain ⟨name, hfirst, hkey⟩ :=
      exists_isFirst Name.key (List.mem_map_of_mem (f := Reference.name) hreference)
    exact ⟨name, ⟨hkey ▸ hnew, hfirst⟩, hkey⟩

lemma nodup_undeclared_keys (document : Document) :
    (document.undeclared.map fun mention => Name.key mention.1).Nodup :=
  (fresh_firstMentions document.declaredKeys (mentions document)).1

/-- An undeclared name gets one event, whichever of its spellings comes first. -/
lemma perm_undeclared_keys (h : document.Rearranges other) :
    (document.undeclared.map fun mention => Name.key mention.1).Perm
      (other.undeclared.map fun mention => Name.key mention.1) := by
  refine (List.perm_ext_iff_of_nodup (nodup_undeclared_keys document)
    (nodup_undeclared_keys other)).mpr fun key => ?_
  rw [mem_undeclared_keys_iff, mem_undeclared_keys_iff, h.declaredKeys.mem_iff]
  simp only [h.references.mem_iff]

theorem rearranges_ofSound (h : document.Rearranges other)
    (hdocument : document.DistinctDeclarations) :
    (ofSound document).Rearranges (ofSound other) where
  name := by rw [name_ofSound, name_ofSound, h.name]
  gates := perm_gateContent h hdocument
  targets := fun _ hgate _ hargument => isSome_target?_ofSound hdocument hgate hargument
  roots := by
    have hnames : ∀ document : Document,
        (document.topGates.map (resolvedGate document)).map Gate.name =
          (document.topGates.map GateDefinition.content).map Prod.fst := by
      intro document
      rw [List.map_map, List.map_map]
      rfl
    rw [rootGates_ofSound hdocument, rootGates_ofSound (h.declaredKeys.nodup_iff.mp hdocument),
      hnames, hnames]
    exact h.topGates.map Prod.fst
  declared := by
    rw [declaredEvents_ofSound, declaredEvents_ofSound]
    exact h.probabilities.map _
  houses := by
    have hevents : ∀ document : Document,
        (ofSound document).houseEvents.map (fun event => (event.name, event.state)) =
          document.states.map StateAssignment.content := by
      intro document
      rw [houseEvents_ofSound, List.map_map]
      rfl
    rw [hevents, hevents]
    exact h.states
  undefined := by
    rw [undefinedEvents_ofSound, undefinedEvents_ofSound]
    exact perm_undeclared_keys h

end FaultTree
end FaultTreeExchange
