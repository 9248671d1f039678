import FaultTreeExchange.Proofs.Consistency
import FaultTreeExchange.Proofs.DocumentGrammar
import FaultTreeExchange.Proofs.ExchangeGrammar
import FaultTreeExchange.Proofs.FloatText
import FaultTreeExchange.Proofs.SoundTree

/-!
# Trees conform to the grammar

The exchange text of the tree of an accepted source is a well-formed document of the grammar, and it
stays one when the undefined events get a probability. The text always has events: some formula
refers to no gate, because the gates have no cycle.
-/

namespace FaultTreeExchange
namespace FaultTree

variable {document : Document} {tree : FaultTree} {multiTop : Bool} {name : String} {element : Xml}

/-- The tree presents a document: it writes the gates as the tree of the document does, it has the
same events, and their probabilities lie between zero and one. -/
structure Presents (tree : FaultTree) (document : Document) : Prop where
  name_eq : tree.name = document.name
  gates_eq : tree.gates.map tree.gateElement = document.gates.map (writtenGate document)
  basicNames_eq : tree.basicEvents.map BasicEvent.name =
    (ofBuild document).basicEvents.map BasicEvent.name
  houseEvents_eq : tree.houseEvents = (ofSound document).houseEvents
  probabilities : ∀ event ∈ tree.basicEvents, ∀ value, event.probability = some value →
    value.isProbability = true

lemma presents_ofSound
    (h : ∀ assignment ∈ document.probabilities, assignment.value.isProbability = true) :
    (ofSound document).Presents document where
  name_eq := name_ofSound document
  gates_eq := by
    rw [gates_ofSound, List.map_map]
    exact List.map_congr_left fun definition _ => gateElement_resolvedGate document definition
  basicNames_eq := by rw [basicEvents_ofSound]
  houseEvents_eq := rfl
  probabilities := by
    intro event hevent value hvalue
    rw [basicEvents_ofSound] at hevent
    rcases List.mem_append.mp hevent with hdeclared | hundefined
    · obtain ⟨assignment, hassignment, rfl⟩ := List.mem_map.mp hdeclared
      cases hvalue
      exact h assignment hassignment
    · obtain ⟨mention, -, rfl⟩ := List.mem_map.mp hundefined
      cases hvalue

/-! ### A probability for the undefined events -/

lemma argumentReference_setUndefinedProbability (tree : FaultTree) (probability : Binary64)
    (argument : Argument) :
    (tree.setUndefinedProbability probability).argumentReference argument =
      tree.argumentReference argument := by
  unfold argumentReference
  cases argument.target with
  | none => rfl
  | some id =>
    cases id with
    | gate index | house index => rfl
    | basic index =>
      simp only [Option.bind_some, event?, basicEvents_setUndefinedProbability, List.getElem?_map]
      cases tree.basicEvents[index]? with
      | none => rfl
      | some event => simp [Event.reference, BasicEvent.name_supplied]

lemma gateElement_setUndefinedProbability (tree : FaultTree) (probability : Binary64) :
    (tree.setUndefinedProbability probability).gateElement = tree.gateElement := by
  have helement : (tree.setUndefinedProbability probability).argumentElement =
      tree.argumentElement := by
    funext argument
    unfold argumentElement
    rw [argumentReference_setUndefinedProbability]
  funext gate
  unfold gateElement formulaElements
  rw [helement]

lemma Presents.setUndefinedProbability (h : tree.Presents document) {probability : Binary64}
    (hprobability : probability.isProbability = true) :
    (tree.setUndefinedProbability probability).Presents document where
  name_eq := h.name_eq
  gates_eq := by
    rw [gateElement_setUndefinedProbability]
    exact h.gates_eq
  basicNames_eq := by
    rw [← h.basicNames_eq, basicEvents_setUndefinedProbability, List.map_map]
    exact List.map_congr_left fun event _ => event.name_supplied probability
  houseEvents_eq := h.houseEvents_eq
  probabilities := by
    intro event hevent value hvalue
    rw [basicEvents_setUndefinedProbability] at hevent
    obtain ⟨before, hbefore, rfl⟩ := List.mem_map.mp hevent
    cases hdeclared : before.isDeclared with
    | true =>
      rw [BasicEvent.supplied_of_declared hdeclared] at hvalue
      exact h.probabilities before hbefore value hvalue
    | false =>
      rw [BasicEvent.supplied_of_undefined hdeclared] at hvalue
      cases hvalue
      exact hprobability

/-! ### Definitions -/

lemma Presents.defines_gate (h : tree.Presents document) {definition : GateDefinition}
    (hdefinition : definition ∈ document.gates) :
    tree.toXml.Defines "define-gate" definition.name (writtenGate document definition) := by
  refine ⟨?_, rfl, rfl⟩
  rw [definitions_toXml, h.gates_eq]
  exact List.mem_append_left _ (List.mem_map_of_mem hdefinition)

lemma Presents.exists_defines_basic (h : tree.Presents document) {event : BasicEvent}
    (hevent : event ∈ (ofBuild document).basicEvents) :
    ∃ definition, tree.toXml.Defines "define-basic-event" event.name definition := by
  have hname : event.name ∈ tree.basicEvents.map BasicEvent.name := by
    rw [h.basicNames_eq]
    exact List.mem_map_of_mem hevent
  obtain ⟨found, hfound, hsame⟩ := List.mem_map.mp hname
  exact ⟨found.definition, defines_basic_iff.mpr ⟨found, hfound, hsame, rfl⟩⟩

lemma Presents.exists_defines_house (h : tree.Presents document) {state : StateAssignment}
    (hstate : state ∈ document.states) :
    ∃ definition, tree.toXml.Defines "define-house-event" state.name definition := by
  refine ⟨_, defines_house_iff.mpr ⟨⟨state.name, state.value, state.place.line⟩, ?_, rfl, rfl⟩⟩
  rw [h.houseEvents_eq, houseEvents_ofSound]
  exact List.mem_map_of_mem hstate

/-! ### Valid names -/

lemma isValid_gate (h : document.ValidNames) {definition : GateDefinition}
    (hdefinition : definition ∈ document.gates) : Name.isValid definition.name = true :=
  h.declared _ (List.mem_append_left _ (List.mem_append_left _ (List.mem_map_of_mem hdefinition)))

lemma isValid_state (h : document.ValidNames) {state : StateAssignment}
    (hstate : state ∈ document.states) : Name.isValid state.name = true :=
  h.declared _ (List.mem_append_right _ (List.mem_map_of_mem hstate))

lemma isValid_basicEvent (h : document.ValidNames) {event : BasicEvent}
    (hevent : event ∈ (ofBuild document).basicEvents) : Name.isValid event.name = true := by
  rcases List.mem_append.mp hevent with hdeclared | hundefined
  · obtain ⟨assignment, hassignment, rfl⟩ := List.mem_map.mp hdeclared
    exact h.declared _
      (List.mem_append_left _ (List.mem_append_right _ (List.mem_map_of_mem hassignment)))
  · obtain ⟨mention, hmention, rfl⟩ := List.mem_map.mp hundefined
    obtain ⟨hnew, hfirst⟩ :=
      Document.mem_undeclared_names_iff.mp (List.mem_map_of_mem (f := Prod.fst) hmention)
    exact h.undeclared _ hfirst hnew

/-! ### Formulas -/

lemma Presents.isFormula_of_writtenAs (h : tree.Presents document) (hvalid : document.ValidNames)
    (hwritten : WrittenAs document name element) : Xml.IsFormula tree.toXml element := by
  cases hwritten with
  | gate definition hdefinition _ =>
    exact .reference "gate" _ _ (Or.inl rfl) (isValid_gate hvalid hdefinition)
      (h.defines_gate hdefinition)
  | basic event hevent _ _ _ =>
    obtain ⟨definition, hdefines⟩ := h.exists_defines_basic hevent
    exact .reference "basic-event" _ definition (Or.inr (Or.inl rfl))
      (isValid_basicEvent hvalid hevent) hdefines
  | house state hstate _ =>
    obtain ⟨definition, hdefines⟩ := h.exists_defines_house hstate
    exact .reference "house-event" _ definition (Or.inr (Or.inr rfl))
      (isValid_state hvalid hstate) hdefines

lemma Presents.exists_isFormula (h : tree.Presents document) (hsound : document.Sound multiTop)
    {definition : GateDefinition} (hdefinition : definition ∈ document.gates) :
    ∃ formula, writtenFormula document definition.formula = [formula] ∧
      Xml.IsFormula tree.toXml formula := by
  have hwritten : ∀ child ∈ definition.formula.arguments.map (writtenElement document),
      Xml.IsFormula tree.toXml child := by
    intro child hchild
    obtain ⟨reference, hreference, rfl⟩ := List.mem_map.mp hchild
    have hformula := h.isFormula_of_writtenAs hsound.validNames
      (writtenAs hsound.distinctDeclarations hdefinition hreference)
    unfold writtenElement
    split
    · exact .not _ hformula
    · exact hformula
  have htakes := hsound.fittingOperands definition hdefinition
  rw [← List.length_map (writtenElement document)] at htakes
  unfold writtenFormula
  generalize definition.formula.arguments.map (writtenElement document) = children at hwritten htakes ⊢
  generalize definition.formula.operator = operator at htakes ⊢
  cases operator with
  | null =>
    -- No element stands for the gate itself: its only argument is the formula.
    obtain ⟨child, rfl⟩ := List.length_eq_one_iff.mp htakes
    exact ⟨child, rfl, hwritten child List.mem_cons_self⟩
  | not =>
    obtain ⟨child, rfl⟩ := List.length_eq_one_iff.mp htakes
    exact ⟨_, rfl, .not child (hwritten child List.mem_cons_self)⟩
  | and => exact ⟨_, rfl, .connective "and" children (Or.inl rfl) htakes hwritten⟩
  | or => exact ⟨_, rfl, .connective "or" children (Or.inr rfl) htakes hwritten⟩
  | xor =>
    obtain ⟨first, second, rfl⟩ := List.length_eq_two.mp htakes
    exact ⟨_, rfl, .xor first second (hwritten first (List.mem_pair.mpr (Or.inl rfl)))
      (hwritten second (List.mem_pair.mpr (Or.inr rfl)))⟩
  | atLeast minimum =>
    exact ⟨_, rfl, .atLeast (toString minimum) minimum children (Xml.natural?_toString minimum)
      htakes.1 htakes.2 hwritten⟩

/-! ### Events -/

lemma isEvent_basic {event : BasicEvent} (hname : Name.isValid event.name = true)
    (hprobability : ∀ value, event.probability = some value → value.isProbability = true) :
    Xml.IsEvent event.definition := by
  unfold BasicEvent.definition
  cases hevent : event.probability with
  | none => exact .basic event.name hname
  | some value =>
    exact .float event.name value.render value hname (Binary64.ofText?_render value)
      (hprobability value hevent)

lemma isEvent_house {event : HouseEvent} (hname : Name.isValid event.name = true) :
    Xml.IsEvent event.definition := by
  refine .house event.name _ hname ?_
  cases event.state with
  | true => exact Or.inl rfl
  | false => exact Or.inr rfl

lemma Presents.isEvent (h : tree.Presents document) (hvalid : document.ValidNames) :
    ∀ element ∈ tree.eventElements, Xml.IsEvent element := by
  intro element helement
  rcases List.mem_append.mp helement with hbasic | hhouse
  · obtain ⟨event, hevent, rfl⟩ := List.mem_map.mp hbasic
    have hmem := (basicEvents_perm tree).mem_iff.mp hevent
    have hname : event.name ∈ (ofBuild document).basicEvents.map BasicEvent.name := by
      rw [← h.basicNames_eq]
      exact List.mem_map_of_mem hmem
    obtain ⟨built, hbuilt, hsame⟩ := List.mem_map.mp hname
    refine isEvent_basic ?_ (h.probabilities event hmem)
    rw [← hsame]
    exact isValid_basicEvent hvalid hbuilt
  · obtain ⟨event, hevent, rfl⟩ := List.mem_map.mp hhouse
    rw [h.houseEvents_eq, houseEvents_ofSound] at hevent
    obtain ⟨state, hstate, rfl⟩ := List.mem_map.mp hevent
    exact isEvent_house (isValid_state hvalid hstate)

/-- A sound document has events. Without them every formula would name a gate, and so the gates
would go on forever. -/
lemma exists_event (h : document.Sound multiTop) :
    (ofBuild document).basicEvents ≠ [] ∨ document.states ≠ [] := by
  by_contra hnone
  rw [not_or, not_not, not_not] at hnone
  obtain ⟨hbasic, hstates⟩ := hnone
  have hfalse : ∀ definition ∈ document.gates, False := by
    refine gate_induction h fun definition hdefinition ih => ?_
    have htakes := h.fittingOperands definition hdefinition
    obtain ⟨reference, hreference⟩ := List.exists_mem_of_length_pos htakes.pos
    have hwritten := writtenAs h.distinctDeclarations hdefinition hreference
    generalize referenceElement document reference = element at hwritten
    cases hwritten with
    | gate target htarget hkey => exact ih target htarget reference hreference hkey
    | basic event hevent =>
      rw [hbasic] at hevent
      exact List.not_mem_nil hevent
    | house state hstate =>
      rw [hstates] at hstate
      exact List.not_mem_nil hstate
  obtain ⟨definition, hdefinition⟩ := List.exists_mem_of_ne_nil _ h.top.1
  exact hfalse definition hdefinition

lemma Presents.eventElements_ne_nil (h : tree.Presents document) (hsound : document.Sound multiTop) :
    tree.eventElements ≠ [] := by
  intro hnil
  obtain ⟨hbasics, hhouses⟩ := List.append_eq_nil_iff.mp hnil
  rcases exists_event hsound with hbasic | hstate
  · have hperm := basicEvents_perm tree
    rw [List.map_eq_nil_iff.mp hbasics] at hperm
    have hnames := h.basicNames_eq
    rw [hperm.nil_eq.symm, List.map_nil] at hnames
    exact hbasic (List.map_eq_nil_iff.mp hnames.symm)
  · rw [h.houseEvents_eq, houseEvents_ofSound, List.map_map, List.map_eq_nil_iff] at hhouses
    exact hstate hhouses

/-! ### Distinct names -/

lemma filterMap_names {α : Type} {written : α → Xml} (name : α → String)
    (h : ∀ item, (written item).attribute? "name" = some (name item)) (items : List α) :
    (items.map written).filterMap (fun definition => definition.attribute? "name") =
      items.map name := by
  rw [List.filterMap_map, ← List.filterMap_eq_map]
  exact List.filterMap_congr fun item _ => h item

lemma Presents.definedNames_toXml (h : tree.Presents document) :
    tree.toXml.definedNames = document.gates.map GateDefinition.name ++
      ((tree.declaredEvents ++ tree.undefinedEvents).map BasicEvent.name ++
        document.states.map StateAssignment.name) := by
  unfold Xml.definedNames
  rw [definitions_toXml, h.gates_eq, eventElements, h.houseEvents_eq, houseEvents_ofSound,
    List.filterMap_append, List.filterMap_append, List.map_map,
    filterMap_names GateDefinition.name fun _ => rfl,
    filterMap_names BasicEvent.name name_basicDefinition,
    filterMap_names StateAssignment.name fun _ => rfl]

lemma Presents.keys_perm (h : tree.Presents document) :
    (tree.toXml.definedNames.map Name.key).Perm ((ofBuild document).names.map Prod.fst) := by
  have hbasic : ((tree.declaredEvents ++ tree.undefinedEvents).map BasicEvent.name).Perm
      (document.probabilities.map ProbabilityAssignment.name ++
        document.undeclared.map Prod.fst) := by
    refine ((basicEvents_perm tree).map BasicEvent.name).trans (List.Perm.of_eq ?_)
    rw [h.basicNames_eq]
    simp [ofBuild, addUndefined, ofDeclarations, Function.comp_def]
  have hkeys : (ofBuild document).names.map Prod.fst =
      (document.declaredNames ++ document.undeclared.map Prod.fst).map Name.key := by
    rw [keys_ofBuild, List.map_append, List.map_map]
    rfl
  rw [hkeys, h.definedNames_toXml]
  -- The table lists the undeclared names last, the document before the house events.
  apply List.Perm.map
  unfold Document.declaredNames
  rw [List.append_assoc, List.append_assoc]
  refine List.Perm.append_left _ ((hbasic.append_right _).trans ?_)
  rw [List.append_assoc]
  exact List.Perm.append_left _ List.perm_append_comm

/-! ### Documents -/

theorem Presents.conforms (h : tree.Presents document) (hsound : document.Sound multiTop) :
    tree.toXml.Conforms where
  shape := by
    refine ⟨tree.name, tree.gates.map tree.gateElement, tree.eventElements, ?_, ?_, ?_,
      h.isEvent hsound.validNames⟩
    · have hne := h.eventElements_ne_nil hsound
      unfold toXml treeElement
      rw [← List.isEmpty_eq_false_iff] at hne
      rw [hne]
      rfl
    · rw [h.name_eq]
      exact hsound.validNames.tree
    · intro gate hgate
      rw [h.gates_eq] at hgate
      obtain ⟨definition, hdefinition, rfl⟩ := List.mem_map.mp hgate
      obtain ⟨formula, hwritten, hformula⟩ := h.exists_isFormula hsound hdefinition
      unfold writtenGate
      rw [hwritten]
      exact .intro definition.name formula (isValid_gate hsound.validNames hdefinition) hformula
  distinct := by
    rw [h.keys_perm.nodup_iff]
    exact nodup_keys_ofBuild hsound.distinctDeclarations

end FaultTree

/-- The exchange text of an accepted source is a well-formed document of the grammar, also with a
probability for the undefined events. -/
theorem translate_conforms {source file : String} {multiTop : Bool} {tree : FaultTree}
    (h : translate source file multiTop = .ok tree) (probability : Option Binary64)
    (hprobability : ∀ value, probability = some value → value.isProbability = true) :
    ∃ root, root.Conforms ∧ Xml.WellFormed
      (probability.elim tree tree.setUndefinedProbability).exchangeText root := by
  obtain ⟨document, hparse, htree⟩ := translate_eq_ok h
  obtain ⟨hsound, rfl⟩ := FaultTree.ofDocument_eq_ok_iff.mp htree
  have hpresents : (probability.elim (FaultTree.ofSound document)
      (FaultTree.ofSound document).setUndefinedProbability).Presents document := by
    have hofSound := FaultTree.presents_ofSound (Document.isProbability_of_parse hparse)
    cases probability with
    | none => exact hofSound
    | some value => exact hofSound.setUndefinedProbability (hprobability value rfl)
  have hconforms := hpresents.conforms hsound
  exact ⟨_, hconforms, hconforms.legal, FaultTree.read_exchangeText _⟩

/-- The sample with a probability of one half for its undefined event. -/
theorem sample_conforms :
    translate sampleSource "plant.ft" false = .ok (FaultTree.ofSound sampleDocument) ∧
    (Binary64.ofRank false 0x3FE0000000000000).isProbability = true ∧
    ∃ root, root.Conforms ∧ Xml.WellFormed ((FaultTree.ofSound sampleDocument).setUndefinedProbability
      (Binary64.ofRank false 0x3FE0000000000000)).exchangeText root := by
  have hprobability : ∀ value, some (Binary64.ofRank false 0x3FE0000000000000) = some value →
      value.isProbability = true := by
    rintro _ ⟨⟩
    decide
  exact ⟨translate_sampleSource, by decide, translate_conforms translate_sampleSource
    (some (Binary64.ofRank false 0x3FE0000000000000)) hprobability⟩

end FaultTreeExchange
