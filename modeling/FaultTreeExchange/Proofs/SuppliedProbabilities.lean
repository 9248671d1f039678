import FaultTreeExchange.Proofs.Conformance
import FaultTreeExchange.Proofs.UndefinedEvents

/-!
# Probabilities for undefined events

Undefined events may be given a probability before or after a validation, whether this succeeds or
fails: no validation looks at probabilities or takes them away. In the exchange format only the values
of the undefined events are different afterwards.
-/

namespace FaultTreeExchange

namespace BasicEvent

/-- A given probability in the place of that of an undefined event, and nothing else. -/
structure Supplied (probability : Binary64) (before after : BasicEvent) : Prop where
  name_eq : after.name = before.name
  origin_eq : after.origin = before.origin
  line_eq : after.line = before.line
  probability_eq : after.probability =
    if before.isDeclared then before.probability else some probability

variable {event : BasicEvent} {probability : Binary64}

lemma supplied_supplied (event : BasicEvent) (probability : Binary64) :
    Supplied probability event (event.supplied probability) := by
  cases hdeclared : event.isDeclared with
  | true =>
    rw [supplied_of_declared hdeclared]
    exact ⟨rfl, rfl, rfl, (if_pos hdeclared).symm⟩
  | false =>
    rw [supplied_of_undefined hdeclared]
    exact ⟨rfl, rfl, rfl, (if_neg (by simp [hdeclared])).symm⟩

end BasicEvent

namespace Xml

/-- The element defines a basic event, with no more than values in it. -/
structure IsEventDefinition (name : String) (element : Xml) : Prop where
  tag_eq : element.tag = "define-basic-event"
  attributes_eq : element.attributes = [("name", name)]
  children_float : ∀ child ∈ element.children, child.tag = "float"

/-- The second element is the first one with a given probability as the only value of some events. -/
inductive SuppliedWith (probability : Binary64) (names : List String) : Xml → Xml → Prop where
  | same (element : Xml) : SuppliedWith probability names element element
  | event {name : String} {before : Xml} (hname : name ∈ names)
      (hbefore : IsEventDefinition name before) :
      SuppliedWith probability names before
        (.node "define-basic-event" [("name", name)] [.leaf "float" [("value", probability.render)]])
  | within (tag : String) (attributes : List (String × String)) {before after : List Xml}
      (h : List.Forall₂ (SuppliedWith probability names) before after) :
      SuppliedWith probability names (.node tag attributes before) (.node tag attributes after)

lemma forall₂_suppliedWith_same (probability : Binary64) (names : List String)
    (elements : List Xml) : List.Forall₂ (SuppliedWith probability names) elements elements :=
  List.forall₂_same.mpr fun element _ => .same element

end Xml

namespace FaultTree

variable {document : Document} {tree : FaultTree}

/-! ### The events of a tree -/

lemma supplyUndefined_eq (tree : FaultTree) (probability : Binary64) :
    tree.supplyUndefined probability =
      (tree.setUndefinedProbability probability, tree.undefinedEvents.length) := by
  unfold setUndefinedProbability supplyUndefined
  rw [supplyEvents_eq, Nat.zero_add]
  rfl

lemma declaredEvents_setUndefinedProbability (tree : FaultTree) (probability : Binary64) :
    (tree.setUndefinedProbability probability).declaredEvents = tree.declaredEvents := by
  unfold declaredEvents
  rw [basicEvents_setUndefinedProbability, List.filter_map, List.map_congr_left, List.map_id]
  · simp only [Function.comp_def, BasicEvent.isDeclared_supplied]
  · intro event hevent
    exact BasicEvent.supplied_of_declared
      ((BasicEvent.isDeclared_supplied event probability).symm.trans (List.mem_filter.mp hevent).2)

lemma undefinedEvents_setUndefinedProbability (tree : FaultTree) (probability : Binary64) :
    (tree.setUndefinedProbability probability).undefinedEvents =
      tree.undefinedEvents.map fun event => { event with probability := some probability } := by
  unfold undefinedEvents
  rw [basicEvents_setUndefinedProbability, List.filter_map]
  simp only [Function.comp_def, BasicEvent.isDeclared_supplied]
  refine List.map_congr_left fun event hevent => BasicEvent.supplied_of_undefined ?_
  simpa using (List.mem_filter.mp hevent).2

/-! ### Validations -/

lemma NamesAgree.resolve_setUndefinedProbability (h : tree.NamesAgree) (probability : Binary64) :
    (tree.setUndefinedProbability probability).resolve =
      tree.resolve.setUndefinedProbability probability := by
  rw [h.resolve_eq, (h.of_asBuilt_eq (asBuilt_setUndefinedProbability probability)).resolve_eq]
  rfl

/-- A validation finds the same with and without the probability, and keeps it. -/
lemma Consistent.validate_setUndefinedProbability (h : tree.Consistent) (probability : Binary64)
    (multiTop : Bool) :
    (tree.setUndefinedProbability probability).validate multiTop =
      ((tree.validate multiTop).1.setUndefinedProbability probability,
        (tree.validate multiTop).2) := by
  unfold FaultTree.validate
  rw [checkDeclarations_congr (asBuilt_setUndefinedProbability probability)]
  cases tree.checkDeclarations with
  | error diagnostic => rfl
  | ok _ =>
    dsimp only
    rw [h.agree.resolve_setUndefinedProbability]
    -- The checks of the graph look at the gates only.
    have hgraph : (tree.resolve.setUndefinedProbability probability).checkGraph multiTop =
        tree.resolve.checkGraph multiTop := rfl
    rw [hgraph]
    cases tree.resolve.checkGraph multiTop with
    | error diagnostic => rfl
    | ok roots => rfl

/-- The tree after several validations. -/
def validateAll (tree : FaultTree) (options : List Bool) : FaultTree :=
  options.foldl (fun tree multiTop => (tree.validate multiTop).1) tree

lemma Consistent.basicEvents_validateAll (h : tree.Consistent) (options : List Bool) :
    (tree.validateAll options).basicEvents = tree.basicEvents := by
  induction options generalizing tree with
  | nil => rfl
  | cons multiTop options ih =>
    exact (ih (h.validate multiTop).1).trans (h.events_validate multiTop).1

/-! ### The exchange format -/

lemma isEventDefinition_definition (event : BasicEvent) :
    Xml.IsEventDefinition event.name event.definition := by
  unfold BasicEvent.definition
  cases event.probability with
  | none => exact ⟨rfl, rfl, by simp [Xml.children]⟩
  | some probability => exact ⟨rfl, rfl, by simp [Xml.children, Xml.tag]⟩

lemma suppliedWith_eventElements (tree : FaultTree) (probability : Binary64) :
    List.Forall₂ (Xml.SuppliedWith probability (tree.undefinedEvents.map BasicEvent.name))
      tree.eventElements (tree.setUndefinedProbability probability).eventElements := by
  unfold eventElements
  rw [declaredEvents_setUndefinedProbability, undefinedEvents_setUndefinedProbability,
    List.map_append, List.map_append, List.map_map]
  have hundefined : List.Forall₂
      (Xml.SuppliedWith probability (tree.undefinedEvents.map BasicEvent.name))
      (tree.undefinedEvents.map BasicEvent.definition)
      (tree.undefinedEvents.map (BasicEvent.definition ∘ fun event =>
        { event with probability := some probability })) := by
    refine List.forall₂_map_left_iff.mpr (List.forall₂_map_right_iff.mpr ?_)
    refine List.forall₂_same.mpr fun event hevent => ?_
    have hname : event.name ∈ tree.undefinedEvents.map BasicEvent.name := List.mem_map_of_mem hevent
    exact .event hname (isEventDefinition_definition event)
  exact List.rel_append
    (List.rel_append (Xml.forall₂_suppliedWith_same _ _ _) hundefined)
    (Xml.forall₂_suppliedWith_same _ _ _)

lemma suppliedWith_toXml (tree : FaultTree) (probability : Binary64) :
    Xml.SuppliedWith probability (tree.undefinedEvents.map BasicEvent.name) tree.toXml
      (tree.setUndefinedProbability probability).toXml := by
  have hevents := suppliedWith_eventElements tree probability
  have htree : (tree.setUndefinedProbability probability).treeElement = tree.treeElement := by
    unfold treeElement
    rw [gateElement_setUndefinedProbability]
    rfl
  unfold toXml
  rw [htree]
  refine .within _ _ (.cons (.same _) ?_)
  cases hbefore : tree.eventElements with
  | nil =>
    rw [hbefore, List.forall₂_nil_left_iff] at hevents
    rw [hevents]
    exact .nil
  | cons first rest =>
    rw [hbefore] at hevents
    obtain ⟨other, others, -, -, hafter⟩ := List.forall₂_cons_left_iff.mp hevents
    rw [hafter] at hevents ⊢
    exact .cons (.within _ _ hevents) .nil

lemma DerivedFrom.name_notMem_undefinedEvents (h : DerivedFrom document tree) :
    ∀ event ∈ tree.declaredEvents, event.name ∉ tree.undefinedEvents.map BasicEvent.name := by
  induction h with
  | built hbuild =>
    obtain ⟨-, rfl⟩ := build_eq_ok_iff.mp hbuild
    intro event hevent hundefined
    rw [declaredEvents_ofBuild] at hevent
    obtain ⟨assignment, hassignment, rfl⟩ := List.mem_map.mp hevent
    rw [undefinedEvents_ofBuild, List.map_map] at hundefined
    apply (Document.mem_undeclared_names_iff.mp hundefined).1
    simp only [Document.declaredKeys, Document.declaredNames, List.map_append, List.map_map,
      List.mem_append, List.mem_map]
    exact .inl (.inr ⟨assignment, hassignment, rfl⟩)
  | validated h multiTop ih =>
    unfold declaredEvents undefinedEvents at ih ⊢
    rw [(h.consistent.events_validate multiTop).1]
    exact ih
  | supplied h probability ih =>
    rw [declaredEvents_setUndefinedProbability, undefinedEvents_setUndefinedProbability, List.map_map]
    exact ih

/-- Giving the undefined events of a tree a probability changes nothing else, and yields their count.
It may be done before a validation or after it, with the same result and the same tree in the end, and
later validations keep what has been given. In the exchange format the undefined events have the
probability as their only value then, and all else is the same. -/
theorem probability_supplied_apart_from_validations (h : DerivedFrom document tree)
    (probability : Binary64) :
    (∃ events, List.Forall₂ (BasicEvent.Supplied probability) tree.basicEvents events ∧
      tree.setUndefinedProbability probability = { tree with basicEvents := events } ∧
      tree.supplyUndefined probability =
        (tree.setUndefinedProbability probability, tree.undefinedEvents.length)) ∧
    (∀ multiTop, (tree.setUndefinedProbability probability).validate multiTop =
      ((tree.validate multiTop).1.setUndefinedProbability probability,
        (tree.validate multiTop).2)) ∧
    (∀ options, ((tree.setUndefinedProbability probability).validateAll options).basicEvents =
      (tree.setUndefinedProbability probability).basicEvents) ∧
    Xml.SuppliedWith probability (tree.undefinedEvents.map BasicEvent.name) tree.toXml
      (tree.setUndefinedProbability probability).toXml ∧
    ∀ event ∈ tree.declaredEvents, event.name ∉ tree.undefinedEvents.map BasicEvent.name := by
  refine ⟨⟨_, ?_, setUndefinedProbability_eq tree probability, supplyUndefined_eq tree probability⟩,
    h.consistent.validate_setUndefinedProbability probability, ?_,
    suppliedWith_toXml tree probability, h.name_notMem_undefinedEvents⟩
  · apply List.forall₂_map_right_iff.mpr
    exact List.forall₂_same.mpr fun event _ => event.supplied_supplied probability
  · exact (h.consistent.setUndefinedProbability probability).basicEvents_validateAll

/-- The clashing document has two undefined events. That of the circular one keeps its probability
through validations that fail, whether it is given before or between them. -/
theorem sample_probabilities_supplied :
    ∃ probability, probability = Binary64.ofRank false 0x3FE0000000000000 ∧
    (∃ tree, (ofBuild clashingDocument).supplyUndefined probability = (tree, 2) ∧
      tree.undefinedEvents =
        [⟨"Spare", some probability, .undefined, 2⟩, ⟨"tank", some probability, .undefined, 3⟩]) ∧
    ∃ tree, tree = (ofBuild circularDocument).setUndefinedProbability probability ∧
      tree.validate true =
        (((ofBuild circularDocument).validate true).1.setUndefinedProbability probability,
          .error ⟨.faultTree (.cycleWithoutTop ["Left", "Right", "Left"]), "plant.ft", 3⟩) ∧
      (tree.validateAll [true, false]).basicEvents = [⟨"Pump", some probability, .undefined, 2⟩] := by
  have hbuild : build clashingDocument = .ok (ofBuild clashingDocument) :=
    build_of_distinctMarks (by decide +kernel)
  obtain ⟨⟨_, -, -, hcount⟩, -⟩ := probability_supplied_apart_from_validations (.built hbuild)
    (Binary64.ofRank false 0x3FE0000000000000)
  obtain ⟨-, hvalidate, hlater, -⟩ := probability_supplied_apart_from_validations
    (.built build_circularDocument) (Binary64.ofRank false 0x3FE0000000000000)
  have hfault : ((ofBuild circularDocument).validate true).2 =
      .error ⟨.faultTree (.cycleWithoutTop ["Left", "Right", "Left"]), "plant.ft", 3⟩ :=
    validate_of_checkGraph checkDeclarations_circularDocument (by decide +kernel)
  refine ⟨_, rfl, ⟨_, hcount.trans (congrArg (Prod.mk _) (by decide +kernel)), by decide +kernel⟩,
    _, rfl, ?_, ?_⟩
  · rw [hvalidate true, hfault]
  · exact (hlater [true, false]).trans (by decide +kernel)

end FaultTree
end FaultTreeExchange
