import FaultTreeExchange.Proofs.AddedEvent

/-!
# Orphans

A declared event is an orphan when no argument of the tree has it as its target. In the tree of an
accepted source these are the events whose names no formula of the source has, whatever the letter
case, in the order of their declarations.
-/

namespace FaultTreeExchange

/-- The events that the statements declare: those with a probability, then those with a state. -/
def Document.assignedEvents (document : Document) : List Event :=
  (document.probabilities.map fun assignment =>
    .basic ⟨assignment.name, some assignment.value, .declared, assignment.place.line⟩) ++
  document.states.map fun assignment =>
    .house ⟨assignment.name, assignment.value, assignment.place.line⟩

namespace FaultTree

variable {document : Document} {tree : FaultTree} {id : EventId} {event : Event}

lemma isDeclared_of_mem_assignedEvents {entity : BasicEvent}
    (h : .basic entity ∈ document.assignedEvents) : entity.isDeclared = true := by
  obtain ⟨assignment, -, rfl⟩ : ∃ assignment ∈ document.probabilities,
      (⟨assignment.name, some assignment.value, .declared, assignment.place.line⟩ : BasicEvent) =
        entity := by
    simpa [Document.assignedEvents] using h
  rfl

lemma mem_targets_iff :
    id ∈ tree.targets ↔
      ∃ gate ∈ tree.gates, ∃ argument ∈ gate.arguments, argument.target = some id := by
  unfold targets Gate.targets
  simp only [List.mem_flatMap, List.mem_filterMap]

lemma assignedEvents_ofSound (document : Document) :
    (ofSound document).declaredEvents.map .basic ++ (ofSound document).houseEvents.map .house =
      document.assignedEvents := by
  rw [declaredEvents_eq, houseEvents_ofSound, List.map_map, List.map_map]
  rfl

lemma orphans_ofSound_eq_filter (h : document.DistinctDeclarations) :
    (ofSound document).orphans =
      document.assignedEvents.filter fun event => document.leavesOut event.name := by
  rw [orphans_ofSound h, ← assignedEvents_ofSound, List.filter_append, List.filter_map,
    List.filter_map]
  rfl

/-- Validation only changes gates, so that a declared event stands where the builder has put it. -/
lemma event?_ofBuild_of_mem_assignedEvents (hevent : (ofSound document).event? id = some event)
    (hassigned : event ∈ document.assignedEvents) : (ofBuild document).event? id = some event := by
  cases id with
  | gate index =>
    obtain ⟨gate, -, rfl⟩ := Option.map_eq_some_iff.mp hevent
    simp [Document.assignedEvents] at hassigned
  | basic index =>
    rw [← hevent, event?, event?, basicEvents_ofSound]
  | house index =>
    rw [← hevent, event?, event?, houseEvents_ofSound]
    rfl

lemma mem_orphans_ofSound_iff (h : document.DistinctDeclarations)
    (hevent : (ofSound document).event? id = some event)
    (hassigned : event ∈ document.assignedEvents) :
    event ∈ (ofSound document).orphans ↔ id ∉ (ofSound document).targets := by
  have hbuilt := event?_ofBuild_of_mem_assignedEvents hevent hassigned
  rw [orphans_ofSound_eq_filter h, List.mem_filter, mem_targets_ofSound_iff h hbuilt,
    ← Document.leavesOut_eq_false_iff, Bool.not_eq_false]
  exact and_iff_right hassigned

end FaultTree

/-- The orphans of an accepted source are the events that it declares under names which no formula
has. Any other declared event is the target of an argument, and an undefined event is no orphan. -/
theorem translate_orphans_by_name {source file : String} {multiTop : Bool} {tree : FaultTree}
    (h : translate source file multiTop = .ok tree) :
    ∃ document, Document.parse source file = .ok document ∧
      tree.declaredEvents.map .basic ++ tree.houseEvents.map .house = document.assignedEvents ∧
      tree.orphans =
        (document.assignedEvents.filter fun event => document.leavesOut event.name) ∧
      (∀ id event, tree.event? id = some event → event ∈ document.assignedEvents →
        (event ∉ tree.orphans ↔
          ∃ gate ∈ tree.gates, ∃ argument ∈ gate.arguments, argument.target = some id)) ∧
      ∀ event ∈ tree.undefinedEvents, .basic event ∉ tree.orphans := by
  obtain ⟨document, hparse, htree⟩ := translate_eq_ok h
  obtain ⟨hsound, rfl⟩ := FaultTree.ofDocument_eq_ok_iff.mp htree
  have hdistinct := hsound.distinctDeclarations
  have horphans := FaultTree.orphans_ofSound_eq_filter hdistinct
  refine ⟨document, hparse, FaultTree.assignedEvents_ofSound document, horphans, ?_, ?_⟩
  · intro id event hevent hassigned
    rw [FaultTree.mem_orphans_ofSound_iff hdistinct hevent hassigned, not_not,
      FaultTree.mem_targets_iff]
  · intro event hundefined horphan
    rw [horphans] at horphan
    have hdeclared := FaultTree.isDeclared_of_mem_assignedEvents (List.mem_filter.mp horphan).1
    have hnot := (List.mem_filter.mp hundefined).2
    rw [hdeclared] at hnot
    cases hnot

/-- A source that declares a valve and the mains without using them, and uses a spare part without
declaring it. -/
def idleSource : String :=
  "Plant\ns(Mains) = true\nTop := pump & ~Spare\np(Pump) = 0.25\np(Valve) = 0.5"

def idleDocument : Document where
  name := "Plant"
  place := ⟨"plant.ft", 1⟩
  gates := [⟨"Top", ⟨.and, [⟨"pump", false⟩, ⟨"Spare", true⟩]⟩, ⟨"plant.ft", 3⟩⟩]
  probabilities := [⟨"Pump", Binary64.ofRank false 0x3FD0000000000000, ⟨"plant.ft", 4⟩⟩,
    ⟨"Valve", Binary64.ofRank false 0x3FE0000000000000, ⟨"plant.ft", 5⟩⟩]
  states := [⟨"Mains", true, ⟨"plant.ft", 2⟩⟩]

/-- The orphans of the source are the valve and the mains; the pump is the target of an argument that
spells it otherwise. -/
theorem idle_source_orphans :
    ∃ tree, translate idleSource "plant.ft" false = .ok tree ∧
      tree.orphans =
        [.basic ⟨"Valve", some (Binary64.ofRank false 0x3FE0000000000000), .declared, 5⟩,
          .house ⟨"Mains", true, 2⟩] ∧
      ∃ gate ∈ tree.gates, ∃ argument ∈ gate.arguments, argument.target = some (.basic 0) := by
  have hparse : Document.parse idleSource "plant.ft" = .ok idleDocument := by decide +kernel
  have hsound : idleDocument.Sound false := by decide +kernel
  have htranslate := translate_of_sound hparse hsound
  obtain ⟨document, hdocument, -, horphans, htargets, -⟩ := translate_orphans_by_name htranslate
  cases hparse.symm.trans hdocument
  have hlisted : (idleDocument.assignedEvents.filter fun event => idleDocument.leavesOut event.name) =
      [.basic ⟨"Valve", some (Binary64.ofRank false 0x3FE0000000000000), .declared, 5⟩,
        .house ⟨"Mains", true, 2⟩] := by
    decide +kernel
  have hpump : (FaultTree.ofSound idleDocument).event? (.basic 0) = some
      (.basic ⟨"Pump", some (Binary64.ofRank false 0x3FD0000000000000), .declared, 4⟩) := by
    decide +kernel
  refine ⟨_, htranslate, horphans.trans hlisted, (htargets _ _ hpump (by decide +kernel)).mp ?_⟩
  rw [horphans, hlisted]
  decide +kernel

end FaultTreeExchange
