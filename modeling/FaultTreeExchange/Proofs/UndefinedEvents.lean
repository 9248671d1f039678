import FaultTreeExchange.Proofs.Rearrangement
import FaultTreeExchange.Proofs.ValidationEffects

/-!
# Undefined events

A name that a formula mentions and no statement declares becomes an undefined event. The undefined
events stand behind the declared ones, in the order in which the formulas mention them first, and no
validation makes any more of them.
-/

namespace FaultTreeExchange

namespace Document

/-- The references in the order of reading, each with the gate in whose formula it stands. -/
def occurrences (document : Document) : List (GateDefinition × Reference) :=
  document.gates.flatMap fun definition =>
    definition.formula.arguments.map fun reference => (definition, reference)

/-- The first occurrences of the names that no statement declares. -/
def introductions (document : Document) : List (GateDefinition × Reference) :=
  firstOccurrences (fun occurrence => Name.key occurrence.2.name) document.declaredKeys
    document.occurrences

end Document

namespace FaultTree

variable {document : Document} {built tree : FaultTree}

lemma undeclared_eq_map_introductions (document : Document) :
    document.undeclared = document.introductions.map fun (definition, reference) =>
      (reference.name, definition.place.line) := by
  have hmentions : mentions document = document.occurrences.map fun (definition, reference) =>
      (reference.name, definition.place.line) := by
    unfold mentions Document.occurrences
    rw [List.map_flatMap]
    simp only [List.map_map]
    rfl
  unfold Document.undeclared Document.introductions
  rw [hmentions, firstMentions_eq, firstOccurrences_map]

lemma basicEvents_ofBuild (document : Document) :
    (ofBuild document).basicEvents =
      (ofBuild document).declaredEvents ++ (ofBuild document).undefinedEvents := by
  rw [declaredEvents_ofBuild, undefinedEvents_ofBuild]
  rfl

lemma Consistent.events_validate (h : tree.Consistent) (multiTop : Bool) :
    (tree.validate multiTop).1.basicEvents = tree.basicEvents ∧
      (tree.validate multiTop).1.houseEvents = tree.houseEvents := by
  rcases validate_cases tree multiTop with
    ⟨_, -, hvalidate⟩ | ⟨_, -, -, hvalidate⟩ | ⟨_, -, -, hvalidate⟩
  · rw [hvalidate]
    exact ⟨rfl, rfl⟩
  · rw [hvalidate, h.agree.resolve_eq]
    exact ⟨rfl, rfl⟩
  · rw [hvalidate, h.agree.resolve_eq]
    exact ⟨rfl, rfl⟩

/-- The undefined events of a built tree stand behind its declared ones. There is one for each name
that a formula mentions and no statement declares, as it is spelled where it occurs first and with the
line of the gate there, in the order of these occurrences. However the tree is treated afterwards, it
keeps its gates and events, and a validation leaves the events as they are. -/
theorem undefinedEvents_are_introductions (h : build document = .ok built) :
    built.basicEvents = built.declaredEvents ++ built.undefinedEvents ∧
    (built.undefinedEvents = document.introductions.map fun (definition, reference) =>
      ⟨reference.name, none, .undefined, definition.place.line⟩) ∧
    (built.undefinedEvents.map fun event => Name.key event.name).Nodup ∧
    (∀ key, key ∈ built.undefinedEvents.map (fun event => Name.key event.name) ↔
      key ∉ document.declaredKeys ∧
        ∃ reference ∈ document.references, Name.key reference.name = key) ∧
    ∀ tree, DerivedFrom document tree → tree.asBuilt = built ∧ ∀ multiTop,
      (tree.validate multiTop).1.gates.map Gate.asBuilt = tree.gates.map Gate.asBuilt ∧
      (tree.validate multiTop).1.basicEvents = tree.basicEvents ∧
      (tree.validate multiTop).1.houseEvents = tree.houseEvents := by
  obtain ⟨-, rfl⟩ := build_eq_ok_iff.mp h
  have hkeys : (ofBuild document).undefinedEvents.map (fun event => Name.key event.name) =
      document.undeclared.map fun mention => Name.key mention.1 := by
    rw [undefinedEvents_ofBuild, List.map_map]
    rfl
  refine ⟨basicEvents_ofBuild document, ?_, ?_, ?_, fun tree hderived =>
    ⟨hderived.asBuilt_eq, fun multiTop => ⟨?_, hderived.consistent.events_validate multiTop⟩⟩⟩
  · rw [undefinedEvents_ofBuild, undeclared_eq_map_introductions, List.map_map]
    rfl
  · rw [hkeys]
    exact nodup_undeclared_keys document
  · intro key
    rw [hkeys]
    exact mem_undeclared_keys_iff
  · exact congrArg FaultTree.gates (hderived.consistent.validate multiTop).2

/-- A document that declares two names twice and mentions two undeclared ones in several spellings. -/
def clashingDocument : Document where
  name := "Plant"
  place := ⟨"plant.ft", 1⟩
  gates := [⟨"Top", ⟨.and, [⟨"Spare", false⟩, ⟨"VALVE", true⟩]⟩, ⟨"plant.ft", 2⟩⟩,
    ⟨"Valve", ⟨.or, [⟨"spare", false⟩, ⟨"tank", false⟩, ⟨"pump", false⟩]⟩, ⟨"plant.ft", 3⟩⟩,
    ⟨"TOP", ⟨.null, [⟨"Tank", true⟩]⟩, ⟨"plant.ft", 4⟩⟩]
  probabilities := [⟨"Pump", Binary64.ofRank false 0x3FD0000000000000, ⟨"plant.ft", 5⟩⟩]
  states := [⟨"PUMP", true, ⟨"plant.ft", 6⟩⟩]

/-- The undefined events of the clashing document, which neither a probability for them nor a
validation multiplies. -/
theorem clashing_undefinedEvents :
    (ofBuild clashingDocument).undefinedEvents =
      [⟨"Spare", none, .undefined, 2⟩, ⟨"tank", none, .undefined, 3⟩] ∧
    ∃ tree, tree = (ofBuild clashingDocument).setUndefinedProbability
        (Binary64.ofRank false 0x3FE0000000000000) ∧
      (tree.validate false).1.basicEvents = tree.basicEvents := by
  have hbuild : build clashingDocument = .ok (ofBuild clashingDocument) :=
    build_of_distinctMarks (by decide +kernel)
  obtain ⟨-, hevents, -, -, hlater⟩ := undefinedEvents_are_introductions hbuild
  refine ⟨hevents.trans (by decide +kernel), _, rfl, ?_⟩
  obtain ⟨-, hkept⟩ := hlater _ (.supplied (.built hbuild) _)
  exact (hkept false).2.1

end FaultTree
end FaultTreeExchange
