import FaultTreeExchange.Proofs.Building
import FaultTreeExchange.Proofs.Validating

/-!
# Consistent trees

A tree is consistent when its name table agrees with it, its targets have been set for all arguments
or for none, and its top gates, if it has any, are those of its targets. Every operation on a tree
keeps it consistent, and none changes more of what the builder has made than targets, top gates and
the probabilities of undefined events.
-/

namespace FaultTreeExchange

def Argument.asBuilt (argument : Argument) : Argument :=
  { argument with target := none }

def Gate.asBuilt (gate : Gate) : Gate :=
  { gate with arguments := gate.arguments.map Argument.asBuilt }

/-- The event without a probability that no document has given it. -/
def BasicEvent.asBuilt (event : BasicEvent) : BasicEvent :=
  if event.isDeclared then event else { event with probability := none }

lemma Gate.asBuilt_resolved (names : NameTable) (gate : Gate) :
    (gate.resolved names).asBuilt = gate.asBuilt := by
  simp [asBuilt, resolved, Argument.asBuilt, Argument.resolved]

lemma Gate.resolved_resolved (names : NameTable) (gate : Gate) :
    (gate.resolved names).resolved names = gate.resolved names := by
  simp [resolved, Argument.resolved]

lemma GateDefinition.asBuilt_toGate (definition : GateDefinition) :
    definition.toGate.asBuilt = definition.toGate := by
  simp [Gate.asBuilt, toGate, Argument.asBuilt]

/-- The event with a given probability, unless a document declares it. -/
def BasicEvent.supplied (probability : Binary64) (event : BasicEvent) : BasicEvent :=
  if event.isDeclared then event else { event with probability := some probability }

lemma BasicEvent.supplied_of_declared {event : BasicEvent} {probability : Binary64}
    (h : event.isDeclared = true) : event.supplied probability = event :=
  if_pos h

lemma BasicEvent.supplied_of_undefined {event : BasicEvent} {probability : Binary64}
    (h : event.isDeclared = false) :
    event.supplied probability = { event with probability := some probability } :=
  if_neg (by simp [h])

lemma BasicEvent.isDeclared_supplied (event : BasicEvent) (probability : Binary64) :
    (event.supplied probability).isDeclared = event.isDeclared := by
  unfold supplied
  split <;> rfl

lemma BasicEvent.name_supplied (event : BasicEvent) (probability : Binary64) :
    (event.supplied probability).name = event.name := by
  unfold supplied
  split <;> rfl

lemma BasicEvent.asBuilt_supplied (event : BasicEvent) (probability : Binary64) :
    (event.supplied probability).asBuilt = event.asBuilt := by
  unfold asBuilt
  rw [isDeclared_supplied]
  cases hdeclared : event.isDeclared with
  | true => rw [supplied_of_declared hdeclared]
  | false =>
    rw [supplied_of_undefined hdeclared]
    rfl

lemma BasicEvent.name_asBuilt (event : BasicEvent) : event.asBuilt.name = event.name := by
  unfold asBuilt
  split <;> rfl

namespace FaultTree

/-- What the builder has made of a tree. -/
def asBuilt (tree : FaultTree) : FaultTree :=
  { tree with
    gates := tree.gates.map Gate.asBuilt
    basicEvents := tree.basicEvents.map BasicEvent.asBuilt
    roots := [] }

/-- All arguments have the targets that the table gives. -/
def Resolved (tree : FaultTree) : Prop :=
  tree.gates.map (Gate.resolved tree.names) = tree.gates

/-- What holds of a tree at all times. -/
structure Consistent (tree : FaultTree) : Prop where
  agree : tree.NamesAgree
  targets : tree.gates.map Gate.asBuilt = tree.gates ∨ tree.Resolved
  roots : tree.roots = [] ∨ tree.Resolved ∧ tree.roots = tree.topCandidates

variable {tree : FaultTree} {document : Document} {multiTop : Bool}

lemma asBuilt_ofBuild (document : Document) : (ofBuild document).asBuilt = ofBuild document := by
  have hgates : (ofBuild document).gates.map Gate.asBuilt = (ofBuild document).gates := by
    simp [ofBuild, addUndefined, ofDeclarations, GateDefinition.asBuilt_toGate]
  have hevents : (ofBuild document).basicEvents.map BasicEvent.asBuilt =
      (ofBuild document).basicEvents := by
    simp [ofBuild, addUndefined, ofDeclarations, BasicEvent.asBuilt, BasicEvent.isDeclared,
      Function.comp_def]
  unfold asBuilt
  rw [hgates, hevents]
  rfl

lemma consistent_ofBuild (document : Document) : (ofBuild document).Consistent where
  agree := namesAgree_ofBuild document
  targets := Or.inl (congrArg FaultTree.gates (asBuilt_ofBuild document))
  roots := Or.inl rfl

/-! ### Operations -/

lemma event?_asBuilt_name (id : EventId) :
    (tree.asBuilt.event? id).map Event.name = (tree.event? id).map Event.name := by
  cases id with
  | gate index =>
    simp only [event?, asBuilt, List.getElem?_map, Option.map_map]
    rfl
  | basic index =>
    simp only [event?, asBuilt, List.getElem?_map, Option.map_map]
    congr 1
    funext event
    exact event.name_asBuilt
  | house index => rfl

/-- Whether the table agrees with a tree does not depend on targets and undefined probabilities. -/
lemma NamesAgree.of_asBuilt_eq {other : FaultTree} (h : tree.NamesAgree)
    (heq : other.asBuilt = tree.asBuilt) : other.NamesAgree := by
  have hnames : other.asBuilt.names = tree.asBuilt.names := by rw [heq]
  change other.names = tree.names at hnames
  constructor
  · intro key id
    have hname : (other.event? id).map Event.name = (tree.event? id).map Event.name := by
      rw [← event?_asBuilt_name, heq, event?_asBuilt_name]
    have hiff : ∀ tree : FaultTree, (∃ event, tree.event? id = some event ∧
        Name.key event.name = key) ↔ ∃ name ∈ (tree.event? id).map Event.name, Name.key name = key := by
      intro tree
      simp
    rw [hnames, h.entry_iff, hiff tree, hiff other, hname]
  · intro gate hgate argument hargument
    have hgates : other.asBuilt.gates = tree.asBuilt.gates := by rw [heq]
    change other.gates.map Gate.asBuilt = tree.gates.map Gate.asBuilt at hgates
    obtain ⟨gate', hgate', heq'⟩ : ∃ gate' ∈ tree.gates, gate'.asBuilt = gate.asBuilt := by
      rw [← List.mem_map, ← hgates]
      exact List.mem_map_of_mem hgate
    have harguments : gate'.asBuilt.arguments = gate.asBuilt.arguments := by rw [heq']
    change gate'.arguments.map Argument.asBuilt = gate.arguments.map Argument.asBuilt at harguments
    obtain ⟨argument', hargument', hsame⟩ :
        ∃ argument' ∈ gate'.arguments, argument'.asBuilt = argument.asBuilt := by
      rw [← List.mem_map, harguments]
      exact List.mem_map_of_mem hargument
    have hname : argument'.asBuilt.name = argument.asBuilt.name := by rw [hsame]
    change argument'.name = argument.name at hname
    rw [hnames, ← hname]
    exact h.argument_known gate' hgate' argument' hargument'

lemma supplyEvents_eq (probability : Binary64) (updated : Nat) (events : List BasicEvent) :
    supplyEvents probability updated events = (events.map (BasicEvent.supplied probability),
      updated + (events.filter fun event => !event.isDeclared).length) := by
  induction events generalizing updated with
  | nil => rfl
  | cons event rest ih =>
    cases hdeclared : event.isDeclared with
    | true => simp [supplyEvents, hdeclared, ih, BasicEvent.supplied_of_declared]
    | false =>
      simp [supplyEvents, hdeclared, ih, BasicEvent.supplied_of_undefined]
      omega

lemma setUndefinedProbability_eq (tree : FaultTree) (probability : Binary64) :
    tree.setUndefinedProbability probability =
      { tree with basicEvents := tree.basicEvents.map (BasicEvent.supplied probability) } := by
  unfold setUndefinedProbability supplyUndefined
  rw [supplyEvents_eq]

lemma basicEvents_setUndefinedProbability (tree : FaultTree) (probability : Binary64) :
    (tree.setUndefinedProbability probability).basicEvents =
      tree.basicEvents.map (BasicEvent.supplied probability) := by
  rw [setUndefinedProbability_eq]

lemma asBuilt_setUndefinedProbability (probability : Binary64) :
    (tree.setUndefinedProbability probability).asBuilt = tree.asBuilt := by
  rw [setUndefinedProbability_eq]
  unfold asBuilt
  simp [BasicEvent.asBuilt_supplied]

lemma Consistent.setUndefinedProbability (h : tree.Consistent) (probability : Binary64) :
    (tree.setUndefinedProbability probability).Consistent where
  agree := h.agree.of_asBuilt_eq (asBuilt_setUndefinedProbability probability)
  targets := h.targets
  roots := h.roots

lemma Consistent.asBuilt_resolve (h : tree.Consistent) : tree.resolve.asBuilt = tree.asBuilt := by
  rw [h.agree.resolve_eq]
  unfold asBuilt
  simp [Gate.asBuilt_resolved]

lemma Consistent.resolved_resolve (h : tree.Consistent) : tree.resolve.Resolved := by
  rw [h.agree.resolve_eq]
  unfold Resolved
  simp [Gate.resolved_resolved]

lemma Consistent.resolve (h : tree.Consistent) : tree.resolve.Consistent where
  agree := h.agree.of_asBuilt_eq h.asBuilt_resolve
  targets := Or.inr h.resolved_resolve
  roots := by
    rcases h.roots with hnone | ⟨hresolved, hroots⟩
    · rw [h.agree.resolve_eq]
      exact Or.inl hnone
    · have hsame : tree.resolve = tree := by
        rw [h.agree.resolve_eq, hresolved]
      rw [hsame]
      exact Or.inr ⟨hresolved, hroots⟩

lemma Consistent.resolve_roots (h : tree.Consistent) :
    ({ tree.resolve with roots := tree.resolve.topCandidates } : FaultTree).Consistent where
  agree := h.resolve.agree.of_asBuilt_eq rfl
  targets := Or.inr h.resolved_resolve
  roots := Or.inr ⟨h.resolved_resolve, rfl⟩

theorem Consistent.validate (h : tree.Consistent) (multiTop : Bool) :
    (tree.validate multiTop).1.Consistent ∧ (tree.validate multiTop).1.asBuilt = tree.asBuilt := by
  rcases validate_cases tree multiTop with
    ⟨_, -, hvalidate⟩ | ⟨_, -, -, hvalidate⟩ | ⟨roots, -, hgraph, hvalidate⟩
  · rw [hvalidate]
    exact ⟨h, rfl⟩
  · rw [hvalidate]
    exact ⟨h.resolve, h.asBuilt_resolve⟩
  · rw [hvalidate]
    obtain ⟨-, -, -, rfl⟩ := checkGraph_eq_ok_iff.mp hgraph
    exact ⟨h.resolve_roots, h.asBuilt_resolve⟩

end FaultTree
end FaultTreeExchange
