import FaultTreeExchange.FaultTree.Exchange
import FaultTreeExchange.Proofs.Consistency

/-!
# What checks and texts depend on

The checks of the declarations look at the outline of a tree: names, lines, operators and counts of
arguments. The checks of the graph and the exchange text look at the targets of the arguments and not
at how the arguments are spelled.
-/

namespace FaultTreeExchange

/-- The gate with nothing left of its arguments but their count. -/
def Gate.outline (gate : Gate) : Gate :=
  { gate with arguments := gate.arguments.map fun _ => ⟨"", false, none⟩ }

def Argument.unspelled (argument : Argument) : Argument :=
  { argument with name := "" }

/-- The gate without the names that its arguments are written with. -/
def Gate.unspelled (gate : Gate) : Gate :=
  { gate with arguments := gate.arguments.map Argument.unspelled }

lemma Gate.checkArity_outline (file : String) (gate : Gate) :
    Gate.checkArity file gate.outline = Gate.checkArity file gate := by
  simp [checkArity, arityFault, outline]

lemma Gate.outline_asBuilt (gate : Gate) : gate.asBuilt.outline = gate.outline := by
  simp [outline, asBuilt, Function.comp_def]

lemma Gate.gateTargets_unspelled (gate : Gate) : gate.unspelled.gateTargets = gate.gateTargets := by
  simp [gateTargets, targets, unspelled, Argument.unspelled, Function.comp_def]

namespace FaultTree

/-- What the checks of the declarations look at. -/
def outline (tree : FaultTree) : FaultTree :=
  { tree with
    gates := tree.gates.map Gate.outline
    basicEvents := tree.basicEvents.map fun event => { event with probability := none }
    names := []
    roots := [] }

def unspelled (tree : FaultTree) : FaultTree :=
  { tree with gates := tree.gates.map Gate.unspelled }

variable {tree other : FaultTree} {multiTop : Bool}

/-! ### Declarations -/

lemma declarations_outline (tree : FaultTree) : tree.outline.declarations = tree.declarations := by
  have hdeclared : tree.outline.declaredEvents =
      tree.declaredEvents.map fun event => { event with probability := none } :=
    List.filter_map
  unfold declarations
  rw [hdeclared]
  simp [outline, Function.comp_def, Gate.outline]

lemma nameUses_outline (tree : FaultTree) : tree.outline.nameUses = tree.nameUses := by
  simp [nameUses, outline, Function.comp_def, Gate.outline]

lemma checkArity_outline (tree : FaultTree) : tree.outline.checkArity = tree.checkArity := by
  unfold checkArity outline
  dsimp only
  induction tree.gates with
  | nil => rfl
  | cons gate rest ih =>
    simp only [List.forM_eq_forM] at ih ⊢
    rw [List.map_cons, List.forM_cons, List.forM_cons, ih, Gate.checkArity_outline]

theorem checkDeclarations_outline (tree : FaultTree) :
    tree.outline.checkDeclarations = tree.checkDeclarations := by
  unfold checkDeclarations checkRedefinitions sortedDeclarations checkNameFormat
  rw [declarations_outline, nameUses_outline, checkArity_outline]
  rfl

/-- Targets, top gates and undefined probabilities do not show in the outline. -/
lemma outline_asBuilt (tree : FaultTree) : tree.asBuilt.outline = tree.outline := by
  have hevent : ∀ event : BasicEvent,
      ({ event.asBuilt with probability := none } : BasicEvent) =
        { event with probability := none } := by
    intro event
    unfold BasicEvent.asBuilt
    split <;> rfl
  simp [outline, asBuilt, Function.comp_def, Gate.outline_asBuilt, hevent]

lemma checkDeclarations_congr (h : tree.asBuilt = other.asBuilt) :
    tree.checkDeclarations = other.checkDeclarations := by
  rw [← checkDeclarations_outline, ← outline_asBuilt, h, outline_asBuilt, checkDeclarations_outline]

/-! ### The graph of gates -/

lemma gateGraph_unspelled (tree : FaultTree) : tree.unspelled.gateGraph = tree.gateGraph := by
  simp [gateGraph, unspelled, Gate.gateTargets_unspelled, Function.comp_def]

lemma gateNames_unspelled (tree : FaultTree) (indices : List Nat) :
    tree.unspelled.gateNames indices = tree.gateNames indices := by
  simp [gateNames, unspelled, Gate.unspelled, Function.comp_def]

lemma gateLine_unspelled (tree : FaultTree) (index : Nat) :
    tree.unspelled.gateLine index = tree.gateLine index := by
  simp [gateLine, unspelled, Gate.unspelled, Function.comp_def]

lemma topCandidates_unspelled (tree : FaultTree) :
    tree.unspelled.topCandidates = tree.topCandidates := by
  simp [topCandidates, unspelled, Gate.gateTargets_unspelled]

theorem checkGraph_unspelled (tree : FaultTree) (multiTop : Bool) :
    tree.unspelled.checkGraph multiTop = tree.checkGraph multiTop := by
  have hgates : tree.unspelled.gates.isEmpty = tree.gates.isEmpty := by
    simp [unspelled]
  unfold checkGraph checkCycles noteMissingTop findRoots
  rw [gateGraph_unspelled, topCandidates_unspelled, hgates]
  simp only [gateNames_unspelled, gateLine_unspelled]
  rfl

/-! ### The exchange text -/

lemma event?_unspelled_reference (tree : FaultTree) (id : EventId) :
    (tree.unspelled.event? id).map Event.reference = (tree.event? id).map Event.reference := by
  cases id with
  | gate index =>
    simp only [event?, unspelled, List.getElem?_map, Option.map_map]
    rfl
  | basic index => rfl
  | house index => rfl

lemma argumentElement_unspelled {argument : Argument} {id : EventId}
    (htarget : argument.target = some id) (hid : tree.Contains id) :
    tree.unspelled.argumentElement argument.unspelled = tree.argumentElement argument := by
  obtain ⟨event, hevent⟩ := Option.isSome_iff_exists.mp (event?_isSome_iff.mpr hid)
  obtain ⟨event', hevent', hreference⟩ : ∃ event', tree.unspelled.event? id = some event' ∧
      event'.reference = event.reference := by
    rw [← Option.map_eq_some_iff, event?_unspelled_reference, hevent]
    rfl
  unfold argumentElement argumentReference Argument.unspelled
  simp [htarget, hevent, hevent', hreference]

lemma exchangeText_unspelled (h : ∀ gate ∈ tree.gates, ∀ argument ∈ gate.arguments,
    ∃ id, argument.target = some id ∧ tree.Contains id) :
    tree.unspelled.exchangeText = tree.exchangeText := by
  have hgate : ∀ gate ∈ tree.gates,
      tree.unspelled.gateElement gate.unspelled = tree.gateElement gate := by
    intro gate hgate
    have harguments : gate.unspelled.arguments.map tree.unspelled.argumentElement =
        gate.arguments.map tree.argumentElement := by
      unfold Gate.unspelled
      rw [List.map_map]
      refine List.map_congr_left fun argument hargument => ?_
      obtain ⟨id, htarget, hid⟩ := h gate hgate argument hargument
      exact argumentElement_unspelled htarget hid
    unfold gateElement formulaElements
    rw [harguments]
    rfl
  have htree : tree.unspelled.treeElement = tree.treeElement := by
    unfold treeElement
    congr 1
    unfold unspelled
    rw [List.map_map]
    exact List.map_congr_left hgate
  unfold exchangeText toXml
  rw [htree]
  rfl

end FaultTree
end FaultTreeExchange
