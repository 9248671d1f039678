import FaultTreeExchange.Proofs.CycleSearch
import FaultTreeExchange.Proofs.NameTable
import FaultTreeExchange.Validation

/-!
# Validation step by step

In a tree whose name table agrees with it, resolving only sets targets. The search for cycles and top
gates accepts exactly the graphs without cycles that have as many top gates as are allowed. These
facts give the three ways in which a validation can end.
-/

namespace FaultTreeExchange
open Relation

/-- The argument with what the table finds under its name as the target. -/
def Argument.resolved (names : NameTable) (argument : Argument) : Argument :=
  { argument with target := names.find? argument.name }

def Gate.resolved (names : NameTable) (gate : Gate) : Gate :=
  { gate with arguments := gate.arguments.map (Argument.resolved names) }

namespace FaultTree

variable {tree : FaultTree} {multiTop : Bool}

/-! ### Targets -/

lemma intern_of_find? {name : String} {id : EventId} (line : Nat)
    (h : tree.names.find? name = some id) : tree.intern name line = (id, tree) := by
  unfold intern
  rw [h]

lemma resolveArguments_eq (line : Nat) (arguments : List Argument)
    (h : ∀ argument ∈ arguments, ∃ id, tree.names.find? argument.name = some id) :
    resolveArguments line tree arguments =
      (arguments.map (Argument.resolved tree.names), tree) := by
  induction arguments with
  | nil => rfl
  | cons argument rest ih =>
    rw [List.forall_mem_cons] at h
    obtain ⟨id, hid⟩ := h.1
    unfold resolveArguments
    rw [intern_of_find? line hid]
    dsimp only
    rw [ih h.2, List.map_cons, Argument.resolved, hid]

lemma resolveGates_eq (gates : List Gate)
    (h : ∀ gate ∈ gates, ∀ argument ∈ gate.arguments,
      ∃ id, tree.names.find? argument.name = some id) :
    resolveGates tree gates = (gates.map (Gate.resolved tree.names), tree) := by
  induction gates with
  | nil => rfl
  | cons gate rest ih =>
    rw [List.forall_mem_cons] at h
    unfold resolveGates
    rw [resolveArguments_eq gate.line gate.arguments h.1]
    dsimp only
    rw [ih h.2]
    rfl

theorem NamesAgree.resolve_eq (h : tree.NamesAgree) :
    tree.resolve = { tree with gates := tree.gates.map (Gate.resolved tree.names) } := by
  unfold resolve
  rw [resolveGates_eq tree.gates h.argument_known]

/-! ### Cycles and top gates -/

lemma mem_gateTargets_iff {gate : Gate} {index : Nat} :
    index ∈ gate.gateTargets ↔ ∃ argument ∈ gate.arguments, argument.target = some (.gate index) := by
  unfold Gate.gateTargets Gate.targets
  simp only [List.mem_filterMap]
  constructor
  · rintro ⟨id, ⟨argument, hargument, htarget⟩, hindex⟩
    cases id with
    | gate index =>
      cases hindex
      exact ⟨argument, hargument, htarget⟩
    | basic index => cases hindex
    | house index => cases hindex
  · rintro ⟨argument, hargument, htarget⟩
    exact ⟨.gate index, ⟨argument, hargument, htarget⟩, rfl⟩

lemma edge_gateGraph_iff {first second : Nat} :
    GateCycle.Edge tree.gateGraph first second ↔
      ∃ gate, tree.gates[first]? = some gate ∧ second ∈ gate.gateTargets := by
  unfold GateCycle.Edge GateCycle.targetsOf gateGraph
  rw [List.getElem?_map]
  cases tree.gates[first]? with
  | none => simp
  | some gate => simp

lemma mem_topCandidates_iff {index : Nat} :
    index ∈ tree.topCandidates ↔
      index < tree.gates.length ∧ ∀ gate ∈ tree.gates, index ∉ gate.gateTargets := by
  simp [topCandidates]

lemma pairwise_topCandidates (tree : FaultTree) : tree.topCandidates.Pairwise (· < ·) :=
  List.Pairwise.filter _ List.pairwise_lt_range

/-- Where no gate leads back to itself, every gate is reached from a top candidate. -/
lemma exists_topCandidate_above (hacyclic : GateCycle.Acyclic tree.gateGraph) {index : Nat}
    (hindex : index < tree.gates.length) :
    ∃ top ∈ tree.topCandidates, ReflTransGen (GateCycle.Edge tree.gateGraph) top index := by
  have hlength : tree.gateGraph.length = tree.gates.length := List.length_map _
  obtain ⟨top, hlt, hnone, hway⟩ := hacyclic.exists_source (hlength ▸ hindex)
  refine ⟨top, mem_topCandidates_iff.mpr ⟨hlength ▸ hlt, fun gate hgate hmem => ?_⟩, hway⟩
  obtain ⟨other, hother⟩ := List.getElem?_of_mem hgate
  exact hnone other (edge_gateGraph_iff.mpr ⟨gate, hother, hmem⟩)

lemma topCandidates_ne_nil (hacyclic : GateCycle.Acyclic tree.gateGraph) (hne : tree.gates ≠ []) :
    tree.topCandidates ≠ [] := by
  obtain ⟨top, htop, -⟩ := exists_topCandidate_above hacyclic (List.length_pos_iff.mpr hne)
  exact List.ne_nil_of_mem htop

lemma findRoots_eq_ok_iff {roots : List Nat} (htop : tree.gates ≠ [] → tree.topCandidates ≠ []) :
    tree.findRoots multiTop = .ok roots ↔
      tree.gates ≠ [] ∧ (multiTop = false → tree.topCandidates.length = 1) ∧
        roots = tree.topCandidates := by
  unfold findRoots
  by_cases hgates : tree.gates = []
  · simp [hgates]
  · have hempty : tree.gates.isEmpty = false := by simpa using hgates
    rw [hempty]
    cases hcandidates : tree.topCandidates with
    | nil => exact absurd hcandidates (htop hgates)
    | cons first rest =>
      cases rest with
      | nil => simp [hgates, eq_comm]
      | cons second rest =>
        cases multiTop with
        | true => simp [hgates, eq_comm]
        | false => simp

lemma checkCycles_eq_ok_iff : tree.checkCycles = .ok () ↔ GateCycle.Acyclic tree.gateGraph := by
  rw [← GateCycle.find?_eq_none_iff, checkCycles]
  cases GateCycle.find? tree.gateGraph <;> simp

theorem checkGraph_eq_ok_iff {roots : List Nat} :
    tree.checkGraph multiTop = .ok roots ↔
      GateCycle.Acyclic tree.gateGraph ∧ tree.gates ≠ [] ∧
        (multiTop = false → tree.topCandidates.length = 1) ∧ roots = tree.topCandidates := by
  unfold checkGraph checkCycles
  rw [← GateCycle.find?_eq_none_iff]
  cases hcycle : GateCycle.find? tree.gateGraph with
  | some cycle => simp
  | none =>
    have hacyclic := GateCycle.find?_eq_none_iff.mp hcycle
    simpa using findRoots_eq_ok_iff (topCandidates_ne_nil hacyclic)

/-! ### The whole validation -/

/-- The ways in which a validation ends: with a fault of the declarations, with a fault of the
graph, or with the top gates. -/
theorem validate_cases (tree : FaultTree) (multiTop : Bool) :
    (∃ diagnostic, tree.checkDeclarations = .error diagnostic ∧
      tree.validate multiTop = (tree, .error diagnostic)) ∨
    (∃ diagnostic, tree.checkDeclarations = .ok () ∧
      tree.resolve.checkGraph multiTop = .error diagnostic ∧
      tree.validate multiTop = (tree.resolve, .error diagnostic)) ∨
    (∃ roots, tree.checkDeclarations = .ok () ∧ tree.resolve.checkGraph multiTop = .ok roots ∧
      tree.validate multiTop = ({ tree.resolve with roots }, .ok ())) := by
  unfold validate
  cases hdeclarations : tree.checkDeclarations with
  | error diagnostic => exact Or.inl ⟨diagnostic, rfl, rfl⟩
  | ok _ =>
    dsimp only
    cases hgraph : tree.resolve.checkGraph multiTop with
    | error diagnostic => exact Or.inr (Or.inl ⟨diagnostic, rfl, rfl, rfl⟩)
    | ok roots => exact Or.inr (Or.inr ⟨roots, rfl, rfl, rfl⟩)

end FaultTree
end FaultTreeExchange
