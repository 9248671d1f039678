import FaultTreeExchange.Proofs.Validating
import Mathlib.Algebra.BigOperators.Group.Finset.Basic

/-!
# What the search for cycles reports

The search goes on in rounds, each of which leaves a gate, follows a target or starts from another
gate. It ends after at most two rounds for each gate and one for each target. It finds nothing exactly
in a graph without cycles, and what it reports otherwise names the gates of a simple cycle at the line
of the last one.
-/

namespace FaultTreeExchange
open Relation

namespace GateCycle

/-! ### Rounds -/

/-- Where a search of the whole graph stands: the gates that it has still to start from, those that it
has entered, and its path. -/
structure Progress where
  starts : List Nat
  seen : List Nat
  path : List Frame

namespace Progress

/-- One round of a search, which goes on or ends. -/
def next (graph : List (List Nat)) : Progress → Progress ⊕ Option GateCycle
  | ⟨[], _, []⟩ => .inr none
  | ⟨start :: starts, seen, []⟩ =>
    if seen.contains start then .inl ⟨starts, seen, []⟩
    else .inl ⟨starts, start :: seen, [⟨start, targetsOf graph start⟩]⟩
  | ⟨starts, seen, ⟨_, []⟩ :: path⟩ => .inl ⟨starts, seen, path⟩
  | ⟨starts, seen, ⟨gate, target :: pending⟩ :: path⟩ =>
    if ((⟨gate, pending⟩ :: path).map Frame.gate).contains target then
      .inr (some (close (⟨gate, pending⟩ :: path) target))
    else if target < graph.length ∧ seen.contains target = false then
      .inl ⟨starts, target :: seen, ⟨target, targetsOf graph target⟩ :: ⟨gate, pending⟩ :: path⟩
    else .inl ⟨starts, seen, ⟨gate, pending⟩ :: path⟩

/-- What a search ends with, if the given count of rounds is enough for it. -/
def within (graph : List (List Nat)) : Nat → Progress → Option (Option GateCycle)
  | 0, _ => none
  | rounds + 1, progress =>
    match progress.next graph with
    | .inl later => later.within graph rounds
    | .inr outcome => some outcome

/-- A search before its first round. -/
def initial (graph : List (List Nat)) : Progress :=
  ⟨List.range graph.length, [], []⟩

/-- What is found from here on. -/
def outcome (graph : List (List Nat)) (progress : Progress) : Option GateCycle :=
  match search graph progress.seen progress.path >>= progress.starts.foldlM (searchFrom graph) with
  | .ok _ => none
  | .error cycle => some cycle

/-- The rounds that gates not entered so far can take. -/
def unseenRounds (graph : List (List Nat)) (seen : List Nat) : Nat :=
  ∑ gate ∈ (Finset.range graph.length).filter (· ∉ seen), ((targetsOf graph gate).length + 1)

/-- A bound for the rounds that are left. -/
def roundsLeft (graph : List (List Nat)) (progress : Progress) : Nat :=
  progress.starts.length + stepsLeft progress.path + unseenRounds graph progress.seen

variable {graph : List (List Nat)} {seen : List Nat} {gate : Nat} {progress later : Progress}

lemma unseenRounds_cons (hgate : gate < graph.length) (hnew : seen.contains gate = false) :
    unseenRounds graph (gate :: seen) + ((targetsOf graph gate).length + 1) =
      unseenRounds graph seen := by
  have hmem : gate ∈ (Finset.range graph.length).filter (· ∉ seen) := by
    simpa [hgate] using hnew
  have herase : (Finset.range graph.length).filter (· ∉ gate :: seen) =
      ((Finset.range graph.length).filter (· ∉ seen)).erase gate := by
    ext other
    simp only [Finset.mem_filter, Finset.mem_erase, List.mem_cons, not_or]
    tauto
  unfold unseenRounds
  rw [herase, Finset.sum_erase_add _ _ hmem]

/-- A round that goes on leaves one round less, and what is found stays the same. -/
lemma next_eq_inl (hstarts : ∀ start ∈ progress.starts, start < graph.length)
    (h : progress.next graph = .inl later) :
    later.roundsLeft graph + 1 = progress.roundsLeft graph ∧
      later.outcome graph = progress.outcome graph ∧
        ∀ start ∈ later.starts, start < graph.length := by
  unfold next at h
  split at h
  · cases h
  · rename_i start starts seen
    have hstart := hstarts start List.mem_cons_self
    have hrest : ∀ other ∈ starts, other < graph.length := fun other hother =>
      hstarts other (List.mem_cons_of_mem _ hother)
    split at h
    · rename_i hold
      cases h
      refine ⟨?_, ?_, hrest⟩
      · simp only [roundsLeft, List.length_cons]
        omega
      · simp only [outcome, search, bind, Except.bind, List.foldlM_cons, searchFrom, if_pos hold]
    · rename_i hnew
      cases h
      have hrounds := unseenRounds_cons hstart (Bool.eq_false_iff.mpr hnew)
      refine ⟨?_, ?_, hrest⟩
      · simp only [roundsLeft, List.length_cons, stepsLeft, List.foldr_cons, List.foldr_nil]
        omega
      · simp only [outcome, search, bind, Except.bind, List.foldlM_cons, searchFrom, if_neg hnew]
  · cases h
    refine ⟨?_, ?_, hstarts⟩
    · simp only [roundsLeft, stepsLeft, List.foldr_cons, List.length_nil]
      omega
    · simp only [outcome, search]
  · rename_i starts seen gate target pending path
    split at h
    · cases h
    · rename_i hold
      split at h
      · rename_i hnew
        cases h
        have hrounds := unseenRounds_cons hnew.1 hnew.2
        refine ⟨?_, ?_, hstarts⟩
        · simp only [roundsLeft, List.length_cons, stepsLeft, List.foldr_cons]
          omega
        · conv_rhs => simp only [outcome, search, if_neg hold, dif_pos hnew]
          rfl
      · rename_i hnew
        cases h
        refine ⟨?_, ?_, hstarts⟩
        · simp only [roundsLeft, List.length_cons, stepsLeft, List.foldr_cons]
          omega
        · conv_rhs => simp only [outcome, search, if_neg hold, dif_neg hnew]
          rfl

lemma next_eq_inr {found : Option GateCycle} (h : progress.next graph = .inr found) :
    progress.outcome graph = found := by
  unfold next at h
  split at h
  · cases h
    simp only [outcome, search]
    rfl
  · split at h <;> cases h
  · cases h
  · split at h
    · rename_i hold
      cases h
      simp only [outcome, search, if_pos hold]
      rfl
    · split at h <;> cases h

/-- As many rounds as are left, and one to end, are enough. -/
theorem within_roundsLeft (hstarts : ∀ start ∈ progress.starts, start < graph.length) :
    progress.within graph (progress.roundsLeft graph + 1) = some (progress.outcome graph) := by
  induction hrounds : progress.roundsLeft graph generalizing progress with
  | zero =>
    unfold within
    cases hnext : progress.next graph with
    | inl later =>
      obtain ⟨hless, -, -⟩ := next_eq_inl hstarts hnext
      omega
    | inr found => rw [← next_eq_inr hnext]
  | succ rounds ih =>
    unfold within
    cases hnext : progress.next graph with
    | inl later =>
      obtain ⟨hless, hsame, hlater⟩ := next_eq_inl hstarts hnext
      rw [← hsame]
      exact ih hlater (by omega)
    | inr found => rw [← next_eq_inr hnext]

lemma sum_length_targetsOf (graph : List (List Nat)) :
    ∑ gate ∈ Finset.range graph.length, (targetsOf graph gate).length = graph.flatten.length := by
  induction graph with
  | nil => rfl
  | cons targets rest ih =>
    have hrest : ∀ gate, targetsOf (targets :: rest) (gate + 1) = targetsOf rest gate := fun _ => rfl
    rw [List.length_cons, Finset.sum_range_succ', List.flatten_cons, List.length_append, ← ih,
      Nat.add_comm]
    simp only [hrest]
    rfl

lemma roundsLeft_initial (graph : List (List Nat)) :
    (initial graph).roundsLeft graph = 2 * graph.length + graph.flatten.length := by
  have hunseen : unseenRounds graph [] = graph.flatten.length + graph.length := by
    unfold unseenRounds
    rw [Finset.filter_true_of_mem fun gate _ => List.not_mem_nil, Finset.sum_add_distrib,
      sum_length_targetsOf, ← Finset.card_eq_sum_ones, Finset.card_range]
  unfold roundsLeft initial
  rw [hunseen, List.length_range]
  simp only [stepsLeft, List.foldr_nil]
  omega

lemma outcome_initial (graph : List (List Nat)) : (initial graph).outcome graph = find? graph := by
  have hstart : search graph [] [] = .ok [] := by rw [search]
  unfold outcome initial
  rw [hstart]
  rfl

end Progress

/-- The search of a whole graph ends after two rounds for each gate, one for each target, and one. -/
theorem within_eq_find? (graph : List (List Nat)) :
    (Progress.initial graph).within graph (2 * graph.length + graph.flatten.length + 1) =
      some (find? graph) := by
  rw [← Progress.roundsLeft_initial, ← Progress.outcome_initial]
  exact Progress.within_roundsLeft fun start hstart => List.mem_range.mp hstart

end GateCycle

/-! ### Reports -/

lemma exists_map_eq_map_some {α β : Type} {image : α → Option β} {items : List α}
    (h : ∀ item ∈ items, ∃ found, image item = some found) :
    ∃ images : List β, items.map image = images.map some := by
  induction items with
  | nil => exact ⟨[], rfl⟩
  | cons item rest ih =>
    rw [List.forall_mem_cons] at h
    obtain ⟨found, hfound⟩ := h.1
    obtain ⟨images, himages⟩ := ih h.2
    exact ⟨found :: images, by rw [List.map_cons, List.map_cons, hfound, himages]⟩

namespace FaultTree

variable {tree : FaultTree}

/-- An argument of the first gate has the second one as its target. -/
def TargetsGate (tree : FaultTree) (first second : Nat) : Prop :=
  ∃ gate, tree.gates[first]? = some gate ∧
    ∃ argument ∈ gate.arguments, argument.target = some (.gate second)

lemma edge_gateGraph (tree : FaultTree) : GateCycle.Edge tree.gateGraph = tree.TargetsGate := by
  funext first second
  rw [eq_iff_iff, edge_gateGraph_iff]
  simp only [mem_gateTargets_iff, TargetsGate]

lemma length_gateGraph (tree : FaultTree) : tree.gateGraph.length = tree.gates.length :=
  List.length_map _

lemma acyclic_gateGraph (tree : FaultTree) :
    GateCycle.Acyclic tree.gateGraph ↔ ∀ index, ¬TransGen tree.TargetsGate index index := by
  unfold GateCycle.Acyclic
  rw [edge_gateGraph]

lemma gateNames_eq {indices : List Nat} {shown : List Gate}
    (h : indices.map (fun index => tree.gates[index]?) = shown.map some) :
    tree.gateNames indices = shown.map Gate.name := by
  calc tree.gateNames indices
    _ = (indices.map fun index => tree.gates[index]?).filterMap (Option.map Gate.name) := by
        rw [List.filterMap_map]
        rfl
    _ = shown.map Gate.name := by
        rw [h, List.filterMap_map]
        exact congrFun List.filterMap_eq_map _

/-- The search for cycles ends, and it finds no cycle exactly when no gate leads back to itself. A
diagnostic names the gates of a cycle, each of which differs from the others and has the next one as a
target, and stands on the line of the last one, which has the first one as a target. -/
theorem checkCycles_reports_real_cycle (tree : FaultTree) :
    (GateCycle.Progress.initial tree.gateGraph).within tree.gateGraph
      (2 * tree.gates.length + (tree.gates.flatMap Gate.gateTargets).length + 1) =
        some (GateCycle.find? tree.gateGraph) ∧
    (tree.checkCycles = .ok () ↔ ∀ index, ¬TransGen tree.TargetsGate index index) ∧
    ∀ diagnostic, tree.checkCycles = .error diagnostic →
      ∃ (cycle : GateCycle) (shown : List Gate) (last : Gate),
        cycle.gates.Nodup ∧ cycle.gates.IsChain tree.TargetsGate ∧
        tree.TargetsGate cycle.last cycle.first ∧
        (cycle.gates ++ [cycle.first]).map (fun index => tree.gates[index]?) = shown.map some ∧
        tree.gates[cycle.last]? = some last ∧
        diagnostic.report = ⟨.faultTree, tree.file, last.line,
          "cycle detected: " ++ " → ".intercalate (shown.map Gate.name)⟩ := by
  refine ⟨?_, ?_, ?_⟩
  · rw [← length_gateGraph, List.flatMap_def]
    exact GateCycle.within_eq_find? tree.gateGraph
  · rw [checkCycles_eq_ok_iff, acyclic_gateGraph]
  · intro diagnostic hcheck
    unfold checkCycles at hcheck
    split at hcheck
    · cases hcheck
    · rename_i cycle hfound
      have hcycle := GateCycle.isCycle_of_find?_eq_some hfound
      have hgate : ∀ index ∈ cycle.gates, ∃ gate, tree.gates[index]? = some gate := by
        intro index hindex
        obtain ⟨target, hedge⟩ := hcycle.exists_edge index hindex
        obtain ⟨gate, hgate, -⟩ := edge_gateGraph_iff.mp hedge
        exact ⟨gate, hgate⟩
      have hback : ∀ index ∈ cycle.gates ++ [cycle.first], ∃ gate, tree.gates[index]? = some gate :=
        List.forall_mem_append.mpr
          ⟨hgate, List.forall_mem_singleton.mpr (hgate cycle.first List.mem_cons_self)⟩
      obtain ⟨shown, hshown⟩ := exists_map_eq_map_some hback
      obtain ⟨last, hlast⟩ := hgate cycle.last cycle.last_mem
      have hsteps := hcycle.steps
      have hcloses := hcycle.closes
      rw [edge_gateGraph] at hsteps hcloses
      cases hcheck
      refine ⟨cycle, shown, last, hcycle.distinct, hsteps, hcloses, hshown, hlast, ?_⟩
      unfold Diagnostic.report gateLine
      rw [gateNames_eq hshown, hlast]
      rfl

/-- A tree with a top gate above two gates that are targets of each other. -/
def circularTree : FaultTree where
  name := "Plant"
  line := 1
  file := "plant.ft"
  gates := [⟨"Top", .and, [⟨"pump", false, some (.basic 0)⟩, ⟨"Left", true, some (.gate 1)⟩], 2⟩,
    ⟨"Left", .or, [⟨"Pump", false, some (.basic 0)⟩, ⟨"right", false, some (.gate 2)⟩], 3⟩,
    ⟨"Right", .null, [⟨"left", false, some (.gate 1)⟩], 4⟩]
  basicEvents := [⟨"pump", none, .undefined, 2⟩]
  houseEvents := []
  names := [("top", .gate 0), ("left", .gate 1), ("right", .gate 2), ("pump", .basic 0)]
  roots := []

/-- The cycle of the two gates is reported on the line of the one that leads back. -/
theorem circularTree_cycle_reported :
    circularTree.checkCycles =
      .error ⟨.faultTree (.cycle ["Left", "Right", "Left"]), "plant.ft", 4⟩ ∧
    ∃ (cycle : GateCycle) (shown : List Gate) (last : Gate),
      cycle.gates.Nodup ∧ cycle.gates.IsChain circularTree.TargetsGate ∧
      circularTree.TargetsGate cycle.last cycle.first ∧
      (cycle.gates ++ [cycle.first]).map (fun index => circularTree.gates[index]?) =
        shown.map some ∧
      circularTree.gates[cycle.last]? = some last ∧
      (⟨.faultTree, "plant.ft", 4, "cycle detected: Left → Right → Left"⟩ : Report) =
        ⟨.faultTree, "plant.ft", last.line,
          "cycle detected: " ++ " → ".intercalate (shown.map Gate.name)⟩ := by
  have hcheck : circularTree.checkCycles =
      .error ⟨.faultTree (.cycle ["Left", "Right", "Left"]), "plant.ft", 4⟩ := by
    decide +kernel
  obtain ⟨-, -, hreports⟩ := checkCycles_reports_real_cycle circularTree
  exact ⟨hcheck, hreports _ hcheck⟩

end FaultTree
end FaultTreeExchange
