import FaultTreeExchange.FaultTree.Basic
import FaultTreeExchange.Fault.Diagnostic

/-!
# Cycles of gates

A depth-first search from every gate, following the targets in the order of the arguments, looks for
a gate that is its own descendant. The first such gate that the search meets is reported with the
way back to it. The search ends because it enters each gate at most once.
-/

namespace FaultTreeExchange

/-- A gate on the way from the start of a search, with the targets not yet followed. -/
structure Frame where
  gate : Nat
  pending : List Nat
  deriving DecidableEq, Repr

/-- Gates each of which is a target of the one before it, and the first of the last one. -/
structure GateCycle where
  first : Nat
  others : List Nat
  deriving DecidableEq, Repr

def GateCycle.gates (cycle : GateCycle) : List Nat :=
  cycle.first :: cycle.others

/-- The gate whose target closes the cycle. -/
def GateCycle.last (cycle : GateCycle) : Nat :=
  cycle.others.getLastD cycle.first

namespace GateCycle

/-- The cycle that a gate on a path closes; the path starts at its far end. -/
def close (path : List Frame) (first : Nat) : GateCycle :=
  ⟨first, ((path.map Frame.gate).takeWhile (· ≠ first)).reverse⟩

/-- The targets of a gate. A gate outside the graph has none. -/
def targetsOf (graph : List (List Nat)) (gate : Nat) : List Nat :=
  (graph[gate]?).getD []

/-- The count of gates that a search has not entered. -/
def unseen (graph : List (List Nat)) (seen : List Nat) : Nat :=
  (List.range graph.length).countP fun gate => !seen.contains gate

def targetCount (graph : List (List Nat)) : Nat :=
  graph.foldr (fun targets count => targets.length + count) 0

/-- The count of steps that are left on a path: one for each target to follow, and one to leave each
gate. -/
def stepsLeft (path : List Frame) : Nat :=
  path.foldr (fun frame steps => frame.pending.length + 1 + steps) 0

/-- A bound for the steps that are left to a search. -/
def work (graph : List (List Nat)) (seen : List Nat) (path : List Frame) : Nat :=
  unseen graph seen * (targetCount graph + 1) + stepsLeft path

theorem unseen_cons_lt {graph : List (List Nat)} {seen : List Nat} {gate : Nat}
    (hgate : gate < graph.length) (hnew : seen.contains gate = false) :
    unseen graph (gate :: seen) < unseen graph seen := by
  have hfilter : ((List.range graph.length).filter fun other => !(gate :: seen).contains other) =
      ((List.range graph.length).filter fun other => !seen.contains other).filter (· != gate) := by
    rw [List.filter_filter]
    refine List.filter_congr fun other _ => ?_
    rw [List.contains_cons, Bool.not_or, bne]
  unfold unseen
  rw [List.countP_eq_length_filter, List.countP_eq_length_filter, hfilter,
    List.length_filter_lt_length_iff_exists]
  refine ⟨gate, List.mem_filter.2 ⟨List.mem_range.2 hgate, ?_⟩, ?_⟩
  · rw [hnew, Bool.not_false]
  · simp

theorem length_targetsOf_le (graph : List (List Nat)) (gate : Nat) :
    (targetsOf graph gate).length ≤ targetCount graph := by
  induction graph generalizing gate with
  | nil => simp [targetsOf]
  | cons targets rest ih =>
    cases gate with
    | zero => simp [targetsOf, targetCount]
    | succ gate =>
      have hrest := ih gate
      simp only [targetsOf, List.getElem?_cons_succ, targetCount, List.foldr_cons] at hrest ⊢
      omega

theorem work_enter_lt {graph : List (List Nat)} {seen pending : List Nat} {gate target : Nat}
    {path : List Frame} (hgate : target < graph.length) (hnew : seen.contains target = false) :
    work graph (target :: seen) (⟨target, targetsOf graph target⟩ :: ⟨gate, pending⟩ :: path) <
      work graph seen (⟨gate, target :: pending⟩ :: path) := by
  have hseen : unseen graph (target :: seen) + 1 ≤ unseen graph seen := unseen_cons_lt hgate hnew
  have htargets := length_targetsOf_le graph target
  have hmul := Nat.mul_le_mul_right (targetCount graph + 1) hseen
  rw [Nat.add_mul] at hmul
  simp only [work, stepsLeft, List.foldr_cons, List.length_cons]
  omega

/-- Goes on with a search. The path starts at its far end; the gates that have been entered are
`seen`. The result is the first cycle met, or the gates entered in the end. -/
def search (graph : List (List Nat)) (seen : List Nat) :
    List Frame → Except GateCycle (List Nat)
  | [] => .ok seen
  | ⟨_, []⟩ :: path => search graph seen path
  | ⟨gate, target :: pending⟩ :: path =>
    if ((⟨gate, pending⟩ :: path).map Frame.gate).contains target then
      .error (close (⟨gate, pending⟩ :: path) target)
    else if _ : target < graph.length ∧ seen.contains target = false then
      search graph (target :: seen)
        (⟨target, targetsOf graph target⟩ :: ⟨gate, pending⟩ :: path)
    else search graph seen (⟨gate, pending⟩ :: path)
termination_by path => work graph seen path
decreasing_by
  · simp only [work, stepsLeft, List.foldr_cons]
    omega
  · have hnew : target < graph.length ∧ seen.contains target = false := ‹_›
    exact work_enter_lt hnew.1 hnew.2
  · simp only [work, stepsLeft, List.foldr_cons, List.length_cons]
    omega

/-- Searches from one gate on, unless it has been entered already. -/
def searchFrom (graph : List (List Nat)) (seen : List Nat) (start : Nat) :
    Except GateCycle (List Nat) :=
  if seen.contains start then .ok seen
  else search graph (start :: seen) [⟨start, targetsOf graph start⟩]

/-- The first cycle of a graph of gates, given by the targets of each. -/
def find? (graph : List (List Nat)) : Option GateCycle :=
  match (List.range graph.length).foldlM (searchFrom graph) [] with
  | .ok _ => none
  | .error cycle => some cycle

end GateCycle

namespace FaultTree

/-- The gate targets of every gate. -/
def gateGraph (tree : FaultTree) : List (List Nat) :=
  tree.gates.map Gate.gateTargets

def gateNames (tree : FaultTree) (indices : List Nat) : List String :=
  indices.filterMap fun index => tree.gates[index]?.map Gate.name

def gateLine (tree : FaultTree) (index : Nat) : Nat :=
  (tree.gates[index]?.map Gate.line).getD 0

/-- No gate may be its own descendant. -/
def checkCycles (tree : FaultTree) : Except Diagnostic Unit :=
  match GateCycle.find? tree.gateGraph with
  | none => .ok ()
  | some cycle =>
    .error ⟨.faultTree (.cycle (tree.gateNames (cycle.gates ++ [cycle.first]))),
      tree.file, tree.gateLine cycle.last⟩

end FaultTree
end FaultTreeExchange
