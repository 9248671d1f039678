import FaultTreeExchange.Validation.Cycle

/-!
# Top events

A gate that no gate has as a target is a top gate. A tree has exactly one unless several are
allowed.
-/

namespace FaultTreeExchange.FaultTree

/-- The positions of the gates that are no gate's target. -/
def topCandidates (tree : FaultTree) : List Nat :=
  let referenced := tree.gates.flatMap Gate.gateTargets
  (List.range tree.gates.length).filter fun index => !referenced.contains index

/-- A cycle in a tree without a top gate is reported as the lack of a top gate. -/
def noteMissingTop (tree : FaultTree) (diagnostic : Diagnostic) : Diagnostic :=
  match diagnostic.fault with
  | .faultTree (.cycle gates) =>
    if tree.topCandidates.isEmpty then
      { diagnostic with fault := .faultTree (.cycleWithoutTop gates) }
    else diagnostic
  | _ => diagnostic

def findRoots (tree : FaultTree) (multiTop : Bool) : Except Diagnostic (List Nat) :=
  if tree.gates.isEmpty then .error ⟨.faultTree .noGates, tree.file, 0⟩
  else
    match tree.topCandidates with
    | [] => .error ⟨.faultTree .noTop, tree.file, 0⟩
    | [root] => .ok [root]
    | first :: second :: rest =>
      if multiTop then .ok (first :: second :: rest)
      else
        .error ⟨.faultTree (.severalTops (tree.gateNames (first :: second :: rest))),
          tree.file, tree.gateLine second⟩

end FaultTreeExchange.FaultTree
