import FaultTreeExchange.FaultTree.Basic

/-!
# Targets

Each argument of each gate gets what its name stands for as its target.
-/

namespace FaultTreeExchange.FaultTree

/-- The arguments of a gate with their targets, and the tree that holds these. -/
def resolveArguments (line : Nat) (tree : FaultTree) :
    List Argument → List Argument × FaultTree
  | [] => ([], tree)
  | argument :: rest =>
    let (target, tree) := tree.intern argument.name line
    let (arguments, tree) := resolveArguments line tree rest
    ({ argument with target := some target } :: arguments, tree)

/-- The gates with the targets of their arguments, and the tree that holds these. -/
def resolveGates (tree : FaultTree) : List Gate → List Gate × FaultTree
  | [] => ([], tree)
  | gate :: rest =>
    let (arguments, tree) := resolveArguments gate.line tree gate.arguments
    let (gates, tree) := resolveGates tree rest
    ({ gate with arguments } :: gates, tree)

/-- The tree in which every argument has its target. -/
def resolve (tree : FaultTree) : FaultTree :=
  let (gates, tree) := resolveGates tree tree.gates
  { tree with gates }

end FaultTreeExchange.FaultTree
