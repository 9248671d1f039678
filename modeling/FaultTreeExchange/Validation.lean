import FaultTreeExchange.Validation.Arity
import FaultTreeExchange.Validation.NameFormat
import FaultTreeExchange.Validation.Redefinition
import FaultTreeExchange.Validation.Resolution
import FaultTreeExchange.Validation.TopEvent

/-!
# Validation

The checks of a tree in their order: redefinitions, the format of names, counts of operands, then,
once the arguments have their targets, cycles and top events. The first check that fails ends the
validation. The targets that have been found stay in the tree then, and so do the top gates of an
earlier validation.
-/

namespace FaultTreeExchange.FaultTree

/-- The checks that need no targets. -/
def checkDeclarations (tree : FaultTree) : Except Diagnostic Unit := do
  tree.checkRedefinitions
  tree.checkNameFormat
  tree.checkArity

/-- The checks that need the targets of the arguments. Their result is the top gates. -/
def checkGraph (tree : FaultTree) (multiTop : Bool) : Except Diagnostic (List Nat) :=
  match tree.checkCycles with
  | .error diagnostic => .error (tree.noteMissingTop diagnostic)
  | .ok _ => tree.findRoots multiTop

/-- The tree after its validation, and whether this has found a fault. -/
def validate (tree : FaultTree) (multiTop : Bool) : FaultTree × Except Diagnostic Unit :=
  match tree.checkDeclarations with
  | .error diagnostic => (tree, .error diagnostic)
  | .ok _ =>
    let tree := tree.resolve
    match tree.checkGraph multiTop with
    | .error diagnostic => (tree, .error diagnostic)
    | .ok roots => ({ tree with roots }, .ok ())

end FaultTreeExchange.FaultTree
