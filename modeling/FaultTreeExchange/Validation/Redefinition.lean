import FaultTreeExchange.FaultTree.Views
import FaultTreeExchange.Fault.Diagnostic

/-!
# Redefinitions

Every name may be declared once, whatever it is declared as. Declarations are looked at in the order
of their lines; the first one whose name has been declared before it is reported.
-/

namespace FaultTreeExchange

structure Declaration where
  line : Nat
  kind : DeclarationKind
  name : String
  deriving DecidableEq, Repr

namespace FaultTree

/-- The declarations of a tree: gates, declared basic events, house events. -/
def declarations (tree : FaultTree) : List Declaration :=
  tree.gates.map (fun gate => ⟨gate.line, .gate, gate.name⟩) ++
    tree.declaredEvents.map (fun event => ⟨event.line, .basicEvent, event.name⟩) ++
    tree.houseEvents.map fun event => ⟨event.line, .houseEvent, event.name⟩

/-- The declarations in the order of their lines; those of one line keep their order. -/
def sortedDeclarations (tree : FaultTree) : List Declaration :=
  tree.declarations.mergeSort fun first second => first.line ≤ second.line

/-- The first declaration whose name has been declared before it, behind the declaration that came
first. The declarations seen so far are listed under the keys of their names. -/
def firstRedefinition (seen : List (String × Declaration)) :
    List Declaration → Option (Declaration × Declaration)
  | [] => none
  | declaration :: rest =>
    let key := Name.key declaration.name
    match seen.lookup key with
    | some first => some (first, declaration)
    | none => firstRedefinition ((key, declaration) :: seen) rest

/-- No name may be declared twice. -/
def checkRedefinitions (tree : FaultTree) : Except Diagnostic Unit :=
  match firstRedefinition [] tree.sortedDeclarations with
  | none => .ok ()
  | some (first, second) =>
    .error ⟨.faultTree (.redefinition second.name first.kind first.line second.kind),
      tree.file, second.line⟩

end FaultTree
end FaultTreeExchange
