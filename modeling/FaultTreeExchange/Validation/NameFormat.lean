import FaultTreeExchange.FaultTree.Basic
import FaultTreeExchange.Fault.Diagnostic

/-!
# The format of names

The names of the tree, its gates and all its events have to follow the rule for names.
-/

namespace FaultTreeExchange

/-- A name, what it stands for, and its line. -/
structure NameUse where
  role : NameRole
  name : String
  line : Nat
  deriving DecidableEq, Repr

namespace FaultTree

/-- The names of a tree in the order in which they are checked. -/
def nameUses (tree : FaultTree) : List NameUse :=
  ⟨.faultTree, tree.name, tree.line⟩ ::
    (tree.gates.map (fun gate => ⟨.gate, gate.name, gate.line⟩) ++
      tree.basicEvents.map (fun event => ⟨.basicEvent, event.name, event.line⟩) ++
      tree.houseEvents.map fun event => ⟨.houseEvent, event.name, event.line⟩)

def checkNameFormat (tree : FaultTree) : Except Diagnostic Unit :=
  match tree.nameUses.find? fun use => !Name.isValid use.name with
  | none => .ok ()
  | some use =>
    .error ⟨.parsing (.invalidName use.role use.name (Name.flaw use.name)), tree.file, use.line⟩

end FaultTree
end FaultTreeExchange
