import FaultTreeExchange.FaultTree.Basic
import FaultTreeExchange.Fault.Diagnostic

/-!
# Counts of operands

Each operator takes a fixed or a least number of arguments; a vote needs a threshold of at least one
and below the count of its arguments.
-/

namespace FaultTreeExchange

/-- What is wrong with the count of the arguments of a gate. -/
def Gate.arityFault (gate : Gate) : Option TreeFault :=
  let count := gate.arguments.length
  let broken (rule : OperandRule) : TreeFault :=
    .operandCount gate.operator.name gate.name rule count
  match gate.operator with
  | .null | .not => if count = 1 then none else some (broken .exactlyOne)
  | .xor => if count = 2 then none else some (broken .exactlyTwo)
  | .and | .or => if 2 ≤ count then none else some (broken .atLeastTwo)
  | .atLeast minimum =>
    if 1 ≤ minimum ∧ minimum < count then none else some (.threshold gate.name minimum count)

/-- The operands of a gate have to fit its operator. -/
def Gate.checkArity (file : String) (gate : Gate) : Except Diagnostic Unit :=
  match gate.arityFault with
  | none => .ok ()
  | some fault => .error ⟨.faultTree fault, file, gate.line⟩

/-- The operands of every gate have to fit its operator. -/
def FaultTree.checkArity (tree : FaultTree) : Except Diagnostic Unit :=
  tree.gates.forM (Gate.checkArity tree.file)

end FaultTreeExchange
