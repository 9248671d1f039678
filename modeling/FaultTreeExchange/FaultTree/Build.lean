import FaultTreeExchange.Fault.Diagnostic
import FaultTreeExchange.FaultTree.Basic

/-!
# From documents to trees

Every declaration of a document becomes a gate or event of the tree, and every name that the
formulas mention and no statement declares becomes an undefined event. A name belongs to its first
declaration: gates come before probabilities, and these before states. No argument has a target yet.
-/

namespace FaultTreeExchange

/-- The gate of a definition, without targets. -/
def GateDefinition.toGate (definition : GateDefinition) : Gate where
  name := definition.name
  operator := definition.formula.operator
  arguments := definition.formula.arguments.map fun reference =>
    ⟨reference.name, reference.complement, none⟩
  line := definition.place.line

/-- The first reference whose key and polarity have occurred before it. -/
def Reference.firstRepeated (seen : List (String × Bool)) : List Reference → Option Reference
  | [] => none
  | reference :: rest =>
    let mark := (Name.key reference.name, reference.complement)
    if seen.contains mark then some reference else firstRepeated (mark :: seen) rest

/-- A formula may name an event once for each polarity. -/
def GateDefinition.checkRepeated (definition : GateDefinition) : Except Diagnostic Unit :=
  match Reference.firstRepeated [] definition.formula.arguments with
  | none => .ok ()
  | some reference =>
    .error ⟨.faultTree (.repeatedArgument reference.display definition.name),
      definition.place.file, definition.place.line⟩

namespace FaultTree

/-- The tree of the declarations of a document, without undefined events. -/
def ofDeclarations (document : Document) : FaultTree where
  name := document.name
  line := document.place.line
  file := document.place.file
  gates := document.gates.map GateDefinition.toGate
  basicEvents := document.probabilities.map fun assignment =>
    ⟨assignment.name, some assignment.value, .declared, assignment.place.line⟩
  houseEvents := document.states.map fun assignment =>
    ⟨assignment.name, assignment.value, assignment.place.line⟩
  names :=
    (document.gates.zipIdx.map fun (definition, index) =>
      (Name.key definition.name, EventId.gate index)) ++
    (document.probabilities.zipIdx.map fun (assignment, index) =>
      (Name.key assignment.name, EventId.basic index)) ++
    (document.states.zipIdx.map fun (assignment, index) =>
      (Name.key assignment.name, EventId.house index))
  roots := []

/-- The names that the formulas of a document mention, each with the line of its gate. -/
def mentions (document : Document) : List (String × Nat) :=
  document.gates.flatMap fun definition =>
    definition.formula.arguments.map fun reference => (reference.name, definition.place.line)

def build (document : Document) : Except Diagnostic FaultTree := do
  document.gates.forM GateDefinition.checkRepeated
  return (mentions document).foldl (fun tree (name, line) => (tree.intern name line).2)
    (ofDeclarations document)

end FaultTree
end FaultTreeExchange
