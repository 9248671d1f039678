import FaultTreeExchange.Binary64.Basic
import FaultTreeExchange.Token.Basic

/-!
# Documents

What a source says, statement by statement, with names as they are written. A document need not
describe a sound fault tree.
-/

namespace FaultTreeExchange

inductive Operator where
  /-- The value of a single argument. -/
  | null
  | not
  | and
  | or
  | xor
  /-- True when at least `minimum` arguments are. -/
  | atLeast (minimum : Nat)
  deriving DecidableEq, Repr

def Operator.name : Operator → String
  | .null => "null"
  | .not => "not"
  | .and => "and"
  | .or => "or"
  | .xor => "xor"
  | .atLeast _ => "atleast"

def Connective.operator : Connective → Operator
  | .and => .and
  | .or => .or
  | .xor => .xor

/-- An argument of a formula: a name, possibly with a negation sign before it. -/
structure Reference where
  name : String
  complement : Bool
  deriving DecidableEq, Repr

def Reference.display (reference : Reference) : String :=
  if reference.complement then "~" ++ reference.name else reference.name

/-- An operator and its arguments. -/
structure Formula where
  operator : Operator
  arguments : List Reference
  deriving DecidableEq, Repr

/-- A line of a file. -/
structure Place where
  file : String
  line : Nat
  deriving DecidableEq, Repr

/-- The definition of a gate, `name := formula`. -/
structure GateDefinition where
  name : String
  formula : Formula
  place : Place
  deriving DecidableEq, Repr

/-- The probability of a basic event, `p(name) = value`. -/
structure ProbabilityAssignment where
  name : String
  value : Binary64
  place : Place
  deriving DecidableEq, Repr

/-- The state of a house event, `s(name) = true` or `s(name) = false`. -/
structure StateAssignment where
  name : String
  value : Bool
  place : Place
  deriving DecidableEq, Repr

inductive Statement where
  | gate (definition : GateDefinition)
  | probability (assignment : ProbabilityAssignment)
  | state (assignment : StateAssignment)
  deriving DecidableEq, Repr

/-- The definition that a statement is, if it defines a gate. -/
def Statement.gate? : Statement → Option GateDefinition
  | .gate definition => some definition
  | _ => none

/-- The assignment that a statement is, if it assigns a probability. -/
def Statement.probability? : Statement → Option ProbabilityAssignment
  | .probability assignment => some assignment
  | _ => none

/-- The assignment that a statement is, if it assigns a state. -/
def Statement.state? : Statement → Option StateAssignment
  | .state assignment => some assignment
  | _ => none

/-- The description of one fault tree. -/
structure Document where
  name : String
  place : Place
  gates : List GateDefinition
  probabilities : List ProbabilityAssignment
  states : List StateAssignment
  deriving DecidableEq, Repr

/-- The document of a name and the statements after it, sorted by kind and otherwise in order. -/
def Document.ofStatements (name : String) (place : Place) (statements : List Statement) :
    Document where
  name := name
  place := place
  gates := statements.filterMap Statement.gate?
  probabilities := statements.filterMap Statement.probability?
  states := statements.filterMap Statement.state?

end FaultTreeExchange
