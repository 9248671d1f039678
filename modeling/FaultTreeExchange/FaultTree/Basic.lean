import FaultTreeExchange.Document.Basic
import FaultTreeExchange.Name

/-!
# Fault trees

Gates, basic events and house events stand in three lists and are referred to by their positions.
One table maps the key of every name to the gate or event it belongs to.
-/

namespace FaultTreeExchange

/-- The position of a gate or event among those of its kind. -/
inductive EventId where
  | gate (index : Nat)
  | basic (index : Nat)
  | house (index : Nat)
  deriving DecidableEq, Repr

/-- The position of a gate, if it is one. -/
def EventId.gate? : EventId → Option Nat
  | .gate index => some index
  | _ => none

structure Argument where
  /-- The name as it is written in the formula. -/
  name : String
  complement : Bool
  /-- What the name stands for, once that has been found out. -/
  target : Option EventId
  deriving DecidableEq, Repr

def Argument.display (argument : Argument) : String :=
  Reference.display ⟨argument.name, argument.complement⟩

/-- An event that is composed of others. -/
structure Gate where
  name : String
  operator : Operator
  arguments : List Argument
  line : Nat
  deriving DecidableEq, Repr

/-- The targets of a gate, in the order of its arguments. -/
def Gate.targets (gate : Gate) : List EventId :=
  gate.arguments.filterMap Argument.target

/-- The gates among the targets of a gate. -/
def Gate.gateTargets (gate : Gate) : List Nat :=
  gate.targets.filterMap EventId.gate?

/-- Where a basic event comes from. -/
inductive Origin where
  /-- Its probability is assigned by the document. -/
  | declared
  /-- It occurs in a formula and is declared nowhere. -/
  | undefined
  deriving DecidableEq, Repr

/-- An event with a probability. -/
structure BasicEvent where
  name : String
  probability : Option Binary64
  origin : Origin
  /-- The line of the declaration, or of the first gate that mentions an undefined event. -/
  line : Nat
  deriving DecidableEq, Repr

def BasicEvent.isDeclared (event : BasicEvent) : Bool :=
  event.origin = .declared

/-- An event that is known to happen or not to happen. -/
structure HouseEvent where
  name : String
  state : Bool
  line : Nat
  deriving DecidableEq, Repr

inductive Event where
  | gate (entity : Gate)
  | basic (entity : BasicEvent)
  | house (entity : HouseEvent)
  deriving DecidableEq, Repr

/-- The name of a gate or event, as it is declared. -/
def Event.name : Event → String
  | .gate entity => entity.name
  | .basic entity => entity.name
  | .house entity => entity.name

/-- Keys of names and what they stand for. Of several entries with one key the first one counts. -/
abbrev NameTable := List (String × EventId)

/-- What a name stands for, in any letter case. -/
def NameTable.find? (names : NameTable) (name : String) : Option EventId :=
  names.lookup (Name.key name)

structure FaultTree where
  name : String
  /-- The line of the name of the tree. -/
  line : Nat
  file : String
  gates : List Gate
  basicEvents : List BasicEvent
  houseEvents : List HouseEvent
  names : NameTable
  /-- The positions of the top gates, once they have been found. -/
  roots : List Nat
  deriving DecidableEq, Repr

namespace FaultTree

/-- The gate or event at a position. -/
def event? (tree : FaultTree) : EventId → Option Event
  | .gate index => tree.gates[index]?.map .gate
  | .basic index => tree.basicEvents[index]?.map .basic
  | .house index => tree.houseEvents[index]?.map .house

/-- What a name stands for; a name that stands for nothing becomes an undefined event. -/
def intern (tree : FaultTree) (name : String) (line : Nat) : EventId × FaultTree :=
  match tree.names.find? name with
  | some id => (id, tree)
  | none =>
    let id := EventId.basic tree.basicEvents.length
    (id, { tree with
      basicEvents := tree.basicEvents ++ [⟨name, none, .undefined, line⟩]
      names := tree.names ++ [(Name.key name, id)] })

end FaultTree
end FaultTreeExchange
