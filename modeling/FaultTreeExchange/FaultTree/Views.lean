import FaultTreeExchange.FaultTree.Basic
import FaultTreeExchange.Json

/-!
# Views of a fault tree

What can be asked about a tree in any state: the events of each origin, the meaning of a name, the
top gates, the events that no formula uses, and the counts of all these.
-/

namespace FaultTreeExchange

/-- The counts of a tree and the names of its top gates. -/
structure Summary where
  name : String
  gates : Nat
  /-- The count of declared basic events. -/
  basicEvents : Nat
  houseEvents : Nat
  undefinedEvents : Nat
  roots : List String
  deriving DecidableEq, Repr

/-- The summary as a record whose entries stand in the order of their names. -/
def Summary.json (summary : Summary) : Json :=
  .object [("basic_events", .number summary.basicEvents), ("gates", .number summary.gates),
    ("house_events", .number summary.houseEvents), ("name", .string summary.name),
    ("roots", .array (summary.roots.map .string)),
    ("undefined_events", .number summary.undefinedEvents)]

namespace FaultTree

/-- The basic events that the document declares. -/
def declaredEvents (tree : FaultTree) : List BasicEvent :=
  tree.basicEvents.filter BasicEvent.isDeclared

/-- The basic events that occur in formulas only. -/
def undefinedEvents (tree : FaultTree) : List BasicEvent :=
  tree.basicEvents.filter fun event => !event.isDeclared

/-- The gate or event of a name, in any letter case. -/
def lookup (tree : FaultTree) (name : String) : Option Event :=
  (tree.names.find? name).bind tree.event?

/-- The top gates; there are none before the tree has been validated. -/
def rootGates (tree : FaultTree) : List Gate :=
  tree.roots.filterMap fun index => tree.gates[index]?

/-- The top gate of a tree that has exactly one. -/
def root? (tree : FaultTree) : Option Gate :=
  match tree.roots with
  | [index] => tree.gates[index]?
  | _ => none

/-- What the negated arguments of a gate stand for. -/
def complementedEvents (tree : FaultTree) (gate : Gate) : List Event :=
  (gate.arguments.filter Argument.complement).filterMap fun argument =>
    argument.target.bind tree.event?

def targets (tree : FaultTree) : List EventId :=
  tree.gates.flatMap Gate.targets

/-- The declared events that no argument refers to: basic events, then house events. -/
def orphans (tree : FaultTree) : List Event :=
  let targets := tree.targets
  let basic := tree.basicEvents.zipIdx.filter fun (event, index) =>
    event.isDeclared && !targets.contains (.basic index)
  let house := tree.houseEvents.zipIdx.filter fun (_, index) =>
    !targets.contains (.house index)
  basic.map (fun (event, _) => .basic event) ++ house.map (fun (event, _) => .house event)

/-- Gives the undefined ones of some events a probability, and goes on with the count of those that
have been given it. -/
def supplyEvents (probability : Binary64) (updated : Nat) :
    List BasicEvent → List BasicEvent × Nat
  | [] => ([], updated)
  | event :: rest =>
    if event.isDeclared then
      let (events, updated) := supplyEvents probability updated rest
      (event :: events, updated)
    else
      let (events, updated) := supplyEvents probability (updated + 1) rest
      ({ event with probability := some probability } :: events, updated)

/-- Gives the undefined events a probability, and counts them. -/
def supplyUndefined (tree : FaultTree) (probability : Binary64) : FaultTree × Nat :=
  let (basicEvents, updated) := supplyEvents probability 0 tree.basicEvents
  ({ tree with basicEvents }, updated)

/-- The tree whose undefined events have been given a probability. -/
def setUndefinedProbability (tree : FaultTree) (probability : Binary64) : FaultTree :=
  (tree.supplyUndefined probability).1

def summary (tree : FaultTree) : Summary where
  name := tree.name
  gates := tree.gates.length
  basicEvents := tree.declaredEvents.length
  houseEvents := tree.houseEvents.length
  undefinedEvents := tree.undefinedEvents.length
  roots := tree.rootGates.map Gate.name

end FaultTree
end FaultTreeExchange
