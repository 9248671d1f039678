import FaultTreeExchange.Binary64.Shortest
import FaultTreeExchange.FaultTree.Views
import FaultTreeExchange.Xml.Basic

/-!
# The exchange format

A fault tree in the Open-PSA Model Exchange Format: the gates with their formulas, then the events
with their values. References use the names as they are declared, whatever the formulas write.
-/

namespace FaultTreeExchange

/-- The element of an operator; a null gate holds its argument directly. -/
def Operator.tag? : Operator → Option String
  | .null => none
  | .not => some "not"
  | .and => some "and"
  | .or => some "or"
  | .xor => some "xor"
  | .atLeast _ => some "atleast"

def Operator.attributes : Operator → List (String × String)
  | .atLeast minimum => [("min", toString minimum)]
  | _ => []

/-- The element that refers to a gate or event. -/
def Event.reference : Event → Xml
  | .gate entity => .leaf "gate" [("name", entity.name)]
  | .basic entity => .leaf "basic-event" [("name", entity.name)]
  | .house entity => .leaf "house-event" [("name", entity.name)]

/-- The element of a basic event, with its probability if it has one. -/
def BasicEvent.definition (event : BasicEvent) : Xml :=
  match event.probability with
  | some probability =>
    .node "define-basic-event" [("name", event.name)]
      [.leaf "float" [("value", probability.render)]]
  | none => .leaf "define-basic-event" [("name", event.name)]

def HouseEvent.definition (event : HouseEvent) : Xml :=
  .node "define-house-event" [("name", event.name)]
    [.leaf "constant" [("value", if event.state then "true" else "false")]]

namespace FaultTree

/-- The element that refers to what an argument stands for; one without a target refers to an event
of unknown kind. -/
def argumentReference (tree : FaultTree) (argument : Argument) : Xml :=
  match argument.target.bind tree.event? with
  | some event => event.reference
  | none => .leaf "event" [("name", argument.name)]

def argumentElement (tree : FaultTree) (argument : Argument) : Xml :=
  if argument.complement then .node "not" [] [tree.argumentReference argument]
  else tree.argumentReference argument

def formulaElements (tree : FaultTree) (gate : Gate) : List Xml :=
  let arguments := gate.arguments.map tree.argumentElement
  match gate.operator.tag? with
  | some tag => [.node tag gate.operator.attributes arguments]
  | none => arguments

def gateElement (tree : FaultTree) (gate : Gate) : Xml :=
  .node "define-gate" [("name", gate.name)] (tree.formulaElements gate)

def treeElement (tree : FaultTree) : Xml :=
  .node "define-fault-tree" [("name", tree.name)] (tree.gates.map tree.gateElement)

/-- The elements of the events: declared ones, undefined ones, house events. -/
def eventElements (tree : FaultTree) : List Xml :=
  (tree.declaredEvents ++ tree.undefinedEvents).map BasicEvent.definition ++
    tree.houseEvents.map HouseEvent.definition

/-- The root element of a tree. A tree without events has no data. -/
def toXml (tree : FaultTree) : Xml :=
  let data : List Xml :=
    if tree.eventElements.isEmpty then [] else [.node "model-data" [] tree.eventElements]
  .node "opsa-mef" [] (tree.treeElement :: data)

/-- The document of a tree in the exchange format. -/
def exchangeText (tree : FaultTree) : String :=
  tree.toXml.render

end FaultTree
end FaultTreeExchange
