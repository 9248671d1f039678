import FaultTreeExchange.FaultTree.Exchange
import FaultTreeExchange.Proofs.Digits
import FaultTreeExchange.Proofs.XmlReading
import Mathlib.Data.List.Forall2

/-!
# Exchange texts

Every tree, validated or not, is read back from its exchange text as its root element. The
definitions of that element are those of the gates, the basic events and the house events, each under
the name of what it defines.
-/

namespace FaultTreeExchange

lemma forall₂_iff_eq_map {α β : Type} {R : α → β → Prop} {given : α → β} (items : List α)
    (h : ∀ item ∈ items, ∀ value, R item value ↔ value = given item) (values : List β) :
    List.Forall₂ R items values ↔ values = items.map given := by
  induction items generalizing values with
  | nil => simp
  | cons item rest ih =>
    rw [List.forall_mem_cons] at h
    cases values with
    | nil => simp
    | cons value values =>
      rw [List.forall₂_cons, h.1, ih h.2, List.map_cons, List.cons.injEq]

namespace Xml

def tag : Xml → String
  | .leaf tag _ => tag
  | .node tag _ _ => tag

def attributes : Xml → List (String × String)
  | .leaf _ attributes => attributes
  | .node _ attributes _ => attributes

def attribute? (element : Xml) (name : String) : Option String :=
  element.attributes.lookup name

def children : Xml → List Xml
  | .leaf _ _ => []
  | .node _ _ children => children

/-- The elements in the parts of a root element. -/
def definitions (root : Xml) : List Xml :=
  root.children.flatMap children

/-- The root element has a definition of a given tag and name. -/
def Defines (root : Xml) (tag name : String) (element : Xml) : Prop :=
  element ∈ root.definitions ∧ element.tag = tag ∧ element.attribute? "name" = some name

/-- The whole number that a text of decimal digits stands for. -/
def natural? (text : String) : Option Nat :=
  if text.toList ≠ [] ∧ text.toList.all Text.isDigit then some (Decimal.ofDigits text.toList)
  else none

def operator? (element : Xml) : Option Operator :=
  if element.tag = "not" then some .not
  else if element.tag = "and" then some .and
  else if element.tag = "or" then some .or
  else if element.tag = "xor" then some .xor
  else if element.tag = "atleast" then
    ((element.attribute? "min").bind natural?).map Operator.atLeast
  else none

def constant? (element : Xml) : Option Bool :=
  if element.tag = "constant" then
    match element.attribute? "value" with
    | some "true" => some true
    | some "false" => some false
    | _ => none
  else none

lemma plainAttributes_nil : PlainAttributes [] :=
  ⟨by simp, List.nodup_nil⟩

lemma plainAttributes_singleton {key : String} (value : String) (h : isName key = true) :
    PlainAttributes [(key, value)] :=
  ⟨by simpa using h, List.nodup_singleton key⟩

lemma natural?_toString (n : Nat) : natural? (toString n) = some n := by
  unfold natural?
  rw [Nat.toString_eq_ofList_toDigits, String.toList_ofList,
    if_pos ⟨Nat.toDigits_ne_nil, Decimal.all_isDigit_toDigits n⟩, Decimal.ofDigits_toDigits]

end Xml

lemma Operator.operator?_node {operator : Operator} {tag : String}
    (h : operator.tag? = some tag) (children : List Xml) :
    (Xml.node tag operator.attributes children).operator? = some operator := by
  cases operator with
  | null => cases h
  | not | and | or | xor =>
    cases h
    rfl
  | atLeast minimum =>
    cases h
    have hminimum : (Xml.node "atleast" (attributes (.atLeast minimum)) children).attribute? "min" =
        some (toString minimum) := rfl
    unfold Xml.operator?
    rw [hminimum, Option.bind_some, Xml.natural?_toString]
    rfl

lemma Operator.isName_of_tag? {operator : Operator} {tag : String} (h : operator.tag? = some tag) :
    Xml.isName tag = true := by
  cases operator <;> cases h <;> rfl

lemma Operator.plainAttributes (operator : Operator) : Xml.PlainAttributes operator.attributes := by
  cases operator with
  | atLeast minimum => exact Xml.plainAttributes_singleton _ rfl
  | null | not | and | or | xor => exact Xml.plainAttributes_nil

namespace FaultTree

variable {tree : FaultTree}

/-! ### Reading the text -/

lemma plain_reference (event : Event) : event.reference.Plain := by
  cases event with
  | gate entity | basic entity | house entity =>
    exact Xml.plain_leaf rfl (Xml.plainAttributes_singleton _ rfl)

lemma plain_argumentReference (argument : Argument) : (tree.argumentReference argument).Plain := by
  unfold argumentReference
  split
  · exact plain_reference _
  · exact Xml.plain_leaf rfl (Xml.plainAttributes_singleton _ rfl)

lemma plain_argumentElement (argument : Argument) : (tree.argumentElement argument).Plain := by
  unfold argumentElement
  split
  · refine Xml.plain_node rfl Xml.plainAttributes_nil fun child hchild => ?_
    rw [List.mem_singleton.mp hchild]
    exact plain_argumentReference argument
  · exact plain_argumentReference argument

lemma plain_gateElement (gate : Gate) : (tree.gateElement gate).Plain := by
  refine Xml.plain_node rfl (Xml.plainAttributes_singleton _ rfl) ?_
  have harguments : ∀ child ∈ gate.arguments.map tree.argumentElement, child.Plain := by
    intro child hchild
    obtain ⟨argument, -, rfl⟩ := List.mem_map.mp hchild
    exact plain_argumentElement argument
  unfold formulaElements
  dsimp only
  split
  · rename_i tag htag
    intro child hchild
    rw [List.mem_singleton.mp hchild]
    exact Xml.plain_node (Operator.isName_of_tag? htag) gate.operator.plainAttributes harguments
  · exact harguments

lemma plain_basicDefinition (event : BasicEvent) : event.definition.Plain := by
  unfold BasicEvent.definition
  split
  · refine Xml.plain_node rfl (Xml.plainAttributes_singleton _ rfl) fun child hchild => ?_
    rw [List.mem_singleton.mp hchild]
    exact Xml.plain_leaf rfl (Xml.plainAttributes_singleton _ rfl)
  · exact Xml.plain_leaf rfl (Xml.plainAttributes_singleton _ rfl)

lemma plain_houseDefinition (event : HouseEvent) : event.definition.Plain := by
  refine Xml.plain_node rfl (Xml.plainAttributes_singleton _ rfl) fun child hchild => ?_
  rw [List.mem_singleton.mp hchild]
  exact Xml.plain_leaf rfl (Xml.plainAttributes_singleton _ rfl)

lemma plain_eventElements : ∀ element ∈ tree.eventElements, element.Plain := by
  intro element helement
  unfold eventElements at helement
  rcases List.mem_append.mp helement with hbasic | hhouse
  · obtain ⟨event, -, rfl⟩ := List.mem_map.mp hbasic
    exact plain_basicDefinition event
  · obtain ⟨event, -, rfl⟩ := List.mem_map.mp hhouse
    exact plain_houseDefinition event

lemma plain_toXml (tree : FaultTree) : tree.toXml.Plain := by
  refine Xml.plain_node rfl Xml.plainAttributes_nil fun child hchild => ?_
  rcases List.mem_cons.mp hchild with rfl | hdata
  · refine Xml.plain_node rfl (Xml.plainAttributes_singleton _ rfl) fun element helement => ?_
    obtain ⟨gate, -, rfl⟩ := List.mem_map.mp helement
    exact plain_gateElement gate
  · split at hdata
    · cases hdata
    · rw [List.mem_singleton.mp hdata]
      exact Xml.plain_node rfl Xml.plainAttributes_nil plain_eventElements

theorem read_exchangeText (tree : FaultTree) : Xml.read tree.exchangeText = some tree.toXml :=
  Xml.read_render (plain_toXml tree)

/-! ### Definitions -/

lemma definitions_toXml (tree : FaultTree) :
    tree.toXml.definitions = tree.gates.map tree.gateElement ++ tree.eventElements := by
  unfold toXml Xml.definitions
  cases hevents : tree.eventElements with
  | nil => simp [Xml.children, treeElement]
  | cons first rest => simp [Xml.children, treeElement]

/-- The events are written in another order than they are kept in. -/
lemma basicEvents_perm (tree : FaultTree) :
    (tree.declaredEvents ++ tree.undefinedEvents).Perm tree.basicEvents :=
  List.filter_append_perm BasicEvent.isDeclared tree.basicEvents

lemma mem_declaredEvents_or_undefinedEvents {event : BasicEvent} :
    event ∈ tree.declaredEvents ∨ event ∈ tree.undefinedEvents ↔ event ∈ tree.basicEvents := by
  rw [← List.mem_append, (basicEvents_perm tree).mem_iff]

lemma tag_basicDefinition (event : BasicEvent) : event.definition.tag = "define-basic-event" := by
  unfold BasicEvent.definition
  split <;> rfl

lemma name_basicDefinition (event : BasicEvent) :
    event.definition.attribute? "name" = some event.name := by
  unfold BasicEvent.definition
  split <;> rfl

lemma mem_definitions_iff {element : Xml} :
    element ∈ tree.toXml.definitions ↔
      (∃ gate ∈ tree.gates, element = tree.gateElement gate) ∨
      (∃ event ∈ tree.basicEvents, element = event.definition) ∨
      ∃ event ∈ tree.houseEvents, element = event.definition := by
  rw [definitions_toXml, eventElements]
  simp only [List.mem_append, List.mem_map, mem_declaredEvents_or_undefinedEvents, eq_comm]

theorem defines_gate_iff {name : String} {element : Xml} :
    tree.toXml.Defines "define-gate" name element ↔
      ∃ gate ∈ tree.gates, gate.name = name ∧ element = tree.gateElement gate := by
  unfold Xml.Defines
  rw [mem_definitions_iff]
  constructor
  · rintro ⟨⟨gate, hgate, rfl⟩ | ⟨event, -, rfl⟩ | ⟨event, -, rfl⟩, htag, hname⟩
    · exact ⟨gate, hgate, Option.some.inj hname, rfl⟩
    · rw [tag_basicDefinition] at htag
      simp at htag
    · simp [HouseEvent.definition, Xml.tag] at htag
  · rintro ⟨gate, hgate, rfl, rfl⟩
    exact ⟨Or.inl ⟨gate, hgate, rfl⟩, rfl, rfl⟩

theorem defines_basic_iff {name : String} {element : Xml} :
    tree.toXml.Defines "define-basic-event" name element ↔
      ∃ event ∈ tree.basicEvents, event.name = name ∧ element = event.definition := by
  unfold Xml.Defines
  rw [mem_definitions_iff]
  constructor
  · rintro ⟨⟨gate, -, rfl⟩ | ⟨event, hevent, rfl⟩ | ⟨event, -, rfl⟩, htag, hname⟩
    · simp [gateElement, Xml.tag] at htag
    · rw [name_basicDefinition] at hname
      exact ⟨event, hevent, Option.some.inj hname, rfl⟩
    · simp [HouseEvent.definition, Xml.tag] at htag
  · rintro ⟨event, hevent, rfl, rfl⟩
    exact ⟨Or.inr (Or.inl ⟨event, hevent, rfl⟩), tag_basicDefinition event,
      name_basicDefinition event⟩

theorem defines_house_iff {name : String} {element : Xml} :
    tree.toXml.Defines "define-house-event" name element ↔
      ∃ event ∈ tree.houseEvents, event.name = name ∧ element = event.definition := by
  unfold Xml.Defines
  rw [mem_definitions_iff]
  constructor
  · rintro ⟨⟨gate, -, rfl⟩ | ⟨event, -, rfl⟩ | ⟨event, hevent, rfl⟩, htag, hname⟩
    · simp [gateElement, Xml.tag] at htag
    · rw [tag_basicDefinition] at htag
      simp at htag
    · exact ⟨event, hevent, Option.some.inj hname, rfl⟩
  · rintro ⟨event, hevent, rfl, rfl⟩
    exact ⟨Or.inr (Or.inr ⟨event, hevent, rfl⟩), rfl, rfl⟩

end FaultTree
end FaultTreeExchange
