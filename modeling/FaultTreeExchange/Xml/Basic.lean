/-!
# XML texts

Elements with attributes and without text. Every tag stands on a line of its own, indented by two
blanks for each element around it. An element is written either as one empty tag or as a start tag
and an end tag, also when it has no children.
-/

namespace FaultTreeExchange

/-- An element. -/
inductive Xml where
  /-- Written as one empty tag. -/
  | leaf (tag : String) (attributes : List (String × String))
  /-- Written as a start tag, the children, and an end tag. -/
  | node (tag : String) (attributes : List (String × String)) (children : List Xml)

/-- A tag of an XML text. -/
inductive Tag where
  | start (name : String) (attributes : List (String × String))
  | finish (name : String)
  | empty (name : String) (attributes : List (String × String))
  deriving DecidableEq, Repr

namespace Xml

/-- A character of an attribute value. Five characters are written as entities. -/
def escape (c : Char) : List Char :=
  if c = '<' then "&lt;".toList
  else if c = '>' then "&gt;".toList
  else if c = '&' then "&amp;".toList
  else if c = '\x27' then "&apos;".toList
  else if c = '"' then "&quot;".toList
  else [c]

/-- An attribute behind the blank before it. -/
def attributeText (entry : String × String) : List Char :=
  ' ' :: entry.1.toList ++ '=' :: '"' :: entry.2.toList.flatMap escape ++ ['"']

end Xml

def Tag.text : Tag → List Char
  | .start name attributes =>
    '<' :: name.toList ++ attributes.flatMap Xml.attributeText ++ ['>']
  | .finish name => '<' :: '/' :: name.toList ++ ['>']
  | .empty name attributes =>
    '<' :: name.toList ++ attributes.flatMap Xml.attributeText ++ ['/', '>']

namespace Xml

mutual

/-- The tags of an element, each with its level. -/
def tags (level : Nat) : Xml → List (Nat × Tag)
  | .leaf tag attributes => [(level, .empty tag attributes)]
  | .node tag attributes children =>
    (level, .start tag attributes) :: childTags (level + 1) children ++ [(level, .finish tag)]

/-- The tags of elements that follow each other. -/
def childTags (level : Nat) : List Xml → List (Nat × Tag)
  | [] => []
  | child :: rest => tags level child ++ childTags level rest

end

def line (entry : Nat × Tag) : List Char :=
  List.replicate (2 * entry.1) ' ' ++ entry.2.text ++ ['\n']

/-- The first line of an XML text. -/
def declaration : List Char :=
  "<?xml version=\"1.0\" encoding=\"UTF-8\"?>\n".toList

/-- The XML text with a given root element. -/
def render (root : Xml) : String :=
  String.ofList (declaration ++ (root.tags 0).flatMap line)

end Xml
end FaultTreeExchange
