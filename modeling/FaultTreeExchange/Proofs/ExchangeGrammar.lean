import FaultTreeExchange.Proofs.ExchangeText
import FaultTreeExchange.Proofs.XmlCharacters

/-!
# The grammar of exchange documents

An exchange document defines the gates of one fault tree and then the events. Every gate has one
formula, every reference is followed by its exact spelling to a definition of its own kind, and the
names of all definitions differ, in any letter case. A document of this grammar is written in
characters of XML.
-/

namespace FaultTreeExchange
namespace Xml

/-- A formula: a reference, or an operator with as many formulas in it as it takes. -/
inductive IsFormula (root : Xml) : Xml → Prop where
  | reference (kind name : String) (definition : Xml)
      (hkind : kind = "gate" ∨ kind = "basic-event" ∨ kind = "house-event")
      (hname : Name.isValid name = true)
      (hdefines : root.Defines ("define-" ++ kind) name definition) :
      IsFormula root (.leaf kind [("name", name)])
  | not (child : Xml) (hchild : IsFormula root child) :
      IsFormula root (.node "not" [] [child])
  | connective (tag : String) (children : List Xml) (htag : tag = "and" ∨ tag = "or")
      (hcount : 2 ≤ children.length) (hchildren : ∀ child ∈ children, IsFormula root child) :
      IsFormula root (.node tag [] children)
  | xor (first second : Xml) (hfirst : IsFormula root first) (hsecond : IsFormula root second) :
      IsFormula root (.node "xor" [] [first, second])
  | atLeast (text : String) (minimum : Nat) (children : List Xml)
      (htext : natural? text = some minimum) (hpositive : 1 ≤ minimum)
      (hcount : minimum < children.length) (hchildren : ∀ child ∈ children, IsFormula root child) :
      IsFormula root (.node "atleast" [("min", text)] children)

inductive IsGate (root : Xml) : Xml → Prop where
  | intro (name : String) (formula : Xml) (hname : Name.isValid name = true)
      (hformula : IsFormula root formula) :
      IsGate root (.node "define-gate" [("name", name)] [formula])

/-- The definition of an event: a basic event with or without a probability, or a house event. -/
inductive IsEvent : Xml → Prop where
  | basic (name : String) (hname : Name.isValid name = true) :
      IsEvent (.leaf "define-basic-event" [("name", name)])
  | float (name text : String) (value : Binary64) (hname : Name.isValid name = true)
      (htext : Binary64.ofText? text = some value) (hvalue : value.isProbability = true) :
      IsEvent (.node "define-basic-event" [("name", name)] [.leaf "float" [("value", text)]])
  | house (name text : String) (hname : Name.isValid name = true)
      (htext : text = "true" ∨ text = "false") :
      IsEvent (.node "define-house-event" [("name", name)] [.leaf "constant" [("value", text)]])

def definedNames (root : Xml) : List String :=
  root.definitions.filterMap fun definition => definition.attribute? "name"

/-- An exchange document: the gates of one fault tree, then the events, each under a name of its
own. -/
structure Conforms (root : Xml) : Prop where
  shape : ∃ name gates events, root = .node "opsa-mef" []
      [.node "define-fault-tree" [("name", name)] gates, .node "model-data" [] events] ∧
    Name.isValid name = true ∧ (∀ gate ∈ gates, IsGate root gate) ∧ ∀ event ∈ events, IsEvent event
  distinct : (root.definedNames.map Name.key).Nodup

/-- A text of XML characters that reads as the element. -/
structure WellFormed (text : String) (root : Xml) : Prop where
  legal : Legal text.toList
  reads : read text = some root

variable {root : Xml}

/-! ### Characters -/

lemma legalAttributes_nil : LegalAttributes [] :=
  fun _ hentry => absurd hentry List.not_mem_nil

lemma legalAttributes_singleton {key value : String} (hkey : Legal key.toList)
    (hvalue : Legal value.toList) : LegalAttributes [(key, value)] := by
  intro entry hentry
  rw [List.mem_singleton.mp hentry]
  exact ⟨hkey, hvalue⟩

lemma legalAttributes_name {name : String} (h : Name.isValid name = true) :
    LegalAttributes [("name", name)] :=
  legalAttributes_singleton (by decide) (legal_of_isValid h)

lemma legal_of_natural? {text : String} {n : Nat} (h : natural? text = some n) :
    Legal text.toList := by
  unfold natural? at h
  split_ifs at h with hdigits
  exact fun c hc => isXmlChar_of_isDigit (List.all_eq_true.mp hdigits.2 c hc)

lemma IsFormula.legal {formula : Xml} (h : IsFormula root formula) :
    formula.EveryTag LegalTag := by
  induction h with
  | reference kind name definition hkind hname _ =>
    refine legal_leaf ?_ (legalAttributes_name hname)
    rcases hkind with rfl | rfl | rfl <;> decide
  | not child _ ih =>
    refine legal_node (by decide) legalAttributes_nil fun other hother => ?_
    rw [List.mem_singleton.mp hother]
    exact ih
  | connective tag children htag _ _ ih =>
    refine legal_node ?_ legalAttributes_nil ih
    rcases htag with rfl | rfl <;> decide
  | xor first second _ _ hfirst hsecond =>
    refine legal_node (by decide) legalAttributes_nil fun other hother => ?_
    rcases List.mem_pair.mp hother with rfl | rfl
    · exact hfirst
    · exact hsecond
  | atLeast text minimum children htext _ _ _ ih =>
    exact legal_node (by decide)
      (legalAttributes_singleton (by decide) (legal_of_natural? htext)) ih

lemma IsGate.legal {gate : Xml} (h : IsGate root gate) : gate.EveryTag LegalTag := by
  obtain ⟨name, formula, hname, hformula⟩ := h
  refine legal_node (by decide) (legalAttributes_name hname) fun other hother => ?_
  rw [List.mem_singleton.mp hother]
  exact hformula.legal

lemma IsEvent.legal {event : Xml} (h : IsEvent event) : event.EveryTag LegalTag := by
  have hvalue : ∀ tag text : String, Legal tag.toList → Legal text.toList →
      ∀ child ∈ [leaf tag [("value", text)]], child.EveryTag LegalTag := by
    intro tag text htag htext child hchild
    rw [List.mem_singleton.mp hchild]
    exact legal_leaf htag (legalAttributes_singleton (by decide) htext)
  cases h with
  | basic name hname => exact legal_leaf (by decide) (legalAttributes_name hname)
  | float name text value hname htext hprobability =>
    exact legal_node (by decide) (legalAttributes_name hname)
      (hvalue "float" text (by decide) (legal_of_isProbability htext hprobability))
  | house name text hname htext =>
    refine legal_node (by decide) (legalAttributes_name hname)
      (hvalue "constant" text (by decide) ?_)
    rcases htext with rfl | rfl <;> decide

theorem Conforms.legal (h : root.Conforms) : Legal root.render.toList := by
  obtain ⟨name, gates, events, hroot, hname, hgates, hevents⟩ := h.shape
  apply legal_render
  rw [hroot]
  refine legal_node (by decide) legalAttributes_nil fun part hpart => ?_
  rcases List.mem_pair.mp hpart with rfl | rfl
  · exact legal_node (by decide) (legalAttributes_name hname) fun gate hgate =>
      (hgates gate hgate).legal
  · exact legal_node (by decide) legalAttributes_nil fun event hevent =>
      (hevents event hevent).legal

end Xml
end FaultTreeExchange
