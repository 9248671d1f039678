import FaultTreeExchange.Proofs.SoundTree

/-!
# The meaning of documents and of exchange texts

A truth assignment to the leaf events gives every gate a value, once read off the statements of a
document and once off the elements of an exchange text. In a document names are followed in any
letter case; in an exchange text they are followed as they are spelled, to the definition of their
kind. For an accepted source both evaluations yield exactly one value for every gate, the same one.
-/

namespace FaultTreeExchange

/-- The value of an operator for the values of its operands, if it takes so many of them. -/
def Operator.value? : Operator → List Bool → Option Bool
  | .null, [value] => some value
  | .not, [value] => some !value
  | .xor, [first, second] => some (first ^^ second)
  | .and, values => some (values.all id)
  | .or, values => some (values.any id)
  | .atLeast minimum, values => some (minimum ≤ values.count true)
  | _, _ => none

/-- The value of an argument, given that of its name. -/
def Reference.apply (reference : Reference) (value : Bool) : Bool :=
  if reference.complement then !value else value

/-- The values of the keys of a document: a gate has the value of its formula, a house event its
state, and any other key the value that is assigned to it. -/
inductive Document.Value (document : Document) (assignment : String → Bool) :
    String → Bool → Prop where
  | gate (key : String) (value : Bool) (definition : GateDefinition) (values : List Bool)
      (hdefinition : definition ∈ document.gates) (hkey : Name.key definition.name = key)
      (hvalues : List.Forall₂ (Document.Value document assignment)
        (definition.formula.arguments.map fun reference => Name.key reference.name) values)
      (happly : definition.formula.operator.value?
        (List.zipWith Reference.apply definition.formula.arguments values) = some value) :
      Value document assignment key value
  | house (key : String) (state : StateAssignment)
      (hgate : ∀ definition ∈ document.gates, Name.key definition.name ≠ key)
      (hstate : state ∈ document.states) (hkey : Name.key state.name = key) :
      Value document assignment key state.value
  | leaf (key : String)
      (hgate : ∀ definition ∈ document.gates, Name.key definition.name ≠ key)
      (hstate : ∀ state ∈ document.states, Name.key state.name ≠ key) :
      Value document assignment key (assignment key)

namespace Xml

/-- The values of the elements of formulas: a reference has the value of the definition of its kind
and exact name, and any other element applies its operator. A basic event has the value that is
assigned to the key of its name. -/
inductive Means (root : Xml) (assignment : String → Bool) : Xml → Bool → Prop where
  | gate (element : Xml) (value : Bool) (name : String) (definition formula : Xml)
      (htag : element.tag = "gate") (hname : element.attribute? "name" = some name)
      (hdefines : root.Defines "define-gate" name definition)
      (hformula : definition.children = [formula])
      (hvalue : Means root assignment formula value) :
      Means root assignment element value
  | basic (element : Xml) (name : String) (definition : Xml)
      (htag : element.tag = "basic-event") (hname : element.attribute? "name" = some name)
      (hdefines : root.Defines "define-basic-event" name definition) :
      Means root assignment element (assignment (Name.key name))
  | house (element : Xml) (value : Bool) (name : String) (definition constant : Xml)
      (htag : element.tag = "house-event") (hname : element.attribute? "name" = some name)
      (hdefines : root.Defines "define-house-event" name definition)
      (hconstant : definition.children = [constant]) (hvalue : constant.constant? = some value) :
      Means root assignment element value
  | formula (element : Xml) (value : Bool) (operator : Operator) (values : List Bool)
      (hoperator : element.operator? = some operator)
      (hvalues : List.Forall₂ (Means root assignment) element.children values)
      (happly : operator.value? values = some value) :
      Means root assignment element value

end Xml

variable {document : Document} {assignment : String → Bool} {key name : String} {value multiTop : Bool}

lemma Operator.exists_value? {operator : Operator} {values : List Bool}
    (h : operator.Takes values.length) : ∃ value, operator.value? values = some value := by
  cases operator with
  | null | not =>
    obtain ⟨first, rfl⟩ := List.length_eq_one_iff.mp h
    exact ⟨_, rfl⟩
  | xor =>
    obtain ⟨first, second, rfl⟩ := List.length_eq_two.mp h
    exact ⟨_, rfl⟩
  | and | or | atLeast minimum => exact ⟨_, rfl⟩

namespace Document

/-! ### Values in a document -/

lemma value_gate_iff (h : document.DistinctDeclarations) {definition : GateDefinition}
    (hdefinition : definition ∈ document.gates) {given : Reference → Bool}
    (hgiven : ∀ reference ∈ definition.formula.arguments, ∀ value,
      document.Value assignment (Name.key reference.name) value ↔ value = given reference) :
    document.Value assignment (Name.key definition.name) value ↔
      definition.formula.operator.value? (definition.formula.arguments.map fun reference =>
        reference.apply (given reference)) = some value := by
  have hvalues : ∀ values, List.Forall₂ (document.Value assignment)
      (definition.formula.arguments.map fun reference => Name.key reference.name) values ↔
      values = definition.formula.arguments.map given := by
    intro values
    rw [List.forall₂_map_left_iff]
    exact forall₂_iff_eq_map definition.formula.arguments hgiven values
  have hzip : List.zipWith Reference.apply definition.formula.arguments
      (definition.formula.arguments.map given) =
      definition.formula.arguments.map fun reference => reference.apply (given reference) := by
    rw [List.zipWith_map_right, List.zipWith_self]
  constructor
  · rintro (⟨_, _, other, values, hother, hkey, hforall, happly⟩ | ⟨_, state, hgate, -, -⟩ |
      ⟨_, hgate, -⟩)
    · obtain rfl := eq_of_nodup_keys h.gates hother hdefinition hkey
      rw [(hvalues values).mp hforall, hzip] at happly
      exact happly
    · exact absurd rfl (hgate definition hdefinition)
    · exact absurd rfl (hgate definition hdefinition)
  · intro happly
    rw [← hzip] at happly
    exact .gate _ value definition _ hdefinition rfl ((hvalues _).mpr rfl) happly

lemma value_house_iff (h : document.DistinctDeclarations) {state : StateAssignment}
    (hstate : state ∈ document.states) :
    document.Value assignment (Name.key state.name) value ↔ value = state.value := by
  constructor
  · rintro (⟨_, _, definition, _, hdefinition, hkey, -, -⟩ | ⟨_, other, -, hother, hkey⟩ |
      ⟨_, -, hnone⟩)
    · exact absurd hkey (h.gate_ne_state hdefinition hstate)
    · rw [eq_of_nodup_keys h.states hother hstate hkey]
    · exact absurd rfl (hnone state hstate)
  · rintro rfl
    exact .house _ state (fun definition hdefinition => h.gate_ne_state hdefinition hstate) hstate rfl

lemma value_leaf_iff (hgate : ∀ definition ∈ document.gates, Name.key definition.name ≠ key)
    (hstate : ∀ state ∈ document.states, Name.key state.name ≠ key) :
    document.Value assignment key value ↔ value = assignment key := by
  constructor
  · rintro (⟨_, _, definition, _, hdefinition, hkey, -, -⟩ | ⟨_, state, -, hmem, hkey⟩ | _)
    · exact absurd hkey (hgate definition hdefinition)
    · exact absurd hkey (hstate state hmem)
    · rfl
  · rintro rfl
    exact .leaf key hgate hstate

end Document

namespace Xml

/-! ### Values in an exchange text -/

variable {root element : Xml} {operator : Operator}

lemma operator?_eq_none (h : element.tag = "gate" ∨ element.tag = "basic-event" ∨
    element.tag = "house-event") : element.operator? = none := by
  unfold operator?
  rcases h with h | h | h <;> simp [h]

lemma means_operator_iff {α : Type} (items : List α) (written : α → Xml) (given : α → Bool)
    (hoperator : element.operator? = some operator)
    (hchildren : element.children = items.map written)
    (hgiven : ∀ item ∈ items, ∀ value,
      root.Means assignment (written item) value ↔ value = given item) :
    root.Means assignment element value ↔ operator.value? (items.map given) = some value := by
  have hvalues : ∀ values, List.Forall₂ (root.Means assignment) element.children values ↔
      values = items.map given := by
    intro values
    rw [hchildren, List.forall₂_map_left_iff]
    exact forall₂_iff_eq_map items hgiven values
  have hreference (htag : element.tag = "gate" ∨ element.tag = "basic-event" ∨
      element.tag = "house-event") : False := by
    rw [operator?_eq_none htag] at hoperator
    cases hoperator
  constructor
  · rintro (⟨_, _, _, _, _, htag, -⟩ | ⟨_, _, _, htag, -⟩ | ⟨_, _, _, _, _, htag, -⟩ |
      ⟨_, _, other, values, hother, hforall, happly⟩)
    · exact (hreference (Or.inl htag)).elim
    · exact (hreference (Or.inr (Or.inl htag))).elim
    · exact (hreference (Or.inr (Or.inr htag))).elim
    · rw [hoperator, Option.some.injEq] at hother
      subst hother
      rw [(hvalues values).mp hforall] at happly
      exact happly
  · intro happly
    exact .formula element value operator _ hoperator ((hvalues _).mpr rfl) happly

end Xml

namespace FaultTree

variable {reference : Reference}

lemma means_gate_iff (h : document.DistinctDeclarations) {definition : GateDefinition}
    (hdefinition : definition ∈ document.gates) {formula : Xml}
    (hformula : writtenFormula document definition.formula = [formula]) :
    (ofSound document).toXml.Means assignment (.leaf "gate" [("name", definition.name)]) value ↔
      (ofSound document).toXml.Means assignment formula value := by
  constructor
  · rintro (⟨_, _, name, element, other, -, hname, hdefines, hchildren, hvalue⟩ | ⟨_, _, _, htag, -⟩ |
      ⟨_, _, _, _, _, htag, -⟩ | ⟨_, _, _, _, hoperator, -, -⟩)
    · cases hname
      obtain ⟨found, hfound, hsame, rfl⟩ := defines_gate_ofSound_iff.mp hdefines
      obtain rfl := eq_of_nodup_keys h.gates hfound hdefinition (congrArg Name.key hsame)
      obtain rfl : other = formula := List.singleton_inj.mp (hchildren.symm.trans hformula)
      exact hvalue
    · simp [Xml.tag] at htag
    · simp [Xml.tag] at htag
    · rw [Xml.operator?_eq_none (Or.inl rfl)] at hoperator
      cases hoperator
  · intro hvalue
    exact .gate _ value definition.name _ formula rfl rfl
      (defines_gate_ofSound_iff.mpr ⟨definition, hdefinition, rfl, rfl⟩) hformula hvalue

lemma means_basic_iff {event : BasicEvent} (hevent : event ∈ (ofBuild document).basicEvents) :
    (ofSound document).toXml.Means assignment (.leaf "basic-event" [("name", event.name)]) value ↔
      value = assignment (Name.key event.name) := by
  constructor
  · rintro (⟨_, _, _, _, _, htag, -⟩ | ⟨_, name, _, -, hname, -⟩ | ⟨_, _, _, _, _, htag, -⟩ |
      ⟨_, _, _, _, hoperator, -, -⟩)
    · simp [Xml.tag] at htag
    · cases hname
      rfl
    · simp [Xml.tag] at htag
    · rw [Xml.operator?_eq_none (Or.inr (Or.inl rfl))] at hoperator
      cases hoperator
  · rintro rfl
    rw [← basicEvents_ofSound] at hevent
    exact .basic _ event.name event.definition rfl rfl (defines_basic_iff.mpr ⟨event, hevent, rfl, rfl⟩)

lemma means_house_iff (h : document.DistinctDeclarations) {state : StateAssignment}
    (hstate : state ∈ document.states) :
    (ofSound document).toXml.Means assignment (.leaf "house-event" [("name", state.name)]) value ↔
      value = state.value := by
  have hconstant : (Xml.leaf "constant"
      [("value", if state.value then "true" else "false")]).constant? = some state.value := by
    cases state.value <;> rfl
  constructor
  · rintro (⟨_, _, _, _, _, htag, -⟩ | ⟨_, _, _, htag, -⟩ |
      ⟨_, _, name, element, constant, -, hname, hdefines, hchildren, hvalue⟩ |
      ⟨_, _, _, _, hoperator, -, -⟩)
    · simp [Xml.tag] at htag
    · simp [Xml.tag] at htag
    · cases hname
      obtain ⟨found, hfound, hsame, rfl⟩ := defines_house_ofSound_iff.mp hdefines
      obtain rfl := eq_of_nodup_keys h.states hfound hstate (congrArg Name.key hsame)
      cases hchildren
      rw [hconstant] at hvalue
      exact (Option.some.inj hvalue).symm
    · rw [Xml.operator?_eq_none (Or.inr (Or.inr rfl))] at hoperator
      cases hoperator
  · rintro rfl
    exact .house _ state.value state.name _ _ rfl rfl
      (defines_house_ofSound_iff.mpr ⟨state, hstate, rfl, rfl⟩) rfl hconstant

lemma means_written_iff {given : Bool}
    (hgiven : ∀ value, (ofSound document).toXml.Means assignment
      (referenceElement document reference) value ↔ value = given) :
    (ofSound document).toXml.Means assignment (writtenElement document reference) value ↔
      value = reference.apply given := by
  unfold writtenElement Reference.apply
  cases hcomplement : reference.complement with
  | false => simpa using hgiven value
  | true =>
    have hnot : (ofSound document).toXml.Means assignment
        (.node "not" [] [referenceElement document reference]) value ↔
        Operator.not.value? [given] = some value := by
      refine Xml.means_operator_iff [reference] (referenceElement document) (fun _ => given) rfl rfl
        fun other hother value => ?_
      rw [List.mem_singleton.mp hother]
      exact hgiven value
    simpa [Operator.value?, eq_comm] using hnot

lemma exists_formula {formula : Formula} {given : Reference → Bool}
    (htakes : formula.operator.Takes formula.arguments.length)
    (hgiven : ∀ reference ∈ formula.arguments, ∀ value, (ofSound document).toXml.Means assignment
      (referenceElement document reference) value ↔ value = given reference) :
    ∃ element, writtenFormula document formula = [element] ∧ ∀ value,
      (ofSound document).toXml.Means assignment element value ↔
        formula.operator.value? (formula.arguments.map fun reference =>
          reference.apply (given reference)) = some value := by
  have hwritten : ∀ reference ∈ formula.arguments, ∀ value,
      (ofSound document).toXml.Means assignment (writtenElement document reference) value ↔
        value = reference.apply (given reference) := by
    intro reference hreference value
    exact means_written_iff (hgiven reference hreference)
  obtain ⟨operator, arguments⟩ := formula
  cases hoperator : operator with
  | null =>
    subst hoperator
    obtain ⟨reference, rfl⟩ := List.length_eq_one_iff.mp htakes
    refine ⟨writtenElement document reference, rfl, fun value => ?_⟩
    rw [hwritten reference List.mem_cons_self value]
    simp [Operator.value?, eq_comm]
  | not | and | or | xor | atLeast minimum =>
    subst hoperator
    exact ⟨_, rfl, fun value =>
      Xml.means_operator_iff arguments (writtenElement document)
        (fun reference => reference.apply (given reference)) (Operator.operator?_node rfl _) rfl
        hwritten⟩

/-- The gate has one value in its document, and its formula in the exchange text has the same one. -/
def HasValue (document : Document) (assignment : String → Bool) (definition : GateDefinition) :
    Prop :=
  ∃ formula given, writtenFormula document definition.formula = [formula] ∧
    (∀ value, document.Value assignment (Name.key definition.name) value ↔ value = given) ∧
    ∀ value, (ofSound document).toXml.Means assignment formula value ↔ value = given

lemma exists_reference_value (h : document.DistinctDeclarations) {definition : GateDefinition}
    (hdefinition : definition ∈ document.gates) (hreference : reference ∈ definition.formula.arguments)
    (htargets : ∀ target ∈ document.gates, Name.key target.name = Name.key reference.name →
      HasValue document assignment target) :
    ∃ given, (∀ value, document.Value assignment (Name.key reference.name) value ↔ value = given) ∧
      ∀ value, (ofSound document).toXml.Means assignment (referenceElement document reference) value ↔
        value = given := by
  have hwritten := writtenAs h hdefinition hreference
  generalize referenceElement document reference = element at hwritten ⊢
  cases hwritten with
  | gate target htarget hkey =>
    obtain ⟨formula, given, hformula, hvalue, hmeans⟩ := htargets target htarget hkey
    refine ⟨given, hkey ▸ hvalue, fun value => ?_⟩
    rw [means_gate_iff h htarget hformula]
    exact hmeans value
  | basic event hevent hkey hgate hstate =>
    refine ⟨assignment (Name.key reference.name), fun value => ?_, fun value => ?_⟩
    · exact Document.value_leaf_iff hgate hstate
    · rw [← hkey]
      exact means_basic_iff hevent
  | house state hstate hkey =>
    refine ⟨state.value, fun value => ?_, fun value => ?_⟩
    · rw [← hkey]
      exact Document.value_house_iff h hstate
    · exact means_house_iff h hstate

theorem hasValue (h : document.Sound multiTop) :
    ∀ definition ∈ document.gates, HasValue document assignment definition := by
  have hdistinct := h.distinctDeclarations
  refine gate_induction h fun definition hdefinition ih => ?_
  have hreference : ∀ reference ∈ definition.formula.arguments, ∃ given,
      (∀ value, document.Value assignment (Name.key reference.name) value ↔ value = given) ∧
      ∀ value, (ofSound document).toXml.Means assignment
        (referenceElement document reference) value ↔ value = given := by
    intro reference hmem
    exact exists_reference_value hdistinct hdefinition hmem fun target htarget hkey =>
      ih target htarget reference hmem hkey
  -- From here on the values of the arguments are a function, which the operator is applied to.
  choose! given hgiven using hreference
  obtain ⟨element, hformula, hmeans⟩ := exists_formula (h.fittingOperands definition hdefinition)
    fun reference hmem => (hgiven reference hmem).2
  obtain ⟨result, hresult⟩ : ∃ result, definition.formula.operator.value?
      (definition.formula.arguments.map fun reference => reference.apply (given reference)) =
        some result := by
    apply Operator.exists_value?
    rw [List.length_map]
    exact h.fittingOperands definition hdefinition
  refine ⟨element, result, hformula, fun value => ?_, fun value => ?_⟩
  · rw [Document.value_gate_iff hdistinct hdefinition fun reference hmem =>
      (hgiven reference hmem).1, hresult, Option.some.injEq, eq_comm]
  · rw [hmeans, hresult, Option.some.injEq, eq_comm]

end FaultTree

/-- The exchange text defines every gate of the document once, by one formula. The gate has exactly
one value in the document, the formula has exactly one in the text, and both are the same. -/
def Document.AgreesWith (document : Document) (root : Xml) (assignment : String → Bool) : Prop :=
  ∀ definition ∈ document.gates, ∃ element formula given,
    (∀ other, root.Defines "define-gate" definition.name other ↔ other = element) ∧
    element.children = [formula] ∧
    (∀ value, document.Value assignment (Name.key definition.name) value ↔ value = given) ∧
    ∀ value, root.Means assignment formula value ↔ value = given

/-- The exchange text of an accepted source has the gates of the source, and under every assignment
they have the values that they have in the source. -/
theorem translate_preserves_meaning {source file : String} {multiTop : Bool} {tree : FaultTree}
    (h : translate source file multiTop = .ok tree) (assignment : String → Bool) :
    ∃ document root, Document.parse source file = .ok document ∧
      Xml.read tree.exchangeText = some root ∧
      (∀ name, (∃ element, root.Defines "define-gate" name element) ↔
        ∃ definition ∈ document.gates, definition.name = name) ∧
      document.AgreesWith root assignment := by
  obtain ⟨document, hparse, htree⟩ := translate_eq_ok h
  obtain ⟨hsound, rfl⟩ := FaultTree.ofDocument_eq_ok_iff.mp htree
  have hdistinct := hsound.distinctDeclarations
  refine ⟨document, _, hparse, FaultTree.read_exchangeText _, fun name => ?_, ?_⟩
  · simp only [FaultTree.defines_gate_ofSound_iff]
    constructor
    · rintro ⟨_, definition, hdefinition, hname, -⟩
      exact ⟨definition, hdefinition, hname⟩
    · rintro ⟨definition, hdefinition, hname⟩
      exact ⟨_, definition, hdefinition, hname, rfl⟩
  · intro definition hdefinition
    obtain ⟨formula, given, hformula, hvalue, hmeans⟩ := FaultTree.hasValue hsound definition hdefinition
    refine ⟨FaultTree.writtenGate document definition, formula, given, fun other => ?_, hformula,
      hvalue, hmeans⟩
    rw [FaultTree.defines_gate_ofSound_iff]
    constructor
    · rintro ⟨found, hfound, hname, rfl⟩
      rw [eq_of_nodup_keys hdistinct.gates hfound hdefinition (congrArg Name.key hname)]
    · rintro rfl
      exact ⟨definition, hdefinition, rfl, rfl⟩

/-- The sample under an assignment that makes the pump fail and no other leaf event. -/
theorem sample_keeps_meaning :
    translate sampleSource "plant.ft" false = .ok (FaultTree.ofSound sampleDocument) ∧
    ∃ document root, Document.parse sampleSource "plant.ft" = .ok document ∧
      Xml.read (FaultTree.ofSound sampleDocument).exchangeText = some root ∧
      (∀ name, (∃ element, root.Defines "define-gate" name element) ↔
        ∃ definition ∈ document.gates, definition.name = name) ∧
      document.AgreesWith root (fun key => key = "pump") :=
  ⟨translate_sampleSource, translate_preserves_meaning translate_sampleSource _⟩

end FaultTreeExchange
