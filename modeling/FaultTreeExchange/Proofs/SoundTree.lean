import FaultTreeExchange.Proofs.Acceptance
import FaultTreeExchange.Proofs.ExchangeText

/-!
# Trees of sound documents

In the tree of a sound document the declarations of one kind differ in their names, and each argument
is written as a reference to the one definition that has its name in some letter case.
-/

namespace FaultTreeExchange

/-! ### Declarations with one key -/

lemma eq_of_nodup_keys {α : Type} {key : α → String} {items : List α}
    (h : (items.map key).Nodup) {first second : α} (hfirst : first ∈ items)
    (hsecond : second ∈ items) (hkey : key first = key second) : first = second :=
  List.inj_on_of_nodup_map h hfirst hsecond hkey

namespace Document

variable {document : Document}

lemma DistinctDeclarations.gates (h : document.DistinctDeclarations) :
    (document.gates.map fun definition => Name.key definition.name).Nodup := by
  unfold DistinctDeclarations declaredKeys declaredNames at h
  rw [List.map_append, List.map_append, List.map_map] at h
  exact h.of_append_left.of_append_left

lemma DistinctDeclarations.states (h : document.DistinctDeclarations) :
    (document.states.map fun state => Name.key state.name).Nodup := by
  unfold DistinctDeclarations declaredKeys declaredNames at h
  rw [List.map_append, List.map_map (l := document.states)] at h
  exact h.of_append_right

lemma DistinctDeclarations.gate_ne_state (h : document.DistinctDeclarations)
    {definition : GateDefinition} {state : StateAssignment} (hdefinition : definition ∈ document.gates)
    (hstate : state ∈ document.states) : Name.key definition.name ≠ Name.key state.name := by
  intro hkey
  unfold DistinctDeclarations declaredKeys declaredNames at h
  rw [List.map_append] at h
  refine List.disjoint_of_nodup_append h (a := Name.key definition.name) ?_ ?_
  · exact List.mem_map_of_mem (List.mem_append_left _ (List.mem_map_of_mem hdefinition))
  · rw [hkey]
    exact List.mem_map_of_mem (List.mem_map_of_mem hstate)

end Document

namespace FaultTree

variable {document : Document}

/-! ### The tree -/

lemma gates_ofSound (document : Document) :
    (ofSound document).gates = document.gates.map (resolvedGate document) :=
  gates_resolve_ofBuild document

lemma name_ofSound (document : Document) : (ofSound document).name = document.name := by
  unfold ofSound
  rw [(namesAgree_ofBuild document).resolve_eq]
  rfl

lemma basicEvents_ofSound (document : Document) :
    (ofSound document).basicEvents = (ofBuild document).basicEvents := by
  unfold ofSound
  rw [(namesAgree_ofBuild document).resolve_eq]

lemma houseEvents_ofSound (document : Document) :
    (ofSound document).houseEvents = document.states.map fun state =>
      ⟨state.name, state.value, state.place.line⟩ := by
  unfold ofSound
  rw [(namesAgree_ofBuild document).resolve_eq]
  rfl

/-- What holds of a gate whenever it holds of all the gates that its formula names holds of every
gate, because the gates have no cycle. -/
theorem gate_induction {multiTop : Bool} (h : document.Sound multiTop)
    {property : GateDefinition → Prop}
    (hstep : ∀ definition ∈ document.gates,
      (∀ target ∈ document.gates, ∀ reference ∈ definition.formula.arguments,
        Name.key target.name = Name.key reference.name → property target) → property definition) :
    ∀ definition ∈ document.gates, property definition := by
  have hdistinct := h.distinctDeclarations
  have hacyclic := (acyclic_gateGraph_iff hdistinct).mpr h.acyclic
  have hgrounded : ∀ index, GateCycle.Grounded (ofBuild document).resolve.gateGraph index →
      ∀ definition, document.gates[index]? = some definition → property definition := by
    intro index hgrounded
    -- The graph of the tree is the one that is known to be acyclic, so the induction runs on positions.
    induction hgrounded with
    | intro index _ ih =>
      intro definition hindex
      apply hstep definition (List.mem_of_getElem? hindex)
      intro target htarget reference hreference hkey
      obtain ⟨other, hother⟩ := List.getElem?_of_mem htarget
      have hedge : GateCycle.Edge (ofBuild document).resolve.gateGraph index other :=
        (edge_resolve_ofBuild_iff hdistinct).mpr
          ⟨definition, target, hindex, hother, reference, hreference, hkey.symm⟩
      exact ih other hedge target hother
  intro definition hdefinition
  obtain ⟨index, hindex⟩ := List.getElem?_of_mem hdefinition
  exact hgrounded index (hacyclic.grounded index) definition hindex

/-- How an argument is written: by the declared name of what it refers to. -/
inductive WrittenAs (document : Document) (name : String) : Xml → Prop where
  | gate (definition : GateDefinition) (hdefinition : definition ∈ document.gates)
      (hkey : Name.key definition.name = Name.key name) :
      WrittenAs document name (.leaf "gate" [("name", definition.name)])
  | basic (event : BasicEvent) (hevent : event ∈ (ofBuild document).basicEvents)
      (hkey : Name.key event.name = Name.key name)
      (hgate : ∀ definition ∈ document.gates, Name.key definition.name ≠ Name.key name)
      (hstate : ∀ state ∈ document.states, Name.key state.name ≠ Name.key name) :
      WrittenAs document name (.leaf "basic-event" [("name", event.name)])
  | house (state : StateAssignment) (hstate : state ∈ document.states)
      (hkey : Name.key state.name = Name.key name) :
      WrittenAs document name (.leaf "house-event" [("name", state.name)])

def referenceElement (document : Document) (reference : Reference) : Xml :=
  (ofSound document).argumentReference
    ⟨reference.name, reference.complement, (ofBuild document).names.find? reference.name⟩

lemma event?_ofSound_name {id : EventId} {event : Event}
    (h : (ofBuild document).event? id = some event) :
    ∃ event', (ofSound document).event? id = some event' ∧ event'.reference = event.reference := by
  cases id with
  | gate index =>
    obtain ⟨definition, hindex, rfl⟩ := event?_gate_ofBuild_iff.mp h
    refine ⟨.gate (resolvedGate document definition), ?_, rfl⟩
    simp [event?, gates_ofSound, hindex]
  | basic index =>
    refine ⟨event, ?_, rfl⟩
    rw [← h]
    simp only [event?, basicEvents_ofSound]
  | house index =>
    refine ⟨event, ?_, rfl⟩
    rw [← h]
    simp only [event?, houseEvents_ofSound]
    rfl

theorem writtenAs (h : document.DistinctDeclarations) {definition : GateDefinition}
    (hdefinition : definition ∈ document.gates) {reference : Reference}
    (hreference : reference ∈ definition.formula.arguments) :
    WrittenAs document reference.name (referenceElement document reference) := by
  have hkey : Name.key reference.name ∈ (ofBuild document).names.map Prod.fst :=
    key_mem_ofBuild (mem_mentions hdefinition hreference)
  obtain ⟨id, hid⟩ := NameTable.exists_find?_eq_some_iff.mpr hkey
  obtain ⟨event, hevent, hname⟩ := (find?_ofBuild_iff h).mp hid
  obtain ⟨event', hevent', hwritten⟩ := event?_ofSound_name hevent
  have helement : referenceElement document reference = event.reference := by
    unfold referenceElement argumentReference
    rw [hid, Option.bind_some, hevent', ← hwritten]
  have honly : ∀ other event, (ofBuild document).event? other = some event →
      Name.key event.name = Name.key reference.name → other = id := by
    intro other event hother hsame
    have hfind := (find?_ofBuild_iff h).mpr ⟨event, hother, hsame⟩
    rw [hid] at hfind
    exact (Option.some.inj hfind).symm
  rw [helement]
  cases id with
  | gate index =>
    obtain ⟨target, hindex, rfl⟩ := event?_gate_ofBuild_iff.mp hevent
    exact .gate target (List.mem_of_getElem? hindex) hname
  | basic index =>
    obtain ⟨basic, hbasic, rfl⟩ := Option.map_eq_some_iff.mp hevent
    refine .basic basic (List.mem_of_getElem? hbasic) hname ?_ ?_
    · intro target htarget hsame
      obtain ⟨other, hother⟩ := List.getElem?_of_mem htarget
      have hgate := event?_gate_ofBuild_iff.mpr ⟨target, hother, rfl⟩
      cases honly (.gate other) _ hgate hsame
    · intro state hstate hsame
      obtain ⟨other, hother⟩ := List.getElem?_of_mem hstate
      have hhouse : (ofBuild document).event? (.house other) =
          some (.house ⟨state.name, state.value, state.place.line⟩) := by
        simp [event?, ofBuild, addUndefined, ofDeclarations, hother]
      cases honly (.house other) _ hhouse hsame
  | house index =>
    obtain ⟨house, hhouse, rfl⟩ := Option.map_eq_some_iff.mp hevent
    obtain ⟨state, hstate, rfl⟩ := List.mem_map.mp (List.mem_of_getElem? hhouse)
    exact .house state hstate hname

/-! ### Its elements -/

/-- The element of an argument: the reference, with a negation around it where the argument has one. -/
def writtenElement (document : Document) (reference : Reference) : Xml :=
  if reference.complement then .node "not" [] [referenceElement document reference]
  else referenceElement document reference

def writtenFormula (document : Document) (formula : Formula) : List Xml :=
  match formula.operator.tag? with
  | some tag => [.node tag formula.operator.attributes
      (formula.arguments.map (writtenElement document))]
  | none => formula.arguments.map (writtenElement document)

def writtenGate (document : Document) (definition : GateDefinition) : Xml :=
  .node "define-gate" [("name", definition.name)] (writtenFormula document definition.formula)

lemma gateElement_resolvedGate (document : Document) (definition : GateDefinition) :
    (ofSound document).gateElement (resolvedGate document definition) =
      writtenGate document definition := by
  have harguments : (resolvedGate document definition).arguments.map
      (ofSound document).argumentElement =
      definition.formula.arguments.map (writtenElement document) := by
    unfold resolvedGate Gate.resolved GateDefinition.toGate
    rw [List.map_map, List.map_map]
    rfl
  unfold gateElement formulaElements writtenGate writtenFormula
  rw [harguments]
  rfl

theorem defines_gate_ofSound_iff {name : String} {element : Xml} :
    (ofSound document).toXml.Defines "define-gate" name element ↔
      ∃ definition ∈ document.gates,
        definition.name = name ∧ element = writtenGate document definition := by
  rw [defines_gate_iff, gates_ofSound]
  constructor
  · rintro ⟨gate, hgate, rfl, rfl⟩
    obtain ⟨definition, hdefinition, rfl⟩ := List.mem_map.mp hgate
    exact ⟨definition, hdefinition, rfl, gateElement_resolvedGate document definition⟩
  · rintro ⟨definition, hdefinition, rfl, rfl⟩
    exact ⟨resolvedGate document definition, List.mem_map_of_mem hdefinition, rfl,
      (gateElement_resolvedGate document definition).symm⟩

theorem defines_house_ofSound_iff {name : String} {element : Xml} :
    (ofSound document).toXml.Defines "define-house-event" name element ↔
      ∃ state ∈ document.states, state.name = name ∧ element =
        .node "define-house-event" [("name", state.name)]
          [.leaf "constant" [("value", if state.value then "true" else "false")]] := by
  rw [defines_house_iff, houseEvents_ofSound]
  constructor
  · rintro ⟨event, hevent, rfl, rfl⟩
    obtain ⟨state, hstate, rfl⟩ := List.mem_map.mp hevent
    exact ⟨state, hstate, rfl, rfl⟩
  · rintro ⟨state, hstate, rfl, rfl⟩
    exact ⟨_, List.mem_map_of_mem hstate, rfl, rfl⟩

end FaultTree
end FaultTreeExchange
