import FaultTreeExchange.Proofs.ExchangeText
import FaultTreeExchange.Proofs.SessionInvariant

/-!
# The element trees of exchange texts

Which elements show a tree, said without the writer. The text of every tree of a session is read
back as the elements that show the tree, whatever characters its names hold, so one text never stands
for two trees that are shown by different elements.
-/

namespace FaultTreeExchange
namespace FaultTree

/-! ### Elements -/

/-- What an argument refers to: its target by the declared name, or an event of unknown kind by the
name of the argument. -/
inductive ReferredTo (tree : FaultTree) (argument : Argument) : Xml → Prop where
  | gate (index : Nat) (entity : Gate) (htarget : argument.target = some (.gate index))
      (hentity : tree.gates[index]? = some entity) :
      ReferredTo tree argument (.leaf "gate" [("name", entity.name)])
  | basic (index : Nat) (entity : BasicEvent) (htarget : argument.target = some (.basic index))
      (hentity : tree.basicEvents[index]? = some entity) :
      ReferredTo tree argument (.leaf "basic-event" [("name", entity.name)])
  | house (index : Nat) (entity : HouseEvent) (htarget : argument.target = some (.house index))
      (hentity : tree.houseEvents[index]? = some entity) :
      ReferredTo tree argument (.leaf "house-event" [("name", entity.name)])
  | unresolved (htarget : argument.target = none) :
      ReferredTo tree argument (.leaf "event" [("name", argument.name)])

inductive ArgumentShown (tree : FaultTree) (argument : Argument) : Xml → Prop where
  | plain (reference : Xml) (hcomplement : argument.complement = false)
      (hreference : tree.ReferredTo argument reference) : ArgumentShown tree argument reference
  | negated (reference : Xml) (hcomplement : argument.complement = true)
      (hreference : tree.ReferredTo argument reference) :
      ArgumentShown tree argument (.node "not" [] [reference])

/-- The formula of a gate: its arguments in order, within the element of the operator if it has
one. -/
inductive FormulaShown (tree : FaultTree) (gate : Gate) : List Xml → Prop where
  | null (arguments : List Xml) (hoperator : gate.operator = .null)
      (harguments : List.Forall₂ tree.ArgumentShown gate.arguments arguments) :
      FormulaShown tree gate arguments
  | connective (tag : String) (arguments : List Xml)
      (hoperator : (gate.operator, tag) ∈
        [(.not, "not"), (.and, "and"), (.or, "or"), (.xor, "xor")])
      (harguments : List.Forall₂ tree.ArgumentShown gate.arguments arguments) :
      FormulaShown tree gate [.node tag [] arguments]
  | vote (minimum : Nat) (arguments : List Xml) (hoperator : gate.operator = .atLeast minimum)
      (harguments : List.Forall₂ tree.ArgumentShown gate.arguments arguments) :
      FormulaShown tree gate [.node "atleast" [("min", toString minimum)] arguments]

inductive GateShown (tree : FaultTree) (gate : Gate) : Xml → Prop where
  | intro (formula : List Xml) (hformula : tree.FormulaShown gate formula) :
      GateShown tree gate (.node "define-gate" [("name", gate.name)] formula)

inductive BasicShown (event : BasicEvent) : Xml → Prop where
  | assigned (probability : Binary64) (hprobability : event.probability = some probability) :
      BasicShown event (.node "define-basic-event" [("name", event.name)]
        [.leaf "float" [("value", probability.render)]])
  | unassigned (hprobability : event.probability = none) :
      BasicShown event (.leaf "define-basic-event" [("name", event.name)])

inductive HouseShown (event : HouseEvent) : Xml → Prop where
  | intro (text : String) (htext : (event.state, text) ∈ [(true, "true"), (false, "false")]) :
      HouseShown event (.node "define-house-event" [("name", event.name)]
        [.leaf "constant" [("value", text)]])

/-- The gates in order, then the declared, the undefined and the house events, if there are any. -/
inductive ShownBy (tree : FaultTree) : Xml → Prop where
  | events (gates declared undefined houses : List Xml)
      (hgates : List.Forall₂ tree.GateShown tree.gates gates)
      (hdeclared : List.Forall₂ BasicShown tree.declaredEvents declared)
      (hundefined : List.Forall₂ BasicShown tree.undefinedEvents undefined)
      (hhouses : List.Forall₂ HouseShown tree.houseEvents houses)
      (hevents : declared ++ undefined ++ houses ≠ []) :
      ShownBy tree (.node "opsa-mef" []
        [.node "define-fault-tree" [("name", tree.name)] gates,
          .node "model-data" [] (declared ++ undefined ++ houses)])
  | gatesOnly (gates : List Xml) (hgates : List.Forall₂ tree.GateShown tree.gates gates)
      (hbasicEvents : tree.basicEvents = []) (hhouseEvents : tree.houseEvents = []) :
      ShownBy tree (.node "opsa-mef" [] [.node "define-fault-tree" [("name", tree.name)] gates])

/-! ### Writing -/

variable {tree : FaultTree} {argument : Argument} {gate : Gate} {element : Xml}

lemma referredTo_iff (h : ∀ id, argument.target = some id → tree.Contains id) :
    tree.ReferredTo argument element ↔ element = tree.argumentReference argument := by
  unfold argumentReference
  constructor
  · rintro (⟨index, entity, htarget, hentity⟩ | ⟨index, entity, htarget, hentity⟩ |
      ⟨index, entity, htarget, hentity⟩ | htarget)
    · simp [htarget, event?, hentity, Event.reference]
    · simp [htarget, event?, hentity, Event.reference]
    · simp [htarget, event?, hentity, Event.reference]
    · simp [htarget]
  · rintro rfl
    cases htarget : argument.target with
    | none => exact .unresolved htarget
    | some id =>
      obtain ⟨event, hevent⟩ := Option.isSome_iff_exists.mp (event?_isSome_iff.mpr (h id htarget))
      rw [Option.bind_some, hevent]
      cases id with
      | gate index =>
        obtain ⟨entity, hentity, rfl⟩ := Option.map_eq_some_iff.mp hevent
        exact .gate index entity htarget hentity
      | basic index =>
        obtain ⟨entity, hentity, rfl⟩ := Option.map_eq_some_iff.mp hevent
        exact .basic index entity htarget hentity
      | house index =>
        obtain ⟨entity, hentity, rfl⟩ := Option.map_eq_some_iff.mp hevent
        exact .house index entity htarget hentity

lemma argumentShown_iff (h : ∀ id, argument.target = some id → tree.Contains id) :
    tree.ArgumentShown argument element ↔ element = tree.argumentElement argument := by
  unfold argumentElement
  constructor
  · rintro (⟨_, hcomplement, hreference⟩ | ⟨reference, hcomplement, hreference⟩)
    · rw [(referredTo_iff h).mp hreference]
      simp [hcomplement]
    · rw [(referredTo_iff h).mp hreference]
      simp [hcomplement]
  · rintro rfl
    split
    · rename_i hcomplement
      exact .negated _ hcomplement ((referredTo_iff h).mpr rfl)
    · rename_i hcomplement
      exact .plain _ (Bool.eq_false_iff.mpr hcomplement) ((referredTo_iff h).mpr rfl)

lemma formulaShown_iff
    (h : ∀ argument ∈ gate.arguments, ∀ id, argument.target = some id → tree.Contains id)
    {formula : List Xml} :
    tree.FormulaShown gate formula ↔ formula = tree.formulaElements gate := by
  have harguments : ∀ arguments, List.Forall₂ tree.ArgumentShown gate.arguments arguments ↔
      arguments = gate.arguments.map tree.argumentElement :=
    forall₂_iff_eq_map _ fun argument hargument _ => argumentShown_iff (h argument hargument)
  unfold formulaElements
  constructor
  · rintro (⟨_, hoperator, hshown⟩ | ⟨tag, arguments, hoperator, hshown⟩ |
      ⟨minimum, arguments, hoperator, hshown⟩)
    · rw [(harguments _).mp hshown, hoperator]
      rfl
    · rw [(harguments _).mp hshown]
      simp only [List.mem_cons, Prod.mk.injEq, List.not_mem_nil, or_false] at hoperator
      rcases hoperator with hoperator | hoperator | hoperator | hoperator
      all_goals
        obtain ⟨hoperator, rfl⟩ := hoperator
        rw [hoperator]
        rfl
    · rw [(harguments _).mp hshown, hoperator]
      rfl
  · rintro rfl
    have hshown := (harguments _).mpr rfl
    cases hoperator : gate.operator with
    | null => exact .null _ hoperator hshown
    | not => exact .connective "not" _ (by simp [hoperator]) hshown
    | and => exact .connective "and" _ (by simp [hoperator]) hshown
    | or => exact .connective "or" _ (by simp [hoperator]) hshown
    | xor => exact .connective "xor" _ (by simp [hoperator]) hshown
    | atLeast minimum => exact .vote minimum _ hoperator hshown

lemma gateShown_iff
    (h : ∀ argument ∈ gate.arguments, ∀ id, argument.target = some id → tree.Contains id) :
    tree.GateShown gate element ↔ element = tree.gateElement gate := by
  unfold gateElement
  constructor
  · rintro ⟨formula, hformula⟩
    rw [(formulaShown_iff h).mp hformula]
  · rintro rfl
    exact .intro _ ((formulaShown_iff h).mpr rfl)

lemma basicShown_iff {event : BasicEvent} :
    BasicShown event element ↔ element = event.definition := by
  unfold BasicEvent.definition
  constructor
  · rintro (⟨probability, hprobability⟩ | hprobability)
    · rw [hprobability]
    · rw [hprobability]
  · rintro rfl
    cases hprobability : event.probability with
    | some probability => exact .assigned probability hprobability
    | none => exact .unassigned hprobability

lemma houseShown_iff {event : HouseEvent} :
    HouseShown event element ↔ element = event.definition := by
  unfold HouseEvent.definition
  constructor
  · rintro ⟨text, htext⟩
    simp only [List.mem_cons, Prod.mk.injEq, List.not_mem_nil, or_false] at htext
    rcases htext with ⟨hstate, rfl⟩ | ⟨hstate, rfl⟩
    · rw [hstate]
      rfl
    · rw [hstate]
      rfl
  · rintro rfl
    refine .intro _ ?_
    cases event.state <;> decide

/-- A tree whose targets exist is shown by its own root element and by no other. -/
theorem shownBy_iff (h : tree.WellFormed) : tree.ShownBy element ↔ element = tree.toXml := by
  have hgates : ∀ gates, List.Forall₂ tree.GateShown tree.gates gates ↔
      gates = tree.gates.map tree.gateElement :=
    forall₂_iff_eq_map _ fun gate hgate _ => gateShown_iff (h.targets_inside gate hgate)
  have hbasic : ∀ events elements, List.Forall₂ BasicShown events elements ↔
      elements = events.map BasicEvent.definition :=
    fun _ => forall₂_iff_eq_map _ fun _ _ _ => basicShown_iff
  have hhouse : ∀ elements, List.Forall₂ HouseShown tree.houseEvents elements ↔
      elements = tree.houseEvents.map HouseEvent.definition :=
    forall₂_iff_eq_map _ fun _ _ _ => houseShown_iff
  have helements : tree.declaredEvents.map BasicEvent.definition ++
      tree.undefinedEvents.map BasicEvent.definition ++
      tree.houseEvents.map HouseEvent.definition = tree.eventElements := by
    rw [eventElements, List.map_append]
  have hnone : tree.eventElements = [] ↔ tree.basicEvents = [] ∧ tree.houseEvents = [] := by
    rw [eventElements, List.append_eq_nil_iff, List.map_eq_nil_iff, List.map_eq_nil_iff,
      ← List.length_eq_zero_iff, (basicEvents_perm tree).length_eq, List.length_eq_zero_iff]
  unfold toXml treeElement
  constructor
  · rintro (⟨gates, declared, undefined, houses, hgates', hdeclared, hundefined, hhouses, hevents⟩ |
      ⟨gates, hgates', hbasicEvents, hhouseEvents⟩)
    · rw [hgates] at hgates'
      rw [hbasic] at hdeclared hundefined
      rw [hhouse] at hhouses
      subst hgates' hdeclared hundefined hhouses
      rw [helements] at hevents ⊢
      rw [if_neg (by simpa using hevents)]
    · rw [(hgates gates).mp hgates', hnone.mpr ⟨hbasicEvents, hhouseEvents⟩]
      rfl
  · rintro rfl
    have hgates' := (hgates _).mpr rfl
    by_cases hevents : tree.eventElements = []
    · obtain ⟨hbasicEvents, hhouseEvents⟩ := hnone.mp hevents
      rw [hevents]
      exact .gatesOnly _ hgates' hbasicEvents hhouseEvents
    · rw [if_neg (by simpa using hevents), ← helements]
      rw [← helements] at hevents
      exact .events _ _ _ _ hgates' ((hbasic _ _).mpr rfl) ((hbasic _ _).mpr rfl)
        ((hhouse _).mpr rfl) hevents

end FaultTree

/-- The text of a tree of a session is read back as the element that shows the tree, and only trees
that are shown by the same element have the same text. -/
theorem Session.exchangeText_reads_as_tree (commands : List Command) (tree : FaultTree)
    (h : (Session.empty.run commands).2.tree = some tree) :
    (∃ root, tree.ShownBy root) ∧
    (∀ root, Xml.read tree.exchangeText = some root ↔ tree.ShownBy root) ∧
    ∀ others other, (Session.empty.run others).2.tree = some other →
      other.exchangeText = tree.exchangeText → ∀ root, other.ShownBy root ↔ tree.ShownBy root := by
  have hreads : ∀ commands tree, (Session.empty.run commands).2.tree = some tree →
      ∀ root, Xml.read tree.exchangeText = some root ↔ tree.ShownBy root := by
    intro commands tree htree root
    obtain ⟨hwellFormed, -⟩ := run_wellFormed commands tree htree
    rw [FaultTree.read_exchangeText, Option.some.injEq, FaultTree.shownBy_iff hwellFormed, eq_comm]
  refine ⟨⟨tree.toXml, ?_⟩, hreads commands tree h, ?_⟩
  · exact (hreads commands tree h _).mp (FaultTree.read_exchangeText tree)
  · intro others other hother htext root
    rw [← hreads others other hother, ← hreads commands tree h, htext]

/-- A document whose names look like markup. -/
def markupDocument : Document where
  name := "</opsa-mef>&amp;"
  place := ⟨"plant.ft", 1⟩
  gates := [⟨"\"/><gate name='x'", ⟨.or, [⟨"&lt;\n", true⟩, ⟨"<event/>", false⟩]⟩, ⟨"plant.ft", 2⟩⟩]
  probabilities := []
  states := [⟨"<EVENT/>", true, ⟨"plant.ft", 3⟩⟩]

/-- A tree that is never validated is read back with names that look like markup. -/
theorem Session.markup_reads_as_tree :
    ∃ tree root, (Session.empty.run [.adopt markupDocument, .build]).2.tree = some tree ∧
      tree.ShownBy root ∧ Xml.read tree.exchangeText = some root := by
  have hrun : (Session.empty.run [.adopt markupDocument, .build]).2.tree =
      some (FaultTree.ofBuild markupDocument) := by
    decide +kernel
  obtain ⟨⟨root, hroot⟩, hreads, -⟩ := exchangeText_reads_as_tree _ _ hrun
  exact ⟨_, root, hrun, hroot, (hreads root).mpr hroot⟩

end FaultTreeExchange
