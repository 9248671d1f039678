import FaultTreeExchange.Proofs.FaultPlaces
import FaultTreeExchange.Proofs.Revalidation
import FaultTreeExchange.Proofs.SoundTree

/-!
# Reports on the graph of a document

Where the declarations of a document are in order, its validation depends on which gates the formulas
name. The diagnostics of the graph are given here by the definitions of the document: the gates of a
cycle, the top gates, and whether every gate is an argument of some gate.
-/

namespace FaultTreeExchange
open Relation

namespace Document

/-- Gates in a row, each of which refers to the next one and the last one to the first. -/
structure IsGateCycle (document : Document) (cycle : List GateDefinition)
    (first last : GateDefinition) : Prop where
  head : cycle.head? = some first
  ends : cycle.getLast? = some last
  distinct : cycle.Nodup
  steps : cycle.IsChain document.RefersTo
  closes : document.RefersTo last first

/-- Every gate is named by some formula. -/
def AllReferredTo (document : Document) : Prop :=
  ∀ definition ∈ document.gates,
    ∃ reference ∈ document.references, Name.key reference.name = Name.key definition.name

instance (document : Document) : Decidable document.AllReferredTo :=
  inferInstanceAs (Decidable (∀ definition ∈ document.gates, ∃ reference ∈ document.references,
    Name.key reference.name = Name.key definition.name))

lemma allReferredTo_iff {document : Document} : document.AllReferredTo ↔ document.topGates = [] := by
  unfold AllReferredTo topGates
  simp

end Document

namespace FaultTree

variable {document : Document} {built : FaultTree} {multiTop : Bool}

/-! ### Positions and definitions -/

lemma gates_resolve_getElem? (document : Document) (index : Nat) :
    (ofBuild document).resolve.gates[index]? =
      (document.gates[index]?).map (resolvedGate document) := by
  rw [gates_resolve_ofBuild, List.getElem?_map]

lemma gateNames_resolve {indices : List Nat} {shown : List GateDefinition}
    (h : indices.map (fun index => document.gates[index]?) = shown.map some) :
    (ofBuild document).resolve.gateNames indices = shown.map GateDefinition.name := by
  have hgates : indices.map (fun index => (ofBuild document).resolve.gates[index]?) =
      (shown.map (resolvedGate document)).map some := by
    calc indices.map (fun index => (ofBuild document).resolve.gates[index]?)
      _ = (indices.map fun index => document.gates[index]?).map
            (Option.map (resolvedGate document)) := by
          rw [List.map_map]
          exact List.map_congr_left fun index _ => gates_resolve_getElem? document index
      _ = (shown.map (resolvedGate document)).map some := by
          rw [h, List.map_map, List.map_map]
          rfl
  rw [gateNames_eq hgates, List.map_map]
  rfl

lemma gateLine_resolve {index : Nat} {definition : GateDefinition}
    (h : document.gates[index]? = some definition) :
    (ofBuild document).resolve.gateLine index = definition.place.line := by
  unfold gateLine
  rw [gates_resolve_getElem?, h]
  rfl

lemma isGateCycle_of_isCycle (h : document.DistinctDeclarations) {cycle : GateCycle}
    (hcycle : cycle.IsCycle (ofBuild document).resolve.gateGraph) :
    ∃ shown first last, document.IsGateCycle shown first last ∧
      (cycle.gates ++ [cycle.first]).map (fun index => document.gates[index]?) =
        (shown ++ [first]).map some ∧
      document.gates[cycle.last]? = some last := by
  have hstands : ∀ index ∈ cycle.gates, ∃ definition, document.gates[index]? = some definition := by
    intro index hindex
    obtain ⟨target, hedge⟩ := hcycle.exists_edge index hindex
    obtain ⟨source, -, hsource, -⟩ := (edge_resolve_ofBuild_iff h).mp hedge
    exact ⟨source, hsource⟩
  obtain ⟨shown, hshown⟩ := exists_map_eq_map_some hstands
  obtain ⟨first, hfirst⟩ := hstands cycle.first List.mem_cons_self
  obtain ⟨last, hlast⟩ := hstands cycle.last cycle.last_mem
  refine ⟨shown, first, last, ⟨?_, ?_, ?_, ?_, ?_⟩, ?_, hlast⟩
  · have hhead := congrArg List.head? hshown
    rw [List.head?_map, List.head?_map] at hhead
    simpa [GateCycle.gates, hfirst, eq_comm] using hhead
  · have hends := congrArg List.getLast? hshown
    rw [List.getLast?_map, List.getLast?_map, cycle.getLast?_gates] at hends
    simpa [hlast, eq_comm] using hends
  · have hgates : document.gates.Nodup := List.Nodup.of_map _ h.gates
    rw [← List.nodup_map_iff (Option.some_injective GateDefinition), ← hshown]
    refine hcycle.distinct.map_on fun index hindex other hother hsame => ?_
    obtain ⟨definition, hdefinition⟩ := hstands index hindex
    obtain ⟨hlt, -⟩ := List.getElem?_eq_some_iff.mp hdefinition
    exact (List.getElem?_inj hlt hgates).mp hsame
  · have hsteps : (shown.map some).IsChain fun source target =>
        ∀ definition ∈ source, ∀ other ∈ target, document.RefersTo definition other := by
      rw [← hshown, List.isChain_map]
      exact hcycle.steps.imp fun index other hedge definition hsource target htarget =>
        refersTo_of_edge h hedge hsource htarget
    rw [List.isChain_map] at hsteps
    exact hsteps.imp fun definition other hrefers => hrefers definition rfl other rfl
  · exact refersTo_of_edge h hcycle.closes hlast hfirst
  · rw [List.map_append, List.map_append, hshown, List.map_singleton, List.map_singleton, hfirst]

/-! ### Messages -/

lemma quote_mem_append_left {front : String} (h : '\'' ∈ front.toList) (rest : String) :
    '\'' ∈ (front ++ rest).toList := by
  rw [String.toList_append]
  exact List.mem_append_left _ h

lemma quote_mem_append_right {rest : String} (front : String) (h : '\'' ∈ rest.toList) :
    '\'' ∈ (front ++ rest).toList := by
  rw [String.toList_append]
  exact List.mem_append_right _ h

lemma quote_mem_redefinition (name : String) (first : DeclarationKind) (line : Nat)
    (second : DeclarationKind) :
    '\'' ∈ (TreeFault.redefinition name first line second).message.toList := by
  unfold TreeFault.message
  cases first <;> cases second <;> dsimp only <;> simp only [String.append_assoc] <;>
    exact quote_mem_append_left (by decide +kernel) _

lemma quote_mem_invalidName (role : NameRole) (name : String) (flaw : NameFlaw) :
    '\'' ∈ (ParsingFault.invalidName role name flaw).message.toList := by
  unfold ParsingFault.message
  simp only [String.append_assoc]
  exact quote_mem_append_right _ (quote_mem_append_right _
    (quote_mem_append_left (by decide +kernel) _))

lemma quote_mem_arityFault {gate : Gate} {fault : TreeFault} (h : gate.arityFault = some fault) :
    '\'' ∈ fault.message.toList := by
  have hcount : ∀ operator rule count,
      '\'' ∈ (TreeFault.operandCount operator gate.name rule count).message.toList := by
    intro operator rule count
    unfold TreeFault.message
    simp only [String.append_assoc]
    exact quote_mem_append_right _ (quote_mem_append_left (by decide +kernel) _)
  have hthreshold : ∀ minimum count,
      '\'' ∈ (TreeFault.threshold gate.name minimum count).message.toList := by
    intro minimum count
    unfold TreeFault.message
    simp only [String.append_assoc]
    exact quote_mem_append_left (by decide +kernel) _
  unfold Gate.arityFault at h
  cases hoperator : gate.operator <;> rw [hoperator] at h <;> dsimp only at h <;>
    split at h <;> cases h
  · exact hcount _ _ _
  · exact hcount _ _ _
  · exact hcount _ _ _
  · exact hcount _ _ _
  · exact hcount _ _ _
  · exact hthreshold _ _

lemma quote_mem_of_checkDeclarations {tree : FaultTree} {diagnostic : Diagnostic}
    (h : tree.checkDeclarations = .error diagnostic) :
    '\'' ∈ diagnostic.fault.message.toList := by
  rcases bind_eq_error_iff.mp h with hredefinitions | ⟨-, -, h⟩
  · unfold checkRedefinitions at hredefinitions
    split at hredefinitions <;> cases hredefinitions
    exact quote_mem_redefinition _ _ _ _
  rcases bind_eq_error_iff.mp h with hnames | ⟨-, -, harity⟩
  · unfold checkNameFormat at hnames
    split at hnames <;> cases hnames
    exact quote_mem_invalidName _ _ _
  · obtain ⟨gate, -, hgate⟩ := forM_eq_error harity
    unfold Gate.checkArity at hgate
    split at hgate
    · cases hgate
    · rename_i fault hfault
      cases hgate
      exact quote_mem_arityFault hfault

lemma append_ne_of_head? {front text : String} {c : Char} (hfront : front.toList.head? = some c)
    (htext : text.toList.head? ≠ some c) (rest : String) : front ++ rest ≠ text := by
  intro h
  apply htext
  rw [← h, String.toList_append, List.head?_append, hfront, Option.some_or]

lemma message_ne_of_checkGraph {tree : FaultTree} {diagnostic : Diagnostic}
    (h : tree.checkGraph multiTop = .error diagnostic) :
    diagnostic.fault.message ≠ TreeFault.noTopText := by
  have hcycle : ∀ gates, TreeFault.cycleText gates ≠ TreeFault.noTopText := fun gates =>
    append_ne_of_head? (c := 'c') (by decide +kernel) (by decide +kernel) _
  have hlonger : ∀ gates, (TreeFault.cycleWithoutTop gates).message ≠ TreeFault.noTopText := by
    intro gates hsame
    have hlength := congrArg String.length hsame
    unfold TreeFault.message at hlength
    simp only [String.length_append] at hlength
    have hpart : (toString " (").length = 2 := by decide +kernel
    have hname : (toString TreeFault.noTopText).length = TreeFault.noTopText.length := rfl
    omega
  have hseveral : ∀ gates, (TreeFault.severalTops gates).message ≠ TreeFault.noTopText := by
    intro gates
    unfold TreeFault.message
    dsimp only
    rw [String.append_assoc]
    exact append_ne_of_head? (c := 'm') (by decide +kernel) (by decide +kernel) _
  unfold checkGraph at h
  split at h
  · rename_i found hfound
    cases h
    unfold checkCycles at hfound
    split at hfound <;> cases hfound
    unfold noteMissingTop
    dsimp only
    split
    · exact hlonger _
    · exact hcycle _
  · rename_i hnone
    have hacyclic := checkCycles_eq_ok_iff.mp hnone
    unfold findRoots at h
    split at h
    · cases h
      change TreeFault.noGates.message ≠ TreeFault.noTopText
      decide +kernel
    · rename_i hgates
      split at h
      · rename_i hempty
        exact absurd hempty (topCandidates_ne_nil hacyclic (mt List.isEmpty_iff.mpr hgates))
      · cases h
      · split at h <;> cases h
        exact hseveral _

lemma message_ne_of_validate {tree : FaultTree} {diagnostic : Diagnostic}
    (h : (tree.validate multiTop).2 = .error diagnostic) :
    diagnostic.fault.message ≠ TreeFault.noTopText := by
  rcases validate_cases tree multiTop with
    ⟨found, hdeclarations, hvalidate⟩ | ⟨found, -, hgraph, hvalidate⟩ | ⟨roots, -, -, hvalidate⟩ <;>
    rw [hvalidate] at h <;> cases h
  · have hquote := quote_mem_of_checkDeclarations hdeclarations
    intro hsame
    rw [hsame] at hquote
    revert hquote
    decide +kernel
  · exact message_ne_of_checkGraph hgraph

/-! ### Outcomes -/

lemma validate_of_checkGraph {tree : FaultTree} {diagnostic : Diagnostic}
    (hchecks : tree.checkDeclarations = .ok ())
    (h : tree.resolve.checkGraph multiTop = .error diagnostic) :
    (tree.validate multiTop).2 = .error diagnostic := by
  unfold validate
  rw [hchecks]
  dsimp only
  rw [h]

lemma topCandidates_isEmpty_iff (h : document.DistinctDeclarations) :
    (ofBuild document).resolve.topCandidates.isEmpty = true ↔ document.AllReferredTo := by
  rw [Document.allReferredTo_iff, List.isEmpty_iff, ← List.length_eq_zero_iff,
    ← List.length_eq_zero_iff, length_topCandidates h]

/-- A cycle of the document is reported, and so is the lack of a top gate that may come with it. -/
lemma exists_checkGraph_of_cyclic (h : document.DistinctDeclarations) (hcyclic : ¬document.Acyclic)
    (multiTop : Bool) :
    ∃ diagnostic, (ofBuild document).resolve.checkGraph multiTop = .error diagnostic ∧
      ∃ cycle first last text, document.IsGateCycle cycle first last ∧
        text = "cycle detected: " ++ " → ".intercalate ((cycle ++ [first]).map GateDefinition.name) ∧
        diagnostic.report = ⟨.faultTree, document.place.file, last.place.line,
          if document.AllReferredTo then
            "no top event: every gate is an argument of another gate" ++ " (" ++ text ++ ")"
          else text⟩ := by
  have hsome : GateCycle.find? (ofBuild document).resolve.gateGraph ≠ none := by
    rwa [ne_eq, GateCycle.find?_eq_none_iff, acyclic_gateGraph_iff h]
  obtain ⟨found, hfound⟩ := Option.ne_none_iff_exists'.mp hsome
  obtain ⟨cycle, first, last, hcycle, hback, hlast⟩ :=
    isGateCycle_of_isCycle h (GateCycle.isCycle_of_find?_eq_some hfound)
  have hcheck : (ofBuild document).resolve.checkGraph multiTop =
      .error ((ofBuild document).resolve.noteMissingTop
        ⟨.faultTree (.cycle ((cycle ++ [first]).map GateDefinition.name)), document.place.file,
          last.place.line⟩) := by
    unfold checkGraph checkCycles
    rw [hfound]
    dsimp only
    rw [gateNames_resolve hback, gateLine_resolve hlast, file_resolve_ofBuild]
  refine ⟨_, hcheck, cycle, first, last, _, hcycle, rfl, ?_⟩
  unfold noteMissingTop
  dsimp only
  by_cases htop : document.AllReferredTo
  · rw [if_pos ((topCandidates_isEmpty_iff h).mpr htop), if_pos htop]
    rfl
  · rw [if_neg (mt (topCandidates_isEmpty_iff h).mp htop), if_neg htop]
    rfl

lemma checkGraph_of_acyclic {tree : FaultTree} (hacyclic : GateCycle.Acyclic tree.gateGraph) :
    tree.checkGraph multiTop = tree.findRoots multiTop := by
  unfold checkGraph
  rw [checkCycles_eq_ok_iff.mpr hacyclic]

lemma findRoots_of_severalTops (h : document.DistinctDeclarations) {first second : GateDefinition}
    {rest : List GateDefinition} (htop : document.topGates = first :: second :: rest) :
    (ofBuild document).resolve.findRoots false =
      .error ⟨.faultTree (.severalTops (document.topGates.map GateDefinition.name)),
        document.place.file, second.place.line⟩ := by
  have hshown := map_getElem?_topCandidates h
  have hnames := gateNames_resolve hshown
  have hgate : first ∈ document.gates := by
    apply List.mem_of_mem_filter
    rw [← Document.topGates, htop]
    exact List.mem_cons_self
  have hgates : (ofBuild document).resolve.gates.isEmpty = false := by
    rw [gates_resolve_ofBuild, List.isEmpty_map, List.isEmpty_eq_false_iff]
    exact List.ne_nil_of_mem hgate
  unfold findRoots
  rw [hgates]
  cases hcandidates : (ofBuild document).resolve.topCandidates with
  | nil => simp [hcandidates, htop] at hshown
  | cons index indices =>
    cases indices with
    | nil => simp [hcandidates, htop] at hshown
    | cons other indices =>
      have hother : document.gates[other]? = some second := by
        simp only [hcandidates, htop, List.map_cons, List.cons.injEq] at hshown
        exact hshown.2.1
      rw [hcandidates] at hnames
      dsimp only
      rw [hnames, gateLine_resolve hother, file_resolve_ofBuild]
      rfl

/-- What a validation reports where the declarations are in order. A cycle of gates is reported on the
line of the gate that closes it, as the lack of a top gate where every gate is an argument; a document
without cycles is refused for having no gate, or on the line of the second of several top gates where
only one is allowed, and it is accepted otherwise. That every gate is an argument is never reported on
its own, because a tree with that property has a cycle. -/
theorem validate_reports_graph (hbuild : build document = .ok built)
    (hchecks : built.checkDeclarations = .ok ()) (multiTop : Bool) :
    (¬document.Acyclic → ∃ diagnostic, (built.validate multiTop).2 = .error diagnostic ∧
      ∃ cycle first last text, document.IsGateCycle cycle first last ∧
        text = "cycle detected: " ++ " → ".intercalate ((cycle ++ [first]).map GateDefinition.name) ∧
        diagnostic.report = ⟨.faultTree, document.place.file, last.place.line,
          if document.AllReferredTo then
            "no top event: every gate is an argument of another gate" ++ " (" ++ text ++ ")"
          else text⟩) ∧
    (document.Acyclic → document.gates = [] →
      ∃ diagnostic, (built.validate multiTop).2 = .error diagnostic ∧
        diagnostic.report = ⟨.faultTree, document.place.file, 0,
          "no top event: the fault tree defines no gates"⟩) ∧
    (document.Acyclic → multiTop = false →
      ∀ first second rest, document.topGates = first :: second :: rest →
        ∃ diagnostic, (built.validate multiTop).2 = .error diagnostic ∧
          diagnostic.report = ⟨.faultTree, document.place.file, second.place.line,
            "multiple top events: " ++
              ", ".intercalate (document.topGates.map GateDefinition.name) ++
              " (allow multiple roots to translate a forest)"⟩) ∧
    (document.Acyclic → document.gates ≠ [] → (multiTop = false → document.topGates.length < 2) →
      (built.validate multiTop).2 = .ok ()) ∧
    (∀ tree multiTop diagnostic, (FaultTree.validate tree multiTop).2 = .error diagnostic →
      diagnostic.report.message ≠ "no top event: every gate is an argument of another gate") ∧
    ∀ tree : FaultTree, tree.gates ≠ [] →
      (∀ index < tree.gates.length, ∃ other, tree.TargetsGate other index) →
        ∃ diagnostic, tree.checkCycles = .error diagnostic := by
  obtain ⟨-, rfl⟩ := build_eq_ok_iff.mp hbuild
  obtain ⟨h, -⟩ := checkDeclarations_ofBuild_eq_ok_iff.mp hchecks
  refine ⟨fun hcyclic => ?_, fun hacyclic hgates => ?_, fun hacyclic hone first second rest htop => ?_,
    fun hacyclic hgates htop => ?_, fun tree multiTop diagnostic => message_ne_of_validate,
    fun tree hgates htargeted => ?_⟩
  · obtain ⟨diagnostic, hcheck, hreport⟩ := exists_checkGraph_of_cyclic h hcyclic multiTop
    exact ⟨diagnostic, validate_of_checkGraph hchecks hcheck, hreport⟩
  · have hcheck : (ofBuild document).resolve.checkGraph multiTop =
        .error ⟨.faultTree .noGates, document.place.file, 0⟩ := by
      rw [checkGraph_of_acyclic ((acyclic_gateGraph_iff h).mpr hacyclic), findRoots,
        gates_resolve_ofBuild, hgates, file_resolve_ofBuild]
      rfl
    exact ⟨_, validate_of_checkGraph hchecks hcheck, rfl⟩
  · subst hone
    have hcheck : (ofBuild document).resolve.checkGraph false =
        .error ⟨.faultTree (.severalTops (document.topGates.map GateDefinition.name)),
          document.place.file, second.place.line⟩ := by
      rw [checkGraph_of_acyclic ((acyclic_gateGraph_iff h).mpr hacyclic)]
      exact findRoots_of_severalTops h htop
    exact ⟨_, validate_of_checkGraph hchecks hcheck, rfl⟩
  · have hgraph := (acyclic_gateGraph_iff h).mpr hacyclic
    have hnone : (ofBuild document).resolve.gates ≠ [] := by
      rwa [gates_resolve_ofBuild, ne_eq, List.map_eq_nil_iff]
    have hsome := List.length_pos_iff.mpr (topCandidates_ne_nil hgraph hnone)
    rw [length_topCandidates h] at hsome
    have hvalid := validate_eq_ok_iff.mpr ⟨hchecks, hgraph, hnone, fun hone => by
      rw [length_topCandidates h]
      have := htop hone
      omega, rfl⟩
    rw [hvalid]
  · cases hcycles : tree.checkCycles with
    | error diagnostic => exact ⟨diagnostic, rfl⟩
    | ok _ =>
      obtain ⟨top, htop⟩ := List.exists_mem_of_ne_nil _
        (topCandidates_ne_nil (checkCycles_eq_ok_iff.mp hcycles) hgates)
      obtain ⟨hlt, hnone⟩ := mem_topCandidates_iff.mp htop
      obtain ⟨other, gate, hgate, htarget⟩ := htargeted top hlt
      exact absurd (mem_gateTargets_iff.mpr htarget) (hnone gate (List.mem_of_getElem? hgate))

/-- A document whose two gates refer to each other. -/
def circularDocument : Document where
  name := "Plant"
  place := ⟨"plant.ft", 1⟩
  gates := [⟨"Left", ⟨.or, [⟨"Pump", false⟩, ⟨"right", false⟩]⟩, ⟨"plant.ft", 2⟩⟩,
    ⟨"Right", ⟨.null, [⟨"LEFT", true⟩]⟩, ⟨"plant.ft", 3⟩⟩]
  probabilities := []
  states := []

lemma build_circularDocument : build circularDocument = .ok (ofBuild circularDocument) :=
  build_of_distinctMarks (by decide +kernel)

lemma checkDeclarations_circularDocument : (ofBuild circularDocument).checkDeclarations = .ok () :=
  checkDeclarations_ofBuild (by decide +kernel) (by decide +kernel) (by decide +kernel)

/-- The document of the sample with other gates. -/
def withGates (gates : List GateDefinition) : Document :=
  { sampleDocument with gates }

def twoTops : List GateDefinition :=
  [⟨"Top", ⟨.null, [⟨"Pump", false⟩]⟩, ⟨"plant.ft", 2⟩⟩,
    ⟨"Spare", ⟨.and, [⟨"pump", true⟩, ⟨"Mains", false⟩]⟩, ⟨"plant.ft", 3⟩⟩]

/-- The circular document lacks a top gate, the sample without gates has none, two top gates are
reported on the line of the second one unless they are allowed, and in the circular tree the search for
cycles stops. -/
theorem sample_graphs_reported :
    (∃ diagnostic, ((ofBuild circularDocument).validate true).2 = .error diagnostic ∧
      ∃ cycle first last text, circularDocument.IsGateCycle cycle first last ∧
        text = "cycle detected: " ++ " → ".intercalate ((cycle ++ [first]).map GateDefinition.name) ∧
        diagnostic.report = ⟨.faultTree, "plant.ft", last.place.line,
          "no top event: every gate is an argument of another gate" ++ " (" ++ text ++ ")"⟩ ∧
        diagnostic.report.message ≠ "no top event: every gate is an argument of another gate") ∧
    (∃ diagnostic, ((ofBuild (withGates [])).validate true).2 = .error diagnostic ∧
      diagnostic.report = ⟨.faultTree, "plant.ft", 0,
        "no top event: the fault tree defines no gates"⟩) ∧
    (∃ diagnostic, ((ofBuild (withGates twoTops)).validate false).2 = .error diagnostic ∧
      diagnostic.report = ⟨.faultTree, "plant.ft", 3,
        "multiple top events: " ++ ", ".intercalate ["Top", "Spare"] ++
          " (allow multiple roots to translate a forest)"⟩) ∧
    ((ofBuild (withGates twoTops)).validate true).2 = .ok () ∧
    ∃ diagnostic, (ofBuild circularDocument).resolve.checkCycles = .error diagnostic := by
  have hacyclic : ∀ document : Document, document.declaredKeys.Nodup →
      (document.Acyclic ↔ GateCycle.find? (ofBuild document).resolve.gateGraph = none) :=
    fun document h => by rw [GateCycle.find?_eq_none_iff, acyclic_gateGraph_iff h]
  obtain ⟨hcyclic, -, -, -, hbare, htargeted⟩ :=
    validate_reports_graph build_circularDocument checkDeclarations_circularDocument true
  have hempty : build (withGates []) = .ok (ofBuild (withGates [])) :=
    build_of_distinctMarks (by decide +kernel)
  obtain ⟨-, hgateless, -⟩ := validate_reports_graph hempty
    (checkDeclarations_ofBuild (by decide +kernel) (by decide +kernel) (by decide +kernel)) true
  have hbuild : build (withGates twoTops) = .ok (ofBuild (withGates twoTops)) :=
    build_of_distinctMarks (by decide +kernel)
  have hchecks : (ofBuild (withGates twoTops)).checkDeclarations = .ok () :=
    checkDeclarations_ofBuild (by decide +kernel) (by decide +kernel) (by decide +kernel)
  obtain ⟨-, -, hseveral, -⟩ := validate_reports_graph hbuild hchecks false
  obtain ⟨-, -, -, haccepted, -⟩ := validate_reports_graph hbuild hchecks true
  have hcircular : ¬circularDocument.Acyclic := by
    rw [hacyclic _ (by decide +kernel)]
    decide +kernel
  have htwoTops : (withGates twoTops).Acyclic := by
    rw [hacyclic _ (by decide +kernel)]
    decide +kernel
  refine ⟨?_, ?_, ?_, ?_, ?_⟩
  · obtain ⟨diagnostic, hvalidate, cycle, first, last, text, hcycle, htext, hreport⟩ := hcyclic hcircular
    rw [if_pos (by decide +kernel)] at hreport
    exact ⟨diagnostic, hvalidate, cycle, first, last, text, hcycle, htext, hreport,
      hbare _ true diagnostic hvalidate⟩
  · apply hgateless ?_ rfl
    rw [hacyclic _ (by decide +kernel)]
    decide +kernel
  · exact hseveral htwoTops rfl _ _ _ rfl
  · exact haccepted htwoTops (by decide) (by decide)
  · apply htargeted _ (by decide +kernel)
    rw [← edge_gateGraph]
    have hgraph : (ofBuild circularDocument).resolve.gateGraph = [[1], [0]] := by decide +kernel
    have hedges : ∀ index < 2, index ∈ GateCycle.targetsOf [[1], [0]] (1 - index) := by decide
    rw [← length_gateGraph, hgraph]
    exact fun index hindex => ⟨1 - index, hedges index hindex⟩

end FaultTree
end FaultTreeExchange
