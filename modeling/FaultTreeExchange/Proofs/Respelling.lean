import FaultTreeExchange.Proofs.Outline
import FaultTreeExchange.Proofs.SessionInvariant
import Mathlib.Data.List.Forall2

/-!
# References in any letter case

Two documents whose references are spelled in different letter cases, and otherwise the same, have the
same tree up to these spellings, as long as all that they refer to is declared. So they are accepted or
refused alike, and their exchange texts are the same.
-/

namespace FaultTreeExchange

def Reference.keyed (reference : Reference) : Reference :=
  { reference with name := Name.key reference.name }

def GateDefinition.keyed (definition : GateDefinition) : GateDefinition :=
  { definition with formula :=
      { definition.formula with
        arguments := definition.formula.arguments.map Reference.keyed } }

@[simp]
lemma GateDefinition.name_keyed (definition : GateDefinition) :
    definition.keyed.name = definition.name := rfl

/-- The document with the key of its name in place of each reference. -/
def Document.keyed (document : Document) : Document :=
  { document with gates := document.gates.map GateDefinition.keyed }

/-- Every reference names a gate or event that the document declares. -/
def Document.DeclaresReferences (document : Document) : Prop :=
  ∀ reference ∈ document.references,
    ∃ name ∈ document.declaredNames, Name.key name = Name.key reference.name

/-- Two checks succeed with related results, or fail with faults of one kind at one place. -/
inductive EndAlike {α : Type} (related : α → α → Prop) :
    Except Diagnostic α → Except Diagnostic α → Prop where
  | ok {result other : α} (h : related result other) : EndAlike related (.ok result) (.ok other)
  | error {diagnostic other : Diagnostic} (hkind : diagnostic.fault.kind = other.fault.kind)
      (hfile : diagnostic.file = other.file) (hline : diagnostic.line = other.line) :
      EndAlike related (.error diagnostic) (.error other)

lemma EndAlike.bind {α β : Type} {related : α → α → Prop} {related' : β → β → Prop}
    {check other : Except Diagnostic α} {next next' : α → Except Diagnostic β}
    (h : EndAlike related check other)
    (hnext : ∀ result result', related result result' →
      EndAlike related' (next result) (next' result')) :
    EndAlike related' (check >>= next) (other >>= next') := by
  cases h with
  | ok hrelated => exact hnext _ _ hrelated
  | error hkind hfile hline => exact .error hkind hfile hline

lemma EndAlike.exists_ok {α : Type} {related : α → α → Prop} {result : α}
    {check : Except Diagnostic α} (h : EndAlike related (.ok result) check) :
    ∃ other, check = .ok other ∧ related result other := by
  cases h with
  | ok hrelated => exact ⟨_, rfl, hrelated⟩

lemma forall₂_of_map_eq {α β : Type} {image : α → β} {items others : List α}
    (h : items.map image = others.map image) :
    List.Forall₂ (fun item other => image item = image other) items others := by
  rw [← List.forall₂_eq_eq_eq, List.forall₂_map_left_iff, List.forall₂_map_right_iff] at h
  exact h

lemma Document.declaresReferences_iff {document : Document} :
    document.DeclaresReferences ↔
      ∀ reference ∈ document.keyed.references,
        ∃ name ∈ document.keyed.declaredNames, Name.key name = reference.name := by
  have hnames : document.keyed.declaredNames = document.declaredNames := by
    simp [declaredNames, keyed, Function.comp_def]
  have hreferences : document.keyed.references = document.references.map Reference.keyed := by
    simp [references, keyed, GateDefinition.keyed, List.flatMap_map, List.map_flatMap]
  rw [hnames, hreferences, List.forall_mem_map]
  rfl

/-! ### Repeated arguments -/

lemma GateDefinition.endAlike_checkRepeated {definition other : GateDefinition}
    (h : definition.keyed = other.keyed) :
    EndAlike (fun _ _ => True) definition.checkRepeated other.checkRepeated := by
  have hmarks : definition.formula.arguments.map Reference.mark =
      other.formula.arguments.map Reference.mark := by
    have harguments : definition.keyed.formula.arguments = other.keyed.formula.arguments := by rw [h]
    have hpairs := congrArg (List.map fun reference => (reference.name, reference.complement))
      harguments
    unfold keyed at hpairs
    rw [List.map_map, List.map_map] at hpairs
    exact hpairs
  have hplace : definition.keyed.place = other.keyed.place := by rw [h]
  have hnone : Reference.firstRepeated [] definition.formula.arguments = none ↔
      Reference.firstRepeated [] other.formula.arguments = none := by
    rw [Reference.firstRepeated_eq_none_iff, Reference.firstRepeated_eq_none_iff, fresh_nil_iff,
      fresh_nil_iff, hmarks]
  unfold checkRepeated
  cases hfirst : Reference.firstRepeated [] definition.formula.arguments with
  | none =>
    rw [hnone.mp hfirst]
    exact .ok trivial
  | some reference =>
    cases hsecond : Reference.firstRepeated [] other.formula.arguments with
    | none =>
      rw [hnone.mpr hsecond] at hfirst
      cases hfirst
    | some repeated => exact .error rfl (congrArg Place.file hplace) (congrArg Place.line hplace)

lemma endAlike_forM {α : Type} {check : α → Except Diagnostic Unit} {items others : List α}
    (h : List.Forall₂ (fun item other => EndAlike (fun _ _ => True) (check item) (check other))
      items others) :
    EndAlike (fun _ _ => True) (items.forM check) (others.forM check) := by
  induction h with
  | nil => exact .ok trivial
  | cons hitem _ ih =>
    rw [List.forM_eq_forM] at ih ⊢
    rw [List.forM_cons, List.forM_cons]
    exact hitem.bind fun _ _ _ => ih

namespace FaultTree

variable {first second : Document} {tree other : FaultTree}

/-! ### The trees of the declarations -/

lemma undeclared_eq_nil (h : first.DeclaresReferences) : first.undeclared = [] := by
  refine List.eq_nil_iff_forall_not_mem.mpr fun mention hmention => ?_
  obtain ⟨hnew, before, after, hreferences, -⟩ :=
    Document.mem_undeclared_names_iff.mp (List.mem_map_of_mem hmention)
  have hname : mention.1 ∈ first.references.map Reference.name := by
    rw [hreferences]
    simp
  obtain ⟨reference, hreference, hspelled⟩ := List.mem_map.mp hname
  obtain ⟨name, hdeclared, hkey⟩ := h reference hreference
  rw [← hspelled, ← hkey] at hnew
  exact hnew (List.mem_map_of_mem hdeclared)

lemma ofBuild_eq_ofDeclarations (h : first.DeclaresReferences) :
    ofBuild first = ofDeclarations first := by
  unfold ofBuild
  rw [undeclared_eq_nil h, addUndefined_nil]

lemma outline_ofDeclarations_keyed (document : Document) :
    (ofDeclarations document.keyed).outline = (ofDeclarations document).outline := by
  simp [ofDeclarations, outline, Document.keyed, GateDefinition.keyed, GateDefinition.toGate,
    Gate.outline, Function.comp_def]

lemma names_ofDeclarations_keyed (document : Document) :
    (ofDeclarations document.keyed).names = (ofDeclarations document).names := by
  simp [ofDeclarations, Document.keyed, List.zipIdx_map, Function.comp_def]

/-- The gate of a definition whose references are keys, with the targets that a table gives. -/
def boundGate (names : NameTable) (definition : GateDefinition) : Gate where
  name := definition.name
  operator := definition.formula.operator
  arguments := definition.formula.arguments.map fun reference =>
    ⟨"", reference.complement, names.lookup reference.name⟩
  line := definition.place.line

lemma unspelled_resolved (names : NameTable) (definition : GateDefinition) :
    (definition.toGate.resolved names).unspelled = boundGate names definition.keyed := by
  simp [Gate.unspelled, Gate.resolved, GateDefinition.toGate, Argument.resolved,
    Argument.unspelled, boundGate, GateDefinition.keyed, Reference.keyed, NameTable.find?,
    Function.comp_def]

lemma unspelled_resolve (h : first.DeclaresReferences) :
    (ofBuild first).resolve.unspelled =
      { ofDeclarations first.keyed with
        gates := first.keyed.gates.map (boundGate (ofDeclarations first.keyed).names) } := by
  rw [(namesAgree_ofBuild first).resolve_eq, ofBuild_eq_ofDeclarations h, names_ofDeclarations_keyed]
  simp [unspelled, ofDeclarations, Document.keyed, unspelled_resolved, List.zipIdx_map,
    Function.comp_def]

lemma endAlike_build (h : first.keyed = second.keyed) :
    EndAlike (fun tree other => tree = ofBuild first ∧ other = ofBuild second)
      (build first) (build second) := by
  have hgates : first.gates.map GateDefinition.keyed = second.gates.map GateDefinition.keyed :=
    congrArg Document.gates h
  have hcheck : EndAlike (fun _ _ => True) (first.gates.forM GateDefinition.checkRepeated)
      (second.gates.forM GateDefinition.checkRepeated) :=
    endAlike_forM ((forall₂_of_map_eq hgates).imp fun _ _ => GateDefinition.endAlike_checkRepeated)
  unfold build
  rw [foldl_intern, foldl_intern, keys_ofDeclarations, keys_ofDeclarations]
  exact hcheck.bind fun _ _ _ => .ok ⟨rfl, rfl⟩

/-! ### Their validation -/

lemma Consistent.exists_target (h : tree.Consistent) (hresolved : tree.Resolved) {gate : Gate}
    (hgate : gate ∈ tree.gates) {argument : Argument} (hargument : argument ∈ gate.arguments) :
    ∃ id, argument.target = some id ∧ tree.Contains id := by
  obtain ⟨id, hid⟩ := h.agree.argument_known gate hgate argument hargument
  exact ⟨id, (hresolved.target_eq hgate hargument).trans hid, h.agree.contains hid⟩

/-- Trees with one outline that are resolved to the same targets are validated alike. -/
lemma endAlike_validate {multiTop : Bool} (hconsistent : tree.Consistent)
    (hconsistent' : other.Consistent) (houtline : tree.outline = other.outline)
    (hresolve : tree.resolve.unspelled = other.resolve.unspelled) :
    EndAlike (fun result result' => result.exchangeText = result'.exchangeText)
      (match tree.validate multiTop with
        | (result, .ok _) => return result
        | (_, .error diagnostic) => .error diagnostic)
      (match other.validate multiTop with
        | (result, .ok _) => return result
        | (_, .error diagnostic) => .error diagnostic) := by
  have hdeclarations : tree.checkDeclarations = other.checkDeclarations := by
    rw [← checkDeclarations_outline, houtline, checkDeclarations_outline]
  have hgraph : tree.resolve.checkGraph multiTop = other.resolve.checkGraph multiTop := by
    rw [← checkGraph_unspelled, hresolve, checkGraph_unspelled]
  unfold validate
  rw [hdeclarations]
  cases other.checkDeclarations with
  | error diagnostic => exact .error rfl rfl rfl
  | ok _ =>
    dsimp only
    rw [hgraph]
    cases hroots : other.resolve.checkGraph multiTop with
    | error diagnostic => exact .error rfl rfl rfl
    | ok roots =>
      refine .ok ?_
      have htext : ∀ built : FaultTree, built.Consistent →
          ({ built.resolve with roots } : FaultTree).exchangeText =
            built.resolve.unspelled.exchangeText := by
        intro built hbuilt
        rw [exchangeText_unspelled fun gate hgate argument hargument =>
          hbuilt.resolve.exists_target hbuilt.resolved_resolve hgate hargument]
        rfl
      rw [htext tree hconsistent, htext other hconsistent', hresolve]

/-- Documents that differ in nothing but the letter case of references to what they declare are both
refused for a fault of one kind at one place, or have trees with the same exchange text. -/
theorem ofDocument_respelled {first second : Document} (multiTop : Bool)
    (hkeyed : first.keyed = second.keyed) (hdeclares : first.DeclaresReferences) :
    EndAlike (fun tree other => tree.exchangeText = other.exchangeText)
      (ofDocument first multiTop) (ofDocument second multiTop) := by
  have hdeclares' : second.DeclaresReferences := by
    rw [Document.declaresReferences_iff, ← hkeyed]
    exact Document.declaresReferences_iff.mp hdeclares
  have houtline : (ofBuild first).outline = (ofBuild second).outline := by
    rw [ofBuild_eq_ofDeclarations hdeclares, ofBuild_eq_ofDeclarations hdeclares',
      ← outline_ofDeclarations_keyed, hkeyed, outline_ofDeclarations_keyed]
  have hresolve : (ofBuild first).resolve.unspelled = (ofBuild second).resolve.unspelled := by
    rw [unspelled_resolve hdeclares, unspelled_resolve hdeclares', hkeyed]
  exact (endAlike_build hkeyed).bind fun tree other ⟨htree, hother⟩ => by
    subst htree hother
    exact endAlike_validate (consistent_ofBuild first) (consistent_ofBuild second) houtline hresolve

end FaultTree

/-! ### A sample -/

/-- The sample with all its events declared. -/
def declaredSample : Document :=
  { sampleDocument with
    probabilities := sampleDocument.probabilities ++
      [⟨"Spare", Binary64.ofRank false 0x3FE0000000000000, ⟨"plant.ft", 6⟩⟩] }

/-- The same with all references in other letter cases. -/
def respelledSample : Document :=
  { declaredSample with
    gates := [⟨"Top", ⟨.and, [⟨"PUMP", false⟩, ⟨"vALVE", true⟩]⟩, ⟨"plant.ft", 2⟩⟩,
      ⟨"Valve", ⟨.atLeast 1, [⟨"Pump", false⟩, ⟨"spare", false⟩, ⟨"MAINS", false⟩]⟩,
        ⟨"plant.ft", 3⟩⟩] }

namespace FaultTree

theorem sample_respelled :
    declaredSample.keyed = respelledSample.keyed ∧ declaredSample.DeclaresReferences ∧
    ∃ tree other, ofDocument declaredSample false = .ok tree ∧
      ofDocument respelledSample false = .ok other ∧ tree.exchangeText = other.exchangeText := by
  have hkeyed : declaredSample.keyed = respelledSample.keyed := by decide +kernel
  have hdeclares : declaredSample.DeclaresReferences := by
    unfold Document.DeclaresReferences
    decide +kernel
  have hsound : declaredSample.Sound false := by decide +kernel
  have hfirst := ofDocument_eq_ok_iff.mpr ⟨hsound, rfl⟩
  have halike := ofDocument_respelled false hkeyed hdeclares
  rw [hfirst] at halike
  obtain ⟨other, hother, htext⟩ := halike.exists_ok
  exact ⟨hkeyed, hdeclares, _, other, hfirst, hother, htext⟩

end FaultTree
end FaultTreeExchange
