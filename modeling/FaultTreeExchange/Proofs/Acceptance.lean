import FaultTreeExchange.Proofs.GateGraph

/-!
# Which documents are accepted

Each check decides one requirement, given that the ones before it hold: it succeeds exactly when the
document meets the requirement, and fails with a fault of it. So a document has a tree exactly when
it is sound, and the fault of any other document belongs to the first requirement it violates.
-/

namespace FaultTreeExchange
open Relation

/-- The check succeeds exactly when the property holds, and its faults report the requirement. -/
structure Decides {α : Type} (check : Except Diagnostic α) (requirement : Requirement)
    (property : Prop) : Prop where
  ok_iff : (∃ result, check = .ok result) ↔ property
  reports : ∀ diagnostic, check = .error diagnostic →
    diagnostic.fault.requirement? = some requirement

namespace FaultTree

variable {document : Document} {multiTop : Bool}

/-! ### Repeated arguments -/

lemma decides_build :
    Decides (build document) .distinctArguments document.DistinctArguments where
  ok_iff := by
    constructor
    · rintro ⟨tree, htree⟩
      exact (build_eq_ok_iff.mp htree).1
    · intro hdistinct
      exact ⟨ofBuild document, build_eq_ok_iff.mpr ⟨hdistinct, rfl⟩⟩
  reports := by
    intro diagnostic hbuild
    have hcheck : document.gates.forM GateDefinition.checkRepeated = .error diagnostic := by
      unfold build at hbuild
      cases hresult : document.gates.forM GateDefinition.checkRepeated with
      | ok => simp [hresult, bind, Except.bind, pure, Except.pure] at hbuild
      | error found => simpa [hresult, bind, Except.bind] using hbuild
    obtain ⟨definition, -, hdefinition⟩ := forM_eq_error hcheck
    unfold GateDefinition.checkRepeated at hdefinition
    split at hdefinition
    · cases hdefinition
    · cases hdefinition
      rfl

/-! ### Redefinitions -/

lemma firstRedefinition_eq_none_iff (seen : List (String × Declaration))
    (declarations : List Declaration) :
    firstRedefinition seen declarations = none ↔
      Fresh (fun declaration => Name.key declaration.name) (seen.map Prod.fst) declarations := by
  induction declarations generalizing seen with
  | nil => simp [firstRedefinition, Fresh]
  | cons declaration rest ih =>
    rw [fresh_cons_iff, firstRedefinition]
    cases hlookup : seen.lookup (Name.key declaration.name) with
    | none =>
      have hnew : Name.key declaration.name ∉ seen.map Prod.fst :=
        lookup_eq_none_iff_notMem.mp hlookup
      rw [ih, List.map_cons]
      exact ⟨fun hrest => ⟨hnew, hrest⟩, fun h => h.2⟩
    | some first =>
      have hold : Name.key declaration.name ∈ seen.map Prod.fst := by
        by_contra hnew
        rw [lookup_eq_none_iff_notMem.mpr hnew] at hlookup
        cases hlookup
      simp only [reduceCtorEq, false_iff]
      exact fun h => h.1 hold

lemma declaredEvents_ofBuild (document : Document) :
    (ofBuild document).declaredEvents = (ofDeclarations document).basicEvents := by
  unfold declaredEvents ofBuild addUndefined ofDeclarations
  rw [List.filter_append, List.filter_eq_self.mpr, List.filter_eq_nil_iff.mpr, List.append_nil]
  · intro event hevent
    obtain ⟨mention, -, rfl⟩ := List.mem_map.mp hevent
    simp [BasicEvent.isDeclared]
  · intro event hevent
    obtain ⟨assignment, -, rfl⟩ := List.mem_map.mp hevent
    simp [BasicEvent.isDeclared]

lemma undefinedEvents_ofBuild (document : Document) :
    (ofBuild document).undefinedEvents =
      document.undeclared.map fun mention => ⟨mention.1, none, .undefined, mention.2⟩ := by
  simp [undefinedEvents, ofBuild, addUndefined, ofDeclarations, BasicEvent.isDeclared,
    List.filter_map, Function.comp_def]

lemma keys_declarations (document : Document) :
    (ofBuild document).declarations.map (fun declaration => Name.key declaration.name) =
      document.declaredKeys := by
  unfold declarations Document.declaredKeys Document.declaredNames
  rw [declaredEvents_ofBuild]
  simp [ofBuild, addUndefined, ofDeclarations, GateDefinition.toGate, Function.comp_def]

lemma checkRedefinitions_eq_ok_iff (tree : FaultTree) :
    tree.checkRedefinitions = .ok () ↔
      (tree.declarations.map fun declaration => Name.key declaration.name).Nodup := by
  have hperm : tree.sortedDeclarations.Perm tree.declarations := List.mergeSort_perm _ _
  have hnone := firstRedefinition_eq_none_iff [] tree.sortedDeclarations
  rw [List.map_nil, fresh_nil_iff, (hperm.map _).nodup_iff] at hnone
  rw [← hnone, checkRedefinitions]
  cases firstRedefinition [] tree.sortedDeclarations with
  | none => simp
  | some pair => simp

lemma decides_checkRedefinitions :
    Decides (ofBuild document).checkRedefinitions .distinctDeclarations
      document.DistinctDeclarations where
  ok_iff := by
    rw [Document.DistinctDeclarations, ← keys_declarations, ← checkRedefinitions_eq_ok_iff]
    exact ⟨fun ⟨_, hcheck⟩ => hcheck, fun hcheck => ⟨(), hcheck⟩⟩
  reports := by
    intro diagnostic hcheck
    unfold checkRedefinitions at hcheck
    split at hcheck
    · cases hcheck
    · cases hcheck
      rfl

/-! ### Names and operands -/

lemma map_name_nameUses (document : Document) :
    (ofBuild document).nameUses.map NameUse.name =
      document.name :: (document.gates.map GateDefinition.name ++
        (document.probabilities.map ProbabilityAssignment.name ++
          document.undeclared.map Prod.fst) ++
        document.states.map StateAssignment.name) := by
  simp [nameUses, ofBuild, addUndefined, ofDeclarations, GateDefinition.toGate, Function.comp_def]

lemma validNames_iff :
    document.ValidNames ↔ ∀ use ∈ (ofBuild document).nameUses, Name.isValid use.name = true := by
  have hnames : (∀ use ∈ (ofBuild document).nameUses, Name.isValid use.name = true) ↔
      ∀ name ∈ (ofBuild document).nameUses.map NameUse.name, Name.isValid name = true := by
    simp
  rw [hnames, map_name_nameUses]
  constructor
  · intro h name hname
    rcases List.mem_cons.mp hname with rfl | hname
    · exact h.tree
    simp only [List.mem_append] at hname
    rcases hname with (hgate | hprobability | hundeclared) | hstate
    · exact h.declared name (List.mem_append_left _ (List.mem_append_left _ hgate))
    · exact h.declared name (List.mem_append_left _ (List.mem_append_right _ hprobability))
    · obtain ⟨hnew, hfirst⟩ := Document.mem_undeclared_names_iff.mp hundeclared
      exact h.undeclared name hfirst hnew
    · exact h.declared name (List.mem_append_right _ hstate)
  · intro h
    refine ⟨h _ List.mem_cons_self, fun name hname => ?_, fun name hfirst hnew => ?_⟩
    · refine h name (List.mem_cons_of_mem _ ?_)
      simp only [Document.declaredNames, List.mem_append] at hname ⊢
      tauto
    · refine h name (List.mem_cons_of_mem _ ?_)
      have hundeclared := Document.mem_undeclared_names_iff.mpr ⟨hnew, hfirst⟩
      simp only [List.mem_append]
      tauto

lemma checkNameFormat_eq_ok_iff (tree : FaultTree) :
    tree.checkNameFormat = .ok () ↔ ∀ use ∈ tree.nameUses, Name.isValid use.name = true := by
  have hnone : (tree.nameUses.find? fun use => !Name.isValid use.name) = none ↔
      ∀ use ∈ tree.nameUses, Name.isValid use.name = true := by
    simp
  rw [← hnone, checkNameFormat]
  cases tree.nameUses.find? fun use => !Name.isValid use.name with
  | none => simp
  | some use => simp

lemma decides_checkNameFormat :
    Decides (ofBuild document).checkNameFormat .validNames document.ValidNames where
  ok_iff := by
    rw [validNames_iff, ← checkNameFormat_eq_ok_iff]
    exact ⟨fun ⟨_, hcheck⟩ => hcheck, fun hcheck => ⟨(), hcheck⟩⟩
  reports := by
    intro diagnostic hcheck
    unfold checkNameFormat at hcheck
    split at hcheck
    · cases hcheck
    · cases hcheck
      rfl

lemma ite_none_eq_none_iff {α : Type} {p : Prop} [Decidable p] {value : α} :
    (if p then none else some value) = none ↔ p := by
  by_cases hp : p
  · rw [if_pos hp]
    exact iff_of_true rfl hp
  · rw [if_neg hp]
    exact iff_of_false (Option.some_ne_none value) hp

lemma arityFault_eq_none_iff (gate : Gate) :
    gate.arityFault = none ↔ gate.operator.Takes gate.arguments.length := by
  unfold Gate.arityFault Operator.Takes
  cases gate.operator <;> exact ite_none_eq_none_iff

lemma requirement?_arityFault {gate : Gate} {fault : TreeFault} (h : gate.arityFault = some fault) :
    (Fault.faultTree fault).requirement? = some .fittingOperands := by
  unfold Gate.arityFault at h
  cases hoperator : gate.operator <;> rw [hoperator] at h <;> dsimp only at h <;>
    split at h <;> cases h <;> rfl

lemma checkArity_toGate_eq_ok_iff (file : String) (definition : GateDefinition) :
    Gate.checkArity file definition.toGate = .ok () ↔
      definition.formula.operator.Takes definition.formula.arguments.length := by
  have hfault := arityFault_eq_none_iff definition.toGate
  rw [GateDefinition.toGate, List.length_map] at hfault
  rw [← hfault]
  unfold Gate.checkArity GateDefinition.toGate
  cases Gate.arityFault _ with
  | none => exact iff_of_true rfl rfl
  | some fault => exact iff_of_false (fun hok => by cases hok) (Option.some_ne_none fault)

lemma decides_checkArity :
    Decides (ofBuild document).checkArity .fittingOperands document.FittingOperands where
  ok_iff := by
    have hgates : (ofBuild document).gates = document.gates.map GateDefinition.toGate := rfl
    have hall := forM_eq_ok_iff (Gate.checkArity (ofBuild document).file) (ofBuild document).gates
    rw [hgates, List.forall_mem_map] at hall
    simp only [checkArity_toGate_eq_ok_iff] at hall
    unfold checkArity Document.FittingOperands
    rw [← hall, hgates]
    constructor
    · rintro ⟨_, h⟩
      exact h
    · intro h
      exact ⟨(), h⟩
  reports := by
    intro diagnostic hcheck
    obtain ⟨gate, -, hgate⟩ := forM_eq_error hcheck
    unfold Gate.checkArity at hgate
    split at hgate
    · cases hgate
    · rename_i fault hfault
      cases hgate
      exact requirement?_arityFault hfault

lemma checkDeclarations_ofBuild_eq_ok_iff :
    (ofBuild document).checkDeclarations = .ok () ↔
      document.DistinctDeclarations ∧ document.ValidNames ∧ document.FittingOperands := by
  have harity : (ofBuild document).checkArity = .ok () ↔ document.FittingOperands := by
    rw [← decides_checkArity.ok_iff]
    exact ⟨fun h => ⟨(), h⟩, fun ⟨_, h⟩ => h⟩
  unfold checkDeclarations
  simp only [bind_eq_ok_iff, exists_and_right, decides_checkRedefinitions.ok_iff,
    decides_checkNameFormat.ok_iff, harity]

lemma checkDeclarations_ofBuild (hkeys : document.declaredKeys.Nodup)
    (hnames : ∀ use ∈ (ofBuild document).nameUses, Name.isValid use.name = true)
    (hoperands : ∀ definition ∈ document.gates,
      definition.formula.operator.Takes definition.formula.arguments.length) :
    (ofBuild document).checkDeclarations = .ok () :=
  checkDeclarations_ofBuild_eq_ok_iff.mpr ⟨hkeys, validNames_iff.mpr hnames, hoperands⟩

/-! ### Cycles and top gates -/

lemma requirement?_noteMissingTop {tree : FaultTree} {diagnostic : Diagnostic}
    (h : diagnostic.fault.requirement? = some .acyclic) :
    (tree.noteMissingTop diagnostic).fault.requirement? = some .acyclic := by
  unfold noteMissingTop
  split
  · split
    · rfl
    · exact h
  · exact h

/-- The search for cycles with the diagnostics of a validation. -/
def checkAcyclic (tree : FaultTree) : Except Diagnostic Unit :=
  tree.checkCycles.mapError tree.noteMissingTop

lemma decides_checkAcyclic (h : document.DistinctDeclarations) :
    Decides (ofBuild document).resolve.checkAcyclic .acyclic document.Acyclic where
  ok_iff := by
    rw [← acyclic_gateGraph_iff h, ← GateCycle.find?_eq_none_iff, checkAcyclic, checkCycles]
    cases GateCycle.find? (ofBuild document).resolve.gateGraph with
    | none => simp [Except.mapError]
    | some cycle => simp [Except.mapError]
  reports := by
    intro diagnostic hcheck
    unfold checkAcyclic checkCycles at hcheck
    split at hcheck
    · cases hcheck
    · cases hcheck
      exact requirement?_noteMissingTop rfl

lemma decides_findRoots (h : document.DistinctDeclarations) (hacyclic : document.Acyclic) :
    Decides ((ofBuild document).resolve.findRoots multiTop) .top (document.HasTop multiTop) where
  ok_iff := by
    have hgates : (ofBuild document).resolve.gates ≠ [] ↔ document.gates ≠ [] := by
      rw [gates_resolve_ofBuild, ne_eq, List.map_eq_nil_iff]
    have htop := topCandidates_ne_nil ((acyclic_gateGraph_iff h).mpr hacyclic)
    simp only [findRoots_eq_ok_iff htop, hgates, length_topCandidates h, exists_and_left,
      exists_eq, and_true]
    rfl
  reports := by
    intro diagnostic hcheck
    unfold findRoots at hcheck
    split at hcheck
    · cases hcheck
      rfl
    · split at hcheck
      · cases hcheck
        rfl
      · cases hcheck
      · split at hcheck
        · cases hcheck
        · cases hcheck
          rfl

/-! ### All checks in their order -/

def HoldBelow (document : Document) (multiTop : Bool) (rank : Nat) : Prop :=
  ∀ requirement : Requirement, requirement.rank < rank → requirement.Holds document multiTop

/-- The diagnostic reports a violated requirement, and the requirements before it hold. -/
def FirstViolated (document : Document) (multiTop : Bool) (diagnostic : Diagnostic) : Prop :=
  ∃ requirement : Requirement, diagnostic.fault.requirement? = some requirement ∧
    ¬requirement.Holds document multiTop ∧ HoldBelow document multiTop requirement.rank

/-- Given the requirements below the first rank, the check establishes those below the last one, or
reports the first that is violated. -/
def Judges {α : Type} (document : Document) (multiTop : Bool) (first last : Nat)
    (check : Except Diagnostic α) : Prop :=
  HoldBelow document multiTop first →
    (∀ result, check = .ok result → HoldBelow document multiTop last) ∧
      ∀ diagnostic, check = .error diagnostic → FirstViolated document multiTop diagnostic

lemma HoldBelow.succ {requirement : Requirement}
    (h : HoldBelow document multiTop requirement.rank)
    (hholds : requirement.Holds document multiTop) :
    HoldBelow document multiTop (requirement.rank + 1) := by
  intro other hother
  rcases Nat.lt_succ_iff_lt_or_eq.mp hother with hlt | heq
  · exact h other hlt
  · have hsame : other = requirement := by
      cases other <;> cases requirement <;> first | rfl | cases heq
    exact hsame ▸ hholds

lemma judges_of_decides {α : Type} {check : Except Diagnostic α} (requirement : Requirement)
    (h : HoldBelow document multiTop requirement.rank →
      Decides check requirement (requirement.Holds document multiTop)) :
    Judges document multiTop requirement.rank (requirement.rank + 1) check := by
  intro hbelow
  have hdecides := h hbelow
  constructor
  · intro result hresult
    exact hbelow.succ (hdecides.ok_iff.mp ⟨result, hresult⟩)
  · intro diagnostic hdiagnostic
    refine ⟨requirement, hdecides.reports diagnostic hdiagnostic, fun hholds => ?_, hbelow⟩
    obtain ⟨result, hresult⟩ := hdecides.ok_iff.mpr hholds
    rw [hresult] at hdiagnostic
    cases hdiagnostic

lemma Judges.bind {α β : Type} {first middle last : Nat} {check : Except Diagnostic α}
    {next : α → Except Diagnostic β} (hcheck : Judges document multiTop first middle check)
    (hnext : ∀ result, check = .ok result → Judges document multiTop middle last (next result)) :
    Judges document multiTop first last (check >>= next) := by
  intro hbelow
  obtain ⟨hok, herror⟩ := hcheck hbelow
  cases hresult : check with
  | ok result => exact hnext result hresult (hok result hresult)
  | error diagnostic =>
    constructor
    · intro result hbind
      cases hbind
    · intro other hother
      cases hother
      exact herror diagnostic hresult

lemma ofDocument_eq (document : Document) (multiTop : Bool) :
    ofDocument document multiTop = do
      let tree ← build document
      tree.checkRedefinitions
      tree.checkNameFormat
      tree.checkArity
      tree.resolve.checkAcyclic
      let roots ← tree.resolve.findRoots multiTop
      return { tree.resolve with roots } := by
  unfold ofDocument
  congr 1
  funext tree
  unfold validate checkDeclarations checkGraph checkAcyclic
  cases tree.checkRedefinitions with
  | error => rfl
  | ok =>
    cases tree.checkNameFormat with
    | error => rfl
    | ok =>
      cases tree.checkArity with
      | error => rfl
      | ok =>
        dsimp only [bind, Except.bind]
        cases tree.resolve.checkCycles with
        | error => rfl
        | ok =>
          cases tree.resolve.findRoots multiTop <;> simp [Except.mapError]

lemma holdBelow_one : HoldBelow document multiTop 1 := by
  intro requirement hlt
  cases requirement <;> simp [Requirement.rank] at hlt

lemma judges_ofDocument (document : Document) (multiTop : Bool) :
    Judges document multiTop 1 7 (ofDocument document multiTop) := by
  rw [ofDocument_eq]
  have hbuild : Judges document multiTop 1 2 (build document) :=
    judges_of_decides .distinctArguments fun _ => decides_build
  have hredefinitions : Judges document multiTop 2 3 (ofBuild document).checkRedefinitions :=
    judges_of_decides .distinctDeclarations fun _ => decides_checkRedefinitions
  have hnames : Judges document multiTop 3 4 (ofBuild document).checkNameFormat :=
    judges_of_decides .validNames fun _ => decides_checkNameFormat
  have harity : Judges document multiTop 4 5 (ofBuild document).checkArity :=
    judges_of_decides .fittingOperands fun _ => decides_checkArity
  have hacyclic : Judges document multiTop 5 6 (ofBuild document).resolve.checkAcyclic :=
    judges_of_decides .acyclic fun hbelow =>
      decides_checkAcyclic (hbelow .distinctDeclarations (by decide))
  have htop : Judges document multiTop 6 7 ((ofBuild document).resolve.findRoots multiTop) :=
    judges_of_decides .top fun hbelow =>
      decides_findRoots (hbelow .distinctDeclarations (by decide)) (hbelow .acyclic (by decide))
  refine hbuild.bind fun tree htree => ?_
  rw [(build_eq_ok_iff.mp htree).2]
  refine hredefinitions.bind fun _ _ => hnames.bind fun _ _ => harity.bind fun _ _ =>
    hacyclic.bind fun _ _ => htop.bind fun roots _ => ?_
  intro hbelow
  exact ⟨fun _ _ => hbelow, fun _ hdiagnostic => by cases hdiagnostic⟩

def ofSound (document : Document) : FaultTree :=
  { (ofBuild document).resolve with roots := (ofBuild document).resolve.topCandidates }

lemma eq_ofSound_of_ofDocument {tree : FaultTree}
    (h : ofDocument document multiTop = .ok tree) : tree = ofSound document := by
  unfold ofDocument at h
  cases hbuild : build document with
  | error diagnostic =>
    rw [hbuild] at h
    cases h
  | ok built =>
    rw [hbuild, (build_eq_ok_iff.mp hbuild).2] at h
    dsimp only [bind, Except.bind] at h
    rcases validate_cases (ofBuild document) multiTop with
      ⟨_, -, hvalidate⟩ | ⟨_, -, -, hvalidate⟩ | ⟨roots, -, hgraph, hvalidate⟩
    · rw [hvalidate] at h
      cases h
    · rw [hvalidate] at h
      cases h
    · rw [hvalidate] at h
      obtain ⟨-, -, -, rfl⟩ := checkGraph_eq_ok_iff.mp hgraph
      cases h
      rfl

theorem ofDocument_eq_ok_iff {tree : FaultTree} :
    ofDocument document multiTop = .ok tree ↔
      document.Sound multiTop ∧ tree = ofSound document := by
  obtain ⟨haccepts, hrejects⟩ := judges_ofDocument document multiTop holdBelow_one
  constructor
  · intro htree
    have hbelow := haccepts tree htree
    refine ⟨Document.sound_iff.mpr fun requirement => hbelow requirement ?_,
      eq_ofSound_of_ofDocument htree⟩
    cases requirement <;> decide
  · rintro ⟨hsound, rfl⟩
    cases hresult : ofDocument document multiTop with
    | ok tree => rw [eq_ofSound_of_ofDocument hresult]
    | error diagnostic =>
      obtain ⟨requirement, -, hviolated, -⟩ := hrejects diagnostic hresult
      exact absurd (Document.sound_iff.mp hsound requirement) hviolated

/-- Soundness can be computed: the conditions on the tree stand for those that quantify over all
names and over all ways through the gates. -/
lemma sound_iff_checks :
    document.Sound multiTop ↔
      (∀ definition ∈ document.gates, (definition.formula.arguments.map Reference.mark).Nodup) ∧
      document.declaredKeys.Nodup ∧
      (∀ use ∈ (ofBuild document).nameUses, Name.isValid use.name = true) ∧
      (∀ definition ∈ document.gates,
        definition.formula.operator.Takes definition.formula.arguments.length) ∧
      GateCycle.find? (ofBuild document).resolve.gateGraph = none ∧
      document.gates ≠ [] ∧ (multiTop = false → document.topGates.length = 1) := by
  rw [← validNames_iff, GateCycle.find?_eq_none_iff]
  constructor
  · intro h
    exact ⟨h.distinctArguments, h.distinctDeclarations, h.validNames, h.fittingOperands,
      (acyclic_gateGraph_iff h.distinctDeclarations).mpr h.acyclic, h.top⟩
  · rintro ⟨harguments, hdeclarations, hnames, hoperands, hacyclic, htop⟩
    exact ⟨harguments, hdeclarations, hnames, hoperands,
      (acyclic_gateGraph_iff hdeclarations).mp hacyclic, htop⟩

instance (document : Document) (multiTop : Bool) : Decidable (document.Sound multiTop) :=
  decidable_of_iff _ sound_iff_checks.symm

/-- A document has a tree exactly when it meets every requirement, and the fault of any other
document reports the first requirement that it violates. -/
theorem accepts_sound_and_reports_first_violated (document : Document) (multiTop : Bool) :
    ((∃ tree, ofDocument document multiTop = .ok tree) ↔
      ∀ requirement : Requirement, requirement.Holds document multiTop) ∧
    ∀ diagnostic, ofDocument document multiTop = .error diagnostic →
      ∃ requirement : Requirement, diagnostic.fault.requirement? = some requirement ∧
        ¬requirement.Holds document multiTop ∧
        ∀ earlier : Requirement, earlier.rank < requirement.rank →
          earlier.Holds document multiTop := by
  rw [← Document.sound_iff]
  constructor
  · constructor
    · rintro ⟨tree, htree⟩
      exact (ofDocument_eq_ok_iff.mp htree).1
    · intro hsound
      exact ⟨ofSound document, ofDocument_eq_ok_iff.mpr ⟨hsound, rfl⟩⟩
  · exact (judges_ofDocument document multiTop holdBelow_one).2

end FaultTree

lemma translate_eq_ok {source file : String} {multiTop : Bool} {tree : FaultTree}
    (h : translate source file multiTop = .ok tree) :
    ∃ document, Document.parse source file = .ok document ∧
      FaultTree.ofDocument document multiTop = .ok tree := by
  unfold translate at h
  cases hparse : Document.parse source file with
  | error diagnostic =>
    rw [hparse] at h
    cases h
  | ok document =>
    rw [hparse] at h
    exact ⟨document, rfl, h⟩

lemma translate_of_sound {source file : String} {multiTop : Bool} {document : Document}
    (hparse : Document.parse source file = .ok document) (hsound : document.Sound multiTop) :
    translate source file multiTop = .ok (FaultTree.ofSound document) := by
  unfold translate
  rw [hparse]
  exact FaultTree.ofDocument_eq_ok_iff.mpr ⟨hsound, rfl⟩

/-! ### A sample -/

/-- A tree with declared events, an undefined one, a vote, and names in two letter cases. -/
def sampleSource : String :=
  "Plant\nTop := Pump & ~Valve\nValve := @(1, [pump, Spare, Mains])\np(Pump) = 0.25\ns(Mains) = true"

def sampleDocument : Document where
  name := "Plant"
  place := ⟨"plant.ft", 1⟩
  gates := [⟨"Top", ⟨.and, [⟨"Pump", false⟩, ⟨"Valve", true⟩]⟩, ⟨"plant.ft", 2⟩⟩,
    ⟨"Valve", ⟨.atLeast 1, [⟨"pump", false⟩, ⟨"Spare", false⟩, ⟨"Mains", false⟩]⟩,
      ⟨"plant.ft", 3⟩⟩]
  probabilities := [⟨"Pump", Binary64.ofRank false 0x3FD0000000000000, ⟨"plant.ft", 4⟩⟩]
  states := [⟨"Mains", true, ⟨"plant.ft", 5⟩⟩]

lemma parse_sampleSource : Document.parse sampleSource "plant.ft" = .ok sampleDocument := by
  decide +kernel

lemma sound_sampleDocument : sampleDocument.Sound false := by
  decide +kernel

lemma translate_sampleSource :
    translate sampleSource "plant.ft" false = .ok (FaultTree.ofSound sampleDocument) :=
  translate_of_sound parse_sampleSource sound_sampleDocument

/-- A document whose only formula names an event in two letter cases. -/
def repeatingDocument : Document where
  name := "Plant"
  place := ⟨"plant.ft", 1⟩
  gates := [⟨"Top", ⟨.and, [⟨"Pump", false⟩, ⟨"PUMP", false⟩]⟩, ⟨"plant.ft", 2⟩⟩]
  probabilities := []
  states := []

namespace FaultTree

/-- The sample has a tree, and the repeating document violates a first requirement. -/
theorem sample_accepted_and_repetition_reported :
    (∃ tree, ofDocument sampleDocument false = .ok tree) ∧
    ∃ requirement : Requirement,
      (Fault.faultTree (.repeatedArgument "PUMP" "Top")).requirement? = some requirement ∧
      ¬requirement.Holds repeatingDocument false ∧
      ∀ earlier : Requirement, earlier.rank < requirement.rank →
        earlier.Holds repeatingDocument false := by
  have hrepeats : ofDocument repeatingDocument false =
      .error ⟨.faultTree (.repeatedArgument "PUMP" "Top"), "plant.ft", 2⟩ := by
    decide +kernel
  constructor
  · exact (accepts_sound_and_reports_first_violated sampleDocument false).1.mpr
      (Document.sound_iff.mp sound_sampleDocument)
  · exact (accepts_sound_and_reports_first_violated repeatingDocument false).2 _ hrepeats

end FaultTree
end FaultTreeExchange
