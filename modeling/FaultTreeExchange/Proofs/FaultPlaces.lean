import FaultTreeExchange.Proofs.CycleReports
import FaultTreeExchange.Proofs.DocumentGrammar
import FaultTreeExchange.Proofs.GateGraph

/-!
# Where faults are found

Every place that a document or a tree keeps is that of a significant line of the source, and every
check reports one of the places it is given. Only a source without significant lines and a tree without
gates are reported as a whole.
-/

namespace FaultTreeExchange

open Text

/-- The diagnostic tells of a fault in the file, on one of the lines. -/
structure Diagnostic.StandsOn (file : String) (lines : List Nat) (diagnostic : Diagnostic) : Prop where
  file : diagnostic.file = file
  line : diagnostic.line ∈ lines

lemma Diagnostic.StandsOn.mono {file : String} {lines others : List Nat} {diagnostic : Diagnostic}
    (h : diagnostic.StandsOn file lines) (hlines : lines ⊆ others) : diagnostic.StandsOn file others :=
  ⟨h.file, hlines h.line⟩

/-- The place of a statement. -/
def Statement.place : Statement → Place
  | .gate definition => definition.place
  | .probability assignment => assignment.place
  | .state assignment => assignment.place

lemma Statement.WrittenAs.place_eq {statement : Statement} {place : Place} {text : List Char}
    (h : statement.WrittenAs place text) : statement.place = place := by
  obtain ⟨-, tokens, -, hspelled⟩ := h
  cases hspelled <;> rfl

namespace Document

variable {source file name : String} {gateSeen : Bool} {lines : List Line} {document : Document}
  {diagnostic : Diagnostic}

/-! ### Faults of lines -/

lemma standsOn_of_readLine {line : Line} (h : readLine file name gateSeen line = .error diagnostic) :
    diagnostic.StandsOn file [line.number] := by
  unfold readLine at h
  split at h
  · cases h
    exact ⟨rfl, List.mem_singleton_self _⟩
  · split at h
    · cases h
    · cases h
      exact ⟨rfl, List.mem_singleton_self _⟩

lemma standsOn_of_readLines (h : readLines file name gateSeen lines = .error diagnostic) :
    diagnostic.StandsOn file (lines.map Line.number) := by
  induction lines generalizing gateSeen with
  | nil => cases h
  | cons line rest ih =>
    rw [List.map_cons]
    rw [readLines] at h
    rcases bind_eq_error_iff.mp h with hline | ⟨statement, -, h⟩
    · exact (standsOn_of_readLine hline).mono (List.cons_subset_cons _ (List.nil_subset _))
    · rcases bind_eq_error_iff.mp h with hrest | ⟨statements, -, h⟩
      · exact (ih hrest).mono (List.subset_cons_self _ _)
      · cases h

lemma standsOn_of_parse (h : parse source file = .error diagnostic) :
    (statementLines source = [] ∧ diagnostic = ⟨.format .emptyDocument, file, 0⟩) ∨
      diagnostic.StandsOn file ((statementLines source).map Line.number) := by
  unfold parse at h
  split at h
  · rename_i hnone
    cases h
    exact .inl ⟨hnone, rfl⟩
  · rename_i first rest hlines
    right
    rw [hlines, List.map_cons]
    split at h
    · rcases bind_eq_error_iff.mp h with hrest | ⟨statements, -, h⟩
      · exact (standsOn_of_readLines hrest).mono (List.subset_cons_self _ _)
      · cases h
    · cases h
      exact ⟨rfl, List.mem_cons_self⟩

/-! ### Places of statements -/

/-- The places of the name and of the statements. -/
def places (document : Document) : List Place :=
  document.place :: (document.gates.map GateDefinition.place ++
    document.probabilities.map ProbabilityAssignment.place ++
    document.states.map StateAssignment.place)

lemma mem_places_ofStatements {statements : List Statement} {first found : Place}
    (h : found ∈ (ofStatements name first statements).places) :
    found = first ∨ ∃ statement ∈ statements, statement.place = found := by
  unfold places ofStatements at h
  simp only [List.mem_cons, List.mem_append, List.mem_map, List.mem_filterMap] at h
  rcases h with rfl | (⟨_, ⟨statement, hstatement, hsome⟩, rfl⟩ |
    ⟨_, ⟨statement, hstatement, hsome⟩, rfl⟩) | ⟨_, ⟨statement, hstatement, hsome⟩, rfl⟩
  · exact .inl rfl
  all_goals
    refine .inr ⟨statement, hstatement, ?_⟩
    cases statement <;> cases hsome
    rfl

lemma place_of_parse (h : parse source file = .ok document) :
    ∀ place ∈ document.places,
      place.file = file ∧ place.line ∈ (statementLines source).map Line.number := by
  obtain ⟨first, later, statements, hlines, -, hstatements, rfl⟩ := parse_eq_ok_iff.mp h
  intro place hplace
  rw [hlines]
  rcases mem_places_ofStatements hplace with rfl | ⟨statement, hstatement, rfl⟩
  · exact ⟨rfl, List.mem_map_of_mem List.mem_cons_self⟩
  · obtain ⟨line, hline, hwritten⟩ := exists_line hstatements hstatement
    rw [hwritten.place_eq]
    exact ⟨rfl, List.mem_map_of_mem (List.mem_cons_of_mem _ hline)⟩

end Document

/-! ### Faults of trees -/

namespace FaultTree

variable {tree : FaultTree} {document : Document} {diagnostic : Diagnostic} {multiTop : Bool}

/-- The lines of all that has a name in a tree. -/
def lines (tree : FaultTree) : List Nat :=
  tree.nameUses.map NameUse.line

lemma line_mem_lines {gate : Gate} (h : gate ∈ tree.gates) : gate.line ∈ tree.lines := by
  refine List.mem_map.mpr ⟨⟨.gate, gate.name, gate.line⟩, List.mem_cons_of_mem _ ?_, rfl⟩
  exact List.mem_append_left _ (List.mem_append_left _ (List.mem_map_of_mem h))

lemma gateLine_mem_lines {index : Nat} (h : index < tree.gates.length) :
    tree.gateLine index ∈ tree.lines := by
  unfold gateLine
  rw [List.getElem?_eq_getElem h]
  exact line_mem_lines (List.getElem_mem h)

lemma line_declaration_mem_lines {declaration : Declaration} (h : declaration ∈ tree.declarations) :
    declaration.line ∈ tree.lines := by
  unfold declarations declaredEvents at h
  unfold lines nameUses
  simp only [List.mem_append, List.mem_map, List.mem_filter] at h
  simp only [List.map_cons, List.map_append, List.map_map, List.mem_cons, List.mem_append,
    List.mem_map, Function.comp_apply]
  rcases h with (⟨gate, hgate, rfl⟩ | ⟨event, ⟨hevent, -⟩, rfl⟩) | ⟨event, hevent, rfl⟩
  · exact .inr (.inl (.inl ⟨gate, hgate, rfl⟩))
  · exact .inr (.inl (.inr ⟨event, hevent, rfl⟩))
  · exact .inr (.inr ⟨event, hevent, rfl⟩)

lemma mem_of_firstRedefinition {seen : List (String × Declaration)} {declarations : List Declaration}
    {first second : Declaration} (h : firstRedefinition seen declarations = some (first, second)) :
    second ∈ declarations := by
  induction declarations generalizing seen with
  | nil => cases h
  | cons declaration rest ih =>
    unfold firstRedefinition at h
    dsimp only at h
    split at h
    · cases h
      exact List.mem_cons_self
    · exact List.mem_cons_of_mem _ (ih h)

lemma standsOn_of_checkRedefinitions (h : tree.checkRedefinitions = .error diagnostic) :
    diagnostic.StandsOn tree.file tree.lines := by
  unfold checkRedefinitions at h
  split at h
  · cases h
  · rename_i first second hfound
    cases h
    have hmem : second ∈ tree.declarations :=
      (List.mergeSort_perm _ _).mem_iff.mp (mem_of_firstRedefinition hfound)
    exact ⟨rfl, line_declaration_mem_lines hmem⟩

lemma standsOn_of_checkNameFormat (h : tree.checkNameFormat = .error diagnostic) :
    diagnostic.StandsOn tree.file tree.lines := by
  unfold checkNameFormat at h
  split at h
  · cases h
  · rename_i use hfound
    cases h
    exact ⟨rfl, List.mem_map_of_mem (List.mem_of_find?_eq_some hfound)⟩

lemma standsOn_of_checkArity (h : tree.checkArity = .error diagnostic) :
    diagnostic.StandsOn tree.file tree.lines := by
  obtain ⟨gate, hgate, hcheck⟩ := forM_eq_error h
  unfold Gate.checkArity at hcheck
  split at hcheck
  · cases hcheck
  · cases hcheck
    exact ⟨rfl, line_mem_lines hgate⟩

lemma standsOn_of_checkDeclarations (h : tree.checkDeclarations = .error diagnostic) :
    diagnostic.StandsOn tree.file tree.lines := by
  rcases bind_eq_error_iff.mp h with hredefinitions | ⟨-, -, h⟩
  · exact standsOn_of_checkRedefinitions hredefinitions
  · rcases bind_eq_error_iff.mp h with hnames | ⟨-, -, harity⟩
    · exact standsOn_of_checkNameFormat hnames
    · exact standsOn_of_checkArity harity

lemma standsOn_of_checkCycles (h : tree.checkCycles = .error diagnostic) :
    diagnostic.StandsOn tree.file tree.lines := by
  unfold checkCycles at h
  split at h
  · cases h
  · rename_i cycle hfound
    cases h
    have hcycle := GateCycle.isCycle_of_find?_eq_some hfound
    obtain ⟨target, hedge⟩ := hcycle.exists_edge cycle.last cycle.last_mem
    exact ⟨rfl, gateLine_mem_lines (length_gateGraph tree ▸ hedge.lt_length)⟩

lemma standsOn_noteMissingTop {file : String} {lines : List Nat} (h : diagnostic.StandsOn file lines) :
    (tree.noteMissingTop diagnostic).StandsOn file lines := by
  unfold noteMissingTop
  split
  · split
    · exact ⟨h.file, h.line⟩
    · exact h
  · exact h

/-- Where no gate leads back to itself, the only fault without a line is that there are no gates. -/
lemma standsOn_of_findRoots (hacyclic : GateCycle.Acyclic tree.gateGraph)
    (h : tree.findRoots multiTop = .error diagnostic) :
    (tree.gates = [] ∧ diagnostic = ⟨.faultTree .noGates, tree.file, 0⟩) ∨
      diagnostic.StandsOn tree.file tree.lines := by
  unfold findRoots at h
  split at h
  · rename_i hgates
    cases h
    exact .inl ⟨List.isEmpty_iff.mp hgates, rfl⟩
  · rename_i hgates
    right
    split at h
    · rename_i hnone
      exact absurd hnone (topCandidates_ne_nil hacyclic (mt List.isEmpty_iff.mpr hgates))
    · cases h
    · rename_i first second rest hcandidates
      split at h
      · cases h
      · cases h
        have hsecond : second ∈ tree.topCandidates := by
          rw [hcandidates]
          exact List.mem_cons_of_mem _ List.mem_cons_self
        exact ⟨rfl, gateLine_mem_lines (mem_topCandidates_iff.mp hsecond).1⟩

lemma standsOn_of_checkGraph (h : tree.checkGraph multiTop = .error diagnostic) :
    (tree.checkCycles = .ok () ∧ tree.gates = [] ∧
      diagnostic = ⟨.faultTree .noGates, tree.file, 0⟩) ∨
      diagnostic.StandsOn tree.file tree.lines := by
  unfold checkGraph at h
  split at h
  · rename_i found hfound
    cases h
    exact .inr (standsOn_noteMissingTop (standsOn_of_checkCycles hfound))
  · rename_i hnone
    have hacyclic := checkCycles_eq_ok_iff.mp hnone
    rcases standsOn_of_findRoots hacyclic h with ⟨hgates, hdiagnostic⟩ | hstands
    · exact .inl ⟨hnone, hgates, hdiagnostic⟩
    · exact .inr hstands

/-! ### Lines of a document in its tree -/

lemma standsOn_of_build {file : String} {lines : List Nat}
    (hplaces : ∀ place ∈ document.places, place.file = file ∧ place.line ∈ lines)
    (h : build document = .error diagnostic) : diagnostic.StandsOn file lines := by
  rcases bind_eq_error_iff.mp h with hcheck | ⟨-, -, h⟩
  · obtain ⟨definition, hdefinition, hrepeated⟩ := forM_eq_error hcheck
    have hplace := hplaces definition.place (List.mem_cons_of_mem _
      (List.mem_append_left _ (List.mem_append_left _ (List.mem_map_of_mem hdefinition))))
    unfold GateDefinition.checkRepeated at hrepeated
    split at hrepeated
    · cases hrepeated
    · cases hrepeated
      exact ⟨hplace.1, hplace.2⟩
  · cases h

lemma lines_ofBuild (document : Document) :
    (ofBuild document).lines ⊆ document.places.map Place.line := by
  have hundeclared : ∀ mention ∈ document.undeclared,
      ∃ definition ∈ document.gates, definition.place.line = mention.2 := by
    intro mention hmention
    obtain ⟨-, before, after, hsplit, -⟩ := mem_firstMentions_iff.mp hmention
    have hmem : mention ∈ mentions document := by
      rw [hsplit]
      exact List.mem_append_right _ List.mem_cons_self
    obtain ⟨definition, hdefinition, hargument⟩ := List.mem_flatMap.mp hmem
    obtain ⟨reference, -, rfl⟩ := List.mem_map.mp hargument
    exact ⟨definition, hdefinition, rfl⟩
  intro line hline
  unfold lines nameUses ofBuild addUndefined ofDeclarations GateDefinition.toGate at hline
  unfold Document.places
  simp only [List.map_cons, List.map_append, List.map_map, List.mem_cons, List.mem_append,
    List.mem_map, Function.comp_apply] at hline ⊢
  rcases hline with hname | (hgate | hprobability | ⟨mention, hmention, rfl⟩) | hstate
  · exact .inl hname
  · exact .inr (.inl (.inl hgate))
  · exact .inr (.inl (.inr hprobability))
  · exact .inr (.inl (.inl (hundeclared mention hmention)))
  · exact .inr (.inr hstate)

lemma lines_resolve_ofBuild (document : Document) :
    (ofBuild document).resolve.lines = (ofBuild document).lines := by
  rw [(namesAgree_ofBuild document).resolve_eq]
  unfold lines nameUses
  simp only [List.map_map]
  rfl

lemma file_resolve_ofBuild (document : Document) :
    (ofBuild document).resolve.file = document.place.file := by
  rw [(namesAgree_ofBuild document).resolve_eq]
  rfl

/-- The document passes every check before the search for top gates and has no gate. -/
def LacksGatesOnly (document : Document) : Prop :=
  ∃ built, build document = .ok built ∧ built.checkDeclarations = .ok () ∧
    built.resolve.checkCycles = .ok () ∧ built.gates = []

lemma standsOn_of_ofDocument {file : String} {lines : List Nat}
    (hplaces : ∀ place ∈ document.places, place.file = file ∧ place.line ∈ lines)
    (h : ofDocument document multiTop = .error diagnostic) :
    (LacksGatesOnly document ∧ diagnostic = ⟨.faultTree .noGates, file, 0⟩) ∨
      diagnostic.StandsOn file lines := by
  have hfile : document.place.file = file := (hplaces _ List.mem_cons_self).1
  have hlines : (ofBuild document).lines ⊆ lines := fun line hline => by
    obtain ⟨place, hplace, rfl⟩ := List.mem_map.mp (lines_ofBuild document hline)
    exact (hplaces place hplace).2
  rcases bind_eq_error_iff.mp h with hbuild | ⟨built, hbuild, h⟩
  · exact .inr (standsOn_of_build hplaces hbuild)
  · obtain ⟨-, rfl⟩ := build_eq_ok_iff.mp hbuild
    rcases validate_cases (ofBuild document) multiTop with
      ⟨found, hcheck, hvalidate⟩ | ⟨found, hcheck, hgraph, hvalidate⟩ | ⟨roots, -, -, hvalidate⟩
    · rw [hvalidate] at h
      cases h
      have hstands : diagnostic.StandsOn document.place.file (ofBuild document).lines :=
        standsOn_of_checkDeclarations hcheck
      exact .inr (hfile ▸ hstands.mono hlines)
    · rw [hvalidate] at h
      cases h
      have hends := standsOn_of_checkGraph hgraph
      rw [lines_resolve_ofBuild, file_resolve_ofBuild, hfile] at hends
      rcases hends with ⟨hcycles, hgates, hdiagnostic⟩ | hstands
      · rw [gates_resolve_ofBuild, List.map_eq_nil_iff] at hgates
        have hbuilt : (ofBuild document).gates = [] := List.map_eq_nil_iff.mpr hgates
        exact .inl ⟨⟨_, hbuild, hcheck, hcycles, hbuilt⟩, hdiagnostic⟩
      · exact .inr (hstands.mono hlines)
    · rw [hvalidate] at h
      cases h

lemma ofDocument_of_lacksGatesOnly (h : LacksGatesOnly document) (multiTop : Bool) :
    ofDocument document multiTop = .error ⟨.faultTree .noGates, document.place.file, 0⟩ := by
  obtain ⟨built, hbuild, hcheck, hcycles, hgates⟩ := h
  obtain ⟨-, rfl⟩ := build_eq_ok_iff.mp hbuild
  have hnone : (ofBuild document).resolve.gates = [] := by
    rw [gates_resolve_ofBuild, List.map_eq_nil_iff]
    exact List.map_eq_nil_iff.mp hgates
  have hgraph : (ofBuild document).resolve.checkGraph multiTop =
      .error ⟨.faultTree .noGates, document.place.file, 0⟩ := by
    unfold checkGraph findRoots
    rw [hcycles, hnone, file_resolve_ofBuild]
    rfl
  unfold ofDocument
  rw [hbuild]
  dsimp only [bind, Except.bind]
  unfold validate
  rw [hcheck]
  dsimp only
  rw [hgraph]

end FaultTree

/-! ### Faults of sources -/

variable {source file : String} {multiTop : Bool} {diagnostic : Diagnostic}

lemma mem_number_significantLines_iff {number : Nat} :
    number ∈ (significantLines source).map Line.number ↔
      ∃ index raw, (sourceLines source)[index]? = some raw ∧ statementText raw ≠ [] ∧
        number = index + 1 := by
  unfold significantLines
  simp only [List.mem_map, List.mem_filterMap, Prod.exists,
    List.mem_zipIdx_iff_le_and_getElem?_sub]
  constructor
  · rintro ⟨line, ⟨raw, found, ⟨hle, hraw⟩, hline⟩, rfl⟩
    unfold significantLine? at hline
    split at hline
    · cases hline
    · rename_i htext
      cases hline
      exact ⟨found - 1, raw, hraw, htext, (Nat.sub_add_cancel hle).symm⟩
  · rintro ⟨index, raw, hraw, htext, rfl⟩
    exact ⟨⟨index + 1, statementText raw⟩, ⟨raw, index + 1, ⟨Nat.le_add_left 1 index, hraw⟩,
      if_neg htext⟩, rfl⟩

lemma significantLines_eq_nil_iff :
    significantLines source = [] ↔ ∀ raw ∈ sourceLines source, statementText raw = [] := by
  unfold significantLines
  rw [List.filterMap_eq_nil_iff]
  constructor
  · intro h raw hraw
    obtain ⟨index, hindex⟩ := List.getElem?_of_mem hraw
    have hentry : (raw, index + 1) ∈ (sourceLines source).zipIdx 1 :=
      List.mem_zipIdx_iff_le_and_getElem?_sub.mpr ⟨Nat.le_add_left 1 index, hindex⟩
    by_contra htext
    have hnone := h _ hentry
    unfold significantLine? at hnone
    rw [if_neg htext] at hnone
    cases hnone
  · rintro h ⟨raw, number⟩ hentry
    exact if_pos (h raw (List.fst_mem_of_mem_zipIdx hentry))

/-- What a source without a tree is reported for: that it has no significant line, that all it lacks
is a gate, or something on one of its significant lines. -/
lemma standsOn_of_translate (hlines : (sourceLines source).length < Nat.pow 2 32)
    (h : translate source file multiTop = .error diagnostic) :
    (significantLines source = [] ∧ diagnostic = ⟨.format .emptyDocument, file, 0⟩) ∨
    (∃ document, Document.parse source file = .ok document ∧ FaultTree.LacksGatesOnly document ∧
      diagnostic = ⟨.faultTree .noGates, file, 0⟩) ∨
    diagnostic.StandsOn file ((significantLines source).map Line.number) := by
  rw [← statementLines_eq hlines]
  rcases bind_eq_error_iff.mp h with hparse | ⟨document, hparse, h⟩
  · rcases Document.standsOn_of_parse hparse with hempty | hstands
    · exact .inl hempty
    · exact .inr (.inr hstands)
  · rcases FaultTree.standsOn_of_ofDocument (Document.place_of_parse hparse) h with
      ⟨hlacks, hdiagnostic⟩ | hstands
    · exact .inr (.inl ⟨document, hparse, hlacks, hdiagnostic⟩)
    · exact .inr (.inr hstands)

/-- Every diagnostic names the file, and either a line of the source on which something stands besides
blanks and a comment, or line 0. It is line 0 exactly when the source has no such line, or when it
passes every check before the search for its top gates and has no gate. -/
theorem translate_reports_real_place (hlines : (sourceLines source).length < Nat.pow 2 32)
    (h : translate source file multiTop = .error diagnostic) :
    diagnostic.file = file ∧
    (diagnostic.line = 0 ∨ ∃ index raw, (sourceLines source)[index]? = some raw ∧
      statementText raw ≠ [] ∧ diagnostic.line = index + 1) ∧
    (diagnostic.line = 0 ↔
      (∀ raw ∈ sourceLines source, statementText raw = []) ∨
      ∃ document built, Document.parse source file = .ok document ∧
        FaultTree.build document = .ok built ∧ built.checkDeclarations = .ok () ∧
        built.resolve.checkCycles = .ok () ∧ built.gates = []) := by
  rw [← significantLines_eq_nil_iff]
  rcases standsOn_of_translate hlines h with
    ⟨hempty, rfl⟩ | ⟨document, hparse, ⟨built, hlacks⟩, rfl⟩ | hstands
  · exact ⟨rfl, .inl rfl, iff_of_true rfl (.inl hempty)⟩
  · exact ⟨rfl, .inl rfl, iff_of_true rfl (.inr ⟨document, built, hparse, hlacks⟩)⟩
  · have hline := hstands.line
    obtain ⟨index, raw, hraw, htext, hnumber⟩ := mem_number_significantLines_iff.mp hline
    refine ⟨hstands.file, .inr ⟨index, raw, hraw, htext, hnumber⟩, iff_of_false (by omega) ?_⟩
    rintro (hempty | ⟨document, built, hparse, hlacks⟩)
    · rw [hempty] at hline
      cases hline
    · have hdiagnostic := FaultTree.ofDocument_of_lacksGatesOnly ⟨built, hlacks⟩ multiTop
      unfold translate at h
      rw [hparse] at h
      dsimp only [bind, Except.bind] at h
      rw [hdiagnostic] at h
      cases h
      cases hnumber

/-- A repeated argument is reported on its line, and a source without a gate as a whole. -/
theorem sample_faults_placed :
    (∃ diagnostic,
      translate "Plant\n# pumps\n\nTop := Pump & pump" "plant.ft" false = .error diagnostic ∧
      diagnostic.line = 4 ∧
      ∃ index raw, (sourceLines "Plant\n# pumps\n\nTop := Pump & pump")[index]? = some raw ∧
        statementText raw ≠ [] ∧ diagnostic.line = index + 1) ∧
    ∃ diagnostic, translate "Plant\np(Pump) = 0.5" "plant.ft" false = .error diagnostic ∧
      diagnostic.line = 0 ∧
      ∃ document built, Document.parse "Plant\np(Pump) = 0.5" "plant.ft" = .ok document ∧
        FaultTree.build document = .ok built ∧ built.checkDeclarations = .ok () ∧
        built.resolve.checkCycles = .ok () ∧ built.gates = [] := by
  constructor
  · have hfails : translate "Plant\n# pumps\n\nTop := Pump & pump" "plant.ft" false =
        .error ⟨.faultTree (.repeatedArgument "pump" "Top"), "plant.ft", 4⟩ := by
      decide +kernel
    obtain ⟨-, hplace, -⟩ := translate_reports_real_place (by decide +kernel) hfails
    rcases hplace with hnone | hplace
    · cases hnone
    · exact ⟨_, hfails, rfl, hplace⟩
  · have hfails : translate "Plant\np(Pump) = 0.5" "plant.ft" false =
        .error ⟨.faultTree .noGates, "plant.ft", 0⟩ := by
      decide +kernel
    obtain ⟨-, -, hwhole⟩ := translate_reports_real_place (by decide +kernel) hfails
    rcases hwhole.mp rfl with hempty | hlacks
    · have hname : statementText "Plant".toList ≠ [] := by decide +kernel
      exact absurd (hempty "Plant".toList (by decide +kernel)) hname
    · exact ⟨_, hfails, rfl, hlacks⟩

end FaultTreeExchange
