import FaultTreeExchange.Proofs.GraphReports

/-!
# What validations change

A tree that has been built, validated and given probabilities for its undefined events any number of
times is consistent, so a validation finds all of its arguments in the name table. It changes targets
and top gates at most, and how far it has come when it fails decides which of them.
-/

namespace FaultTreeExchange.FaultTree

/-- A tree that the builder has made of a document, after any operations on it. -/
inductive DerivedFrom (document : Document) : FaultTree → Prop where
  | built {tree : FaultTree} (h : build document = .ok tree) : DerivedFrom document tree
  | validated {tree : FaultTree} (h : DerivedFrom document tree) (multiTop : Bool) :
      DerivedFrom document (tree.validate multiTop).1
  | supplied {tree : FaultTree} (h : DerivedFrom document tree) (probability : Binary64) :
      DerivedFrom document (tree.setUndefinedProbability probability)

variable {document : Document} {tree : FaultTree} {multiTop : Bool}

lemma DerivedFrom.consistent (h : DerivedFrom document tree) : tree.Consistent := by
  induction h with
  | built hbuild =>
    obtain ⟨-, rfl⟩ := build_eq_ok_iff.mp hbuild
    exact consistent_ofBuild document
  | validated _ multiTop ih => exact (ih.validate multiTop).1
  | supplied _ probability ih => exact ih.setUndefinedProbability probability

lemma DerivedFrom.asBuilt_eq (h : DerivedFrom document tree) :
    tree.asBuilt = ofBuild document := by
  induction h with
  | built hbuild =>
    obtain ⟨-, rfl⟩ := build_eq_ok_iff.mp hbuild
    exact asBuilt_ofBuild document
  | validated h multiTop ih => rw [(h.consistent.validate multiTop).2, ih]
  | supplied _ probability ih => rw [asBuilt_setUndefinedProbability, ih]

/-- A validation that fails on the declarations leaves the tree as it is. One that fails on the graph
gives every argument what the table finds under its name, and one that succeeds also sets the top
gates; neither of them touches anything else. -/
theorem validate_changes_targets_and_roots_only (h : DerivedFrom document tree) (multiTop : Bool) :
    (∀ diagnostic, tree.checkDeclarations = .error diagnostic →
      tree.validate multiTop = (tree, .error diagnostic)) ∧
    (∀ after diagnostic, tree.checkDeclarations = .ok () →
      tree.validate multiTop = (after, .error diagnostic) →
        after = { tree with gates := tree.gates.map (Gate.resolved tree.names) }) ∧
    (∀ after, tree.validate multiTop = (after, .ok ()) →
      ∃ roots, after = { tree with gates := tree.gates.map (Gate.resolved tree.names), roots }) ∧
    ∀ gate ∈ tree.gates, ∀ argument ∈ gate.arguments, ∃ id,
      tree.names.find? argument.name = some id ∧
        argument.resolved tree.names = { argument with target := some id } := by
  have hagree := h.consistent.agree
  refine ⟨fun diagnostic hchecks => ?_, fun after diagnostic hchecks hvalidate => ?_,
    fun after hvalidate => ?_, fun gate hgate argument hargument => ?_⟩
  · unfold validate
    rw [hchecks]
  · rcases validate_cases tree multiTop with
      ⟨_, hfault, -⟩ | ⟨_, -, -, hgraph⟩ | ⟨_, -, -, hvalid⟩
    · rw [hchecks] at hfault
      cases hfault
    · rw [hgraph, hagree.resolve_eq] at hvalidate
      exact (congrArg Prod.fst hvalidate).symm
    · rw [hvalid] at hvalidate
      cases congrArg Prod.snd hvalidate
  · obtain ⟨-, -, -, -, rfl⟩ := validate_eq_ok_iff.mp hvalidate
    exact ⟨_, by rw [hagree.resolve_eq]⟩
  · obtain ⟨id, hid⟩ := hagree.argument_known gate hgate argument hargument
    exact ⟨id, hid, by rw [Argument.resolved, hid]⟩

/-- Two gates whose names differ in letter case only. -/
def clashingGates : List GateDefinition :=
  [⟨"Top", ⟨.null, [⟨"Pump", false⟩]⟩, ⟨"plant.ft", 2⟩⟩,
    ⟨"TOP", ⟨.null, [⟨"Mains", true⟩]⟩, ⟨"plant.ft", 3⟩⟩]

/-- The clashing gates leave the tree as it is. The tree of the circular document, with a probability
for its undefined event, only gets its targets, and the sample also gets its top gate. -/
theorem sample_validations_change_little :
    (∃ diagnostic, (ofBuild (withGates clashingGates)).validate false =
      (ofBuild (withGates clashingGates), .error diagnostic)) ∧
    (∃ tree, tree = (ofBuild circularDocument).setUndefinedProbability
        (Binary64.ofRank false 0x3FE0000000000000) ∧
      (tree.validate true).2 =
        .error ⟨.faultTree (.cycleWithoutTop ["Left", "Right", "Left"]), "plant.ft", 3⟩ ∧
      (tree.validate true).1 = { tree with
        gates := [⟨"Left", .or, [⟨"Pump", false, some (.basic 0)⟩, ⟨"right", false, some (.gate 1)⟩], 2⟩,
          ⟨"Right", .null, [⟨"LEFT", true, some (.gate 0)⟩], 3⟩] }) ∧
    ∃ gates roots, (ofBuild sampleDocument).validate false =
      ({ ofBuild sampleDocument with gates, roots }, .ok ()) := by
  refine ⟨?_, ⟨_, rfl, ?_⟩, ?_⟩
  · have hbuild : build (withGates clashingGates) = .ok (ofBuild (withGates clashingGates)) :=
      build_of_distinctMarks (by decide +kernel)
    obtain ⟨hdeclarations, -⟩ := validate_changes_targets_and_roots_only (.built hbuild) false
    cases hchecks : (ofBuild (withGates clashingGates)).checkDeclarations with
    | error diagnostic => exact ⟨diagnostic, hdeclarations diagnostic hchecks⟩
    | ok _ =>
      have hkeys : (withGates clashingGates).declaredKeys.Nodup :=
        (checkDeclarations_ofBuild_eq_ok_iff.mp hchecks).1
      exact absurd hkeys (by decide +kernel)
  · obtain ⟨-, hgraph, -⟩ := validate_changes_targets_and_roots_only
      (.supplied (.built build_circularDocument) (Binary64.ofRank false 0x3FE0000000000000)) true
    have hchecks : ((ofBuild circularDocument).setUndefinedProbability
        (Binary64.ofRank false 0x3FE0000000000000)).checkDeclarations = .ok () := by
      rw [checkDeclarations_congr (asBuilt_setUndefinedProbability _)]
      exact checkDeclarations_circularDocument
    have hfault : (((ofBuild circularDocument).setUndefinedProbability
        (Binary64.ofRank false 0x3FE0000000000000)).validate true).2 =
        .error ⟨.faultTree (.cycleWithoutTop ["Left", "Right", "Left"]), "plant.ft", 3⟩ :=
      validate_of_checkGraph hchecks (by decide +kernel)
    refine ⟨hfault, (hgraph _ _ hchecks (Prod.ext rfl hfault)).trans ?_⟩
    decide +kernel
  · obtain ⟨built, hbuild, hvalidate⟩ := ofDocument_eq_ok_iff_validate.mp
      (ofDocument_eq_ok_iff.mpr ⟨sound_sampleDocument, rfl⟩)
    obtain ⟨-, -, hvalid, -⟩ := validate_changes_targets_and_roots_only (.built hbuild) false
    obtain ⟨roots, hroots⟩ := hvalid _ hvalidate
    obtain ⟨-, rfl⟩ := build_eq_ok_iff.mp hbuild
    exact ⟨_, roots, hroots ▸ hvalidate⟩

end FaultTreeExchange.FaultTree
