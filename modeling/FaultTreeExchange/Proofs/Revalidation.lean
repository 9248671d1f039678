import FaultTreeExchange.Proofs.Acceptance
import FaultTreeExchange.Proofs.Outline

/-!
# Repeated validations

A validation that succeeds leaves nothing to do for a second one, because the checks look at parts of
the tree that it does not change. Allowing several top gates changes nothing in a tree that has one.
-/

namespace FaultTreeExchange.FaultTree

variable {tree result : FaultTree} {multiTop : Bool}

theorem validate_eq_ok_iff :
    tree.validate multiTop = (result, .ok ()) ↔
      tree.checkDeclarations = .ok () ∧ GateCycle.Acyclic tree.resolve.gateGraph ∧
        tree.resolve.gates ≠ [] ∧ (multiTop = false → tree.resolve.topCandidates.length = 1) ∧
        result = { tree.resolve with roots := tree.resolve.topCandidates } := by
  rcases validate_cases tree multiTop with
    ⟨diagnostic, hdeclarations, hvalidate⟩ | ⟨diagnostic, hdeclarations, hgraph, hvalidate⟩ |
    ⟨roots, hdeclarations, hgraph, hvalidate⟩
  · simp [hvalidate, hdeclarations]
  · have hnone : ¬∃ roots, tree.resolve.checkGraph multiTop = .ok roots := by simp [hgraph]
    simp only [checkGraph_eq_ok_iff, exists_and_left, exists_eq, and_true] at hnone
    simp only [hvalidate, Prod.mk.injEq, reduceCtorEq, and_false, false_iff]
    tauto
  · obtain ⟨hacyclic, hgates, htop, rfl⟩ := checkGraph_eq_ok_iff.mp hgraph
    simp only [hvalidate, hdeclarations, Prod.mk.injEq, and_true, true_and]
    constructor
    · rintro rfl
      exact ⟨hacyclic, hgates, htop, rfl⟩
    · rintro ⟨-, -, -, rfl⟩
      rfl

lemma ofDocument_eq_ok_iff_validate {document : Document} :
    ofDocument document multiTop = .ok result ↔
      ∃ built, build document = .ok built ∧ built.validate multiTop = (result, .ok ()) := by
  unfold ofDocument
  cases build document with
  | error diagnostic => simp [bind, Except.bind]
  | ok built =>
    simp only [bind, Except.bind, Except.ok.injEq, exists_eq_left']
    rcases built.validate multiTop with ⟨tree, diagnostic | ⟨⟩⟩
    · simp
    · simp [pure, Except.pure]

lemma Consistent.resolve_of_resolved (h : tree.Consistent) (hresolved : tree.Resolved) :
    tree.resolve = tree := by
  rw [h.agree.resolve_eq, hresolved]

lemma Consistent.validate_again (h : tree.Consistent)
    (hvalidate : tree.validate multiTop = (result, .ok ())) :
    result.validate multiTop = (result, .ok ()) := by
  obtain ⟨hconsistent, hbuilt⟩ := h.validate multiTop
  rw [hvalidate] at hconsistent hbuilt
  obtain ⟨hdeclarations, hacyclic, hgates, htop, rfl⟩ := validate_eq_ok_iff.mp hvalidate
  have hresolve := hconsistent.resolve_of_resolved h.resolved_resolve
  refine validate_eq_ok_iff.mpr ⟨?_, ?_⟩
  · rw [checkDeclarations_congr hbuilt]
    exact hdeclarations
  · rw [hresolve]
    exact ⟨hacyclic, hgates, htop, rfl⟩

/-- Validating the result of a validation that has succeeded leaves the whole tree as it is. A tree
that is accepted with one top gate is accepted in the same way where several are allowed, and a tree
that turns out to have one top gate there is accepted where no more are allowed. -/
theorem validate_again_and_either_option {document : Document} {built : FaultTree}
    (h : build document = .ok built) :
    (∀ multiTop tree, built.validate multiTop = (tree, .ok ()) →
      tree.validate multiTop = (tree, .ok ())) ∧
    (∀ tree, built.validate false = (tree, .ok ()) → built.validate true = (tree, .ok ())) ∧
    ∀ tree, built.validate true = (tree, .ok ()) → tree.roots.length = 1 →
      built.validate false = (tree, .ok ()) := by
  obtain ⟨-, rfl⟩ := build_eq_ok_iff.mp h
  refine ⟨fun multiTop tree => (consistent_ofBuild document).validate_again, ?_, ?_⟩
  · intro tree hvalidate
    obtain ⟨hdeclarations, hacyclic, hgates, -, hresult⟩ := validate_eq_ok_iff.mp hvalidate
    exact validate_eq_ok_iff.mpr ⟨hdeclarations, hacyclic, hgates, by simp, hresult⟩
  · intro tree hvalidate hroot
    obtain ⟨hdeclarations, hacyclic, hgates, -, rfl⟩ := validate_eq_ok_iff.mp hvalidate
    exact validate_eq_ok_iff.mpr ⟨hdeclarations, hacyclic, hgates, fun _ => hroot, rfl⟩

/-- The sample, validated twice. -/
theorem sample_validated_again :
    ∃ built tree, build sampleDocument = .ok built ∧ built.validate false = (tree, .ok ()) ∧
      tree.validate false = (tree, .ok ()) ∧ built.validate true = (tree, .ok ()) ∧
      tree.roots.length = 1 := by
  obtain ⟨built, hbuild, hvalidate⟩ := ofDocument_eq_ok_iff_validate.mp
    (ofDocument_eq_ok_iff.mpr ⟨sound_sampleDocument, rfl⟩)
  obtain ⟨hagain, hseveral, -⟩ := validate_again_and_either_option hbuild
  exact ⟨_, _, hbuild, hvalidate, hagain false _ hvalidate, hseveral _ hvalidate, by decide +kernel⟩

end FaultTreeExchange.FaultTree
