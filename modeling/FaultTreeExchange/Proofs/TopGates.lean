import FaultTreeExchange.Proofs.CycleReports
import FaultTreeExchange.Proofs.Revalidation

/-!
# Top gates

A validated tree has as its top gates those that no argument of a gate has as its target. All its
gates lie below top gates, and below the one where only one is allowed.
-/

namespace FaultTreeExchange.FaultTree
open Relation

variable {tree validated : FaultTree} {multiTop : Bool}

/-- The top gates of a validated tree are the gates that are no targets, in their order. There is one,
every gate is reached from one along the targets of arguments, and from the only one where several are
not allowed. -/
theorem validate_roots_cover_gates (h : tree.validate multiTop = (validated, .ok ())) :
    validated.roots.Pairwise (· < ·) ∧
    (∀ index, index ∈ validated.roots ↔ index < validated.gates.length ∧
      ∀ gate ∈ validated.gates, ∀ argument ∈ gate.arguments,
        argument.target ≠ some (.gate index)) ∧
    validated.roots ≠ [] ∧
    (∀ index < validated.gates.length,
      ∃ root ∈ validated.roots, ReflTransGen validated.TargetsGate root index) ∧
    (multiTop = false → ∃ root, validated.roots = [root] ∧
      ∀ index < validated.gates.length, ReflTransGen validated.TargetsGate root index) := by
  obtain ⟨-, hacyclic, hgates, hsingle, rfl⟩ := validate_eq_ok_iff.mp h
  have hcovers : ∀ index < tree.resolve.gates.length,
      ∃ root ∈ tree.resolve.topCandidates, ReflTransGen tree.resolve.TargetsGate root index := by
    intro index hindex
    obtain ⟨top, htop, hway⟩ := exists_topCandidate_above hacyclic hindex
    rw [edge_gateGraph] at hway
    exact ⟨top, htop, hway⟩
  refine ⟨pairwise_topCandidates _, fun index => ?_, topCandidates_ne_nil hacyclic hgates, hcovers,
    fun hone => ?_⟩
  · change index ∈ tree.resolve.topCandidates ↔ _
    rw [mem_topCandidates_iff]
    simp only [mem_gateTargets_iff, not_exists, not_and, ne_eq]
  · obtain ⟨root, hroot⟩ := List.length_eq_one_iff.mp (hsingle hone)
    refine ⟨root, hroot, fun index hindex => ?_⟩
    obtain ⟨top, htop, hway⟩ := hcovers index hindex
    rw [hroot, List.mem_singleton] at htop
    exact htop ▸ hway

/-- The top gate of the sample is its first gate, and the second one lies below it. -/
theorem sample_gate_below_root :
    ∃ built, build sampleDocument = .ok built ∧
      built.validate false = (ofSound sampleDocument, .ok ()) ∧
      (ofSound sampleDocument).roots = [0] ∧
      ReflTransGen (ofSound sampleDocument).TargetsGate 0 1 := by
  obtain ⟨built, hbuild, hvalidate⟩ := ofDocument_eq_ok_iff_validate.mp
    (ofDocument_eq_ok_iff.mpr ⟨sound_sampleDocument, rfl⟩)
  obtain ⟨-, -, -, -, hone⟩ := validate_roots_cover_gates hvalidate
  obtain ⟨root, hroots, hcovers⟩ := hone rfl
  have hfirst : (ofSound sampleDocument).roots = [0] := by decide +kernel
  rw [hfirst, List.cons.injEq] at hroots
  obtain ⟨rfl, -⟩ := hroots
  exact ⟨built, hbuild, hvalidate, hfirst, hcovers 1 (by decide +kernel)⟩

end FaultTreeExchange.FaultTree
