import FaultTreeExchange.Validation.Cycle
import Mathlib.Data.Fintype.EquivFin
import Mathlib.Data.List.Chain
import Mathlib.Logic.Relation
import Mathlib.Order.WellFounded

/-!
# The search for cycles

`GateCycle.find?` finds a cycle of a graph exactly when there is one. A gate is grounded when every
way down from it ends; the search keeps all gates that it has left grounded, and what it reports is
a simple cycle. In a graph without cycles all gates are grounded, and some gate is no target.
-/

namespace FaultTreeExchange.GateCycle
open Relation

def Edge (graph : List (List Nat)) (gate target : Nat) : Prop :=
  target ∈ targetsOf graph gate

def Acyclic (graph : List (List Nat)) : Prop :=
  ∀ gate, ¬TransGen (Edge graph) gate gate

/-- Every way down from the gate ends. -/
def Grounded (graph : List (List Nat)) (gate : Nat) : Prop :=
  Acc (fun target gate => Edge graph gate target) gate

/-- The gates of a simple cycle: each has the next one as a target, and the last one the first. -/
structure IsCycle (graph : List (List Nat)) (cycle : GateCycle) : Prop where
  distinct : cycle.gates.Nodup
  steps : cycle.gates.IsChain (Edge graph)
  closes : Edge graph cycle.last cycle.first

variable {graph : List (List Nat)} {seen pending : List Nat} {gate target : Nat}
  {path : List Frame}

lemma Edge.lt_length (h : Edge graph gate target) : gate < graph.length := by
  by_contra hge
  unfold Edge targetsOf at h
  rw [List.getElem?_eq_none (by omega)] at h
  simp at h

lemma grounded_of_length_le (h : graph.length ≤ gate) : Grounded graph gate := by
  constructor
  intro target hedge
  have hlt := hedge.lt_length
  omega

lemma Grounded.not_transGen (h : Grounded graph gate) : ¬TransGen (Edge graph) gate gate := by
  induction h with
  | intro gate _ ih =>
    intro hcycle
    obtain ⟨target, hedge, hback⟩ := TransGen.head'_iff.mp hcycle
    exact ih target hedge (TransGen.tail' hback hedge)

lemma reflTransGen_last {first : Nat} {others : List Nat}
    (hsteps : (first :: others).IsChain (Edge graph)) :
    ReflTransGen (Edge graph) first (others.getLastD first) := by
  induction others generalizing first with
  | nil => exact ReflTransGen.refl
  | cons second rest ih =>
    rw [List.isChain_cons_cons] at hsteps
    rw [List.getLastD_cons]
    exact ReflTransGen.head hsteps.1 (ih hsteps.2)

lemma IsCycle.transGen {cycle : GateCycle} (h : cycle.IsCycle graph) :
    TransGen (Edge graph) cycle.first cycle.first :=
  TransGen.tail' (reflTransGen_last h.steps) h.closes

lemma IsCycle.exists_edge {cycle : GateCycle} (h : cycle.IsCycle graph) :
    ∀ gate ∈ cycle.gates, ∃ target, Edge graph gate target := by
  obtain ⟨first, others⟩ := cycle
  -- The gates of a shorter row still end with the one that closes the cycle.
  have hrow : ∀ others gate, (gate :: others).IsChain (Edge graph) →
      Edge graph (others.getLastD gate) first →
        ∀ found ∈ gate :: others, ∃ target, Edge graph found target := by
    intro others
    induction others with
    | nil =>
      intro gate _ hcloses found hfound
      rw [List.mem_singleton.mp hfound]
      exact ⟨first, hcloses⟩
    | cons second rest ih =>
      intro gate hsteps hcloses found hfound
      rw [List.isChain_cons_cons] at hsteps
      rw [List.getLastD_cons] at hcloses
      rcases List.mem_cons.mp hfound with rfl | hfound
      · exact ⟨second, hsteps.1⟩
      · exact ih second hsteps.2 hcloses found hfound
  exact hrow others first h.steps h.closes

lemma getLast?_gates (cycle : GateCycle) : cycle.gates.getLast? = some cycle.last := by
  obtain ⟨first, others⟩ := cycle
  unfold last gates
  rw [List.getLastD_eq_getLast?, List.getLast?_cons]

lemma last_mem (cycle : GateCycle) : cycle.last ∈ cycle.gates :=
  List.mem_of_getLast? cycle.getLast?_gates

/-! ### One search -/

/-- Every target of a gate on the path is still to be followed, stands on the path above the gate,
or is grounded. -/
def Followed (graph : List (List Nat)) : List Nat → List Frame → Prop
  | _, [] => True
  | above, frame :: path =>
    (∀ target, Edge graph frame.gate target →
      target ∈ frame.pending ∨ target ∈ above ∨ Grounded graph target) ∧
    Followed graph (frame.gate :: above) path

/-- What holds throughout a search. The path is a simple way down, read from its far end. -/
structure SearchInvariant (graph : List (List Nat)) (seen : List Nat) (path : List Frame) :
    Prop where
  linked : (path.map Frame.gate).IsChain fun upper lower => Edge graph lower upper
  distinct : (path.map Frame.gate).Nodup
  pending : ∀ frame ∈ path, ∀ target ∈ frame.pending, Edge graph frame.gate target
  left : ∀ gate ∈ seen, gate ∈ path.map Frame.gate ∨ Grounded graph gate
  followed : Followed graph [] path

lemma Followed.mono {above above' : List Nat} (h : Followed graph above path)
    (hsub : ∀ gate ∈ above, gate ∈ above' ∨ Grounded graph gate) :
    Followed graph above' path := by
  induction path generalizing above above' with
  | nil => trivial
  | cons frame path ih =>
    refine ⟨?_, ih h.2 ?_⟩
    · intro target hedge
      rcases h.1 target hedge with hpending | habove | hgrounded
      · exact Or.inl hpending
      · exact Or.inr (hsub target habove)
      · exact Or.inr (Or.inr hgrounded)
    · intro gate hgate
      rcases List.mem_cons.mp hgate with rfl | hgate
      · exact Or.inl List.mem_cons_self
      · exact (hsub gate hgate).imp (List.mem_cons_of_mem _) id

lemma SearchInvariant.start (hseen : ∀ gate ∈ seen, Grounded graph gate) (start : Nat) :
    SearchInvariant graph (start :: seen) [⟨start, targetsOf graph start⟩] where
  linked := List.isChain_singleton start
  distinct := List.nodup_singleton start
  pending := by
    intro frame hframe target htarget
    rw [List.mem_singleton.mp hframe] at htarget ⊢
    exact htarget
  left := by
    intro gate hgate
    rcases List.mem_cons.mp hgate with rfl | hgate
    · exact Or.inl List.mem_cons_self
    · exact Or.inr (hseen gate hgate)
  followed := ⟨fun _ hedge => Or.inl hedge, trivial⟩

lemma SearchInvariant.grounded (h : SearchInvariant graph seen (⟨gate, []⟩ :: path)) :
    Grounded graph gate := by
  constructor
  intro target hedge
  rcases h.followed.1 target hedge with hpending | habove | hgrounded
  · simp at hpending
  · simp at habove
  · exact hgrounded

lemma SearchInvariant.leave (h : SearchInvariant graph seen (⟨gate, []⟩ :: path)) :
    SearchInvariant graph seen path where
  linked := h.linked.tail
  distinct := h.distinct.of_cons
  pending frame hframe := h.pending frame (List.mem_cons_of_mem _ hframe)
  left := by
    intro other hother
    rcases h.left other hother with hpath | hgrounded
    · rcases List.mem_cons.mp hpath with rfl | hpath
      · exact Or.inr h.grounded
      · exact Or.inl hpath
    · exact Or.inr hgrounded
  followed := by
    refine h.followed.2.mono fun other hother => Or.inr ?_
    rw [List.mem_singleton.mp hother]
    exact h.grounded

lemma SearchInvariant.skip (h : SearchInvariant graph seen (⟨gate, target :: pending⟩ :: path))
    (htarget : Grounded graph target) :
    SearchInvariant graph seen (⟨gate, pending⟩ :: path) where
  linked := h.linked
  distinct := h.distinct
  pending := by
    intro frame hframe other hother
    rcases List.mem_cons.mp hframe with rfl | hframe
    · exact h.pending _ List.mem_cons_self other (List.mem_cons_of_mem _ hother)
    · exact h.pending frame (List.mem_cons_of_mem _ hframe) other hother
  left := h.left
  followed := by
    refine ⟨fun other hedge => ?_, h.followed.2⟩
    rcases h.followed.1 other hedge with hpending | hrest
    · rcases List.mem_cons.mp hpending with rfl | hpending
      · exact Or.inr (Or.inr htarget)
      · exact Or.inl hpending
    · exact Or.inr hrest

lemma SearchInvariant.enter (h : SearchInvariant graph seen (⟨gate, target :: pending⟩ :: path))
    (hnew : target ∉ gate :: path.map Frame.gate) :
    SearchInvariant graph (target :: seen)
      (⟨target, targetsOf graph target⟩ :: ⟨gate, pending⟩ :: path) where
  linked := by
    have hedge : Edge graph gate target := h.pending _ List.mem_cons_self target List.mem_cons_self
    exact List.IsChain.cons_cons hedge h.linked
  distinct := List.nodup_cons.mpr ⟨hnew, h.distinct⟩
  pending := by
    intro frame hframe other hother
    rcases List.mem_cons.mp hframe with rfl | hframe
    · exact hother
    rcases List.mem_cons.mp hframe with rfl | hframe
    · exact h.pending _ List.mem_cons_self other (List.mem_cons_of_mem _ hother)
    · exact h.pending frame (List.mem_cons_of_mem _ hframe) other hother
  left := by
    intro other hother
    rcases List.mem_cons.mp hother with rfl | hother
    · exact Or.inl List.mem_cons_self
    · exact (h.left other hother).imp (List.mem_cons_of_mem _) id
  followed := by
    refine ⟨fun other hedge => Or.inl hedge, fun other hedge => ?_, ?_⟩
    · rcases h.followed.1 other hedge with hpending | habove | hgrounded
      · rcases List.mem_cons.mp hpending with rfl | hpending
        · exact Or.inr (Or.inl List.mem_cons_self)
        · exact Or.inl hpending
      · simp at habove
      · exact Or.inr (Or.inr hgrounded)
    · refine h.followed.2.mono fun other hother => Or.inl ?_
      rw [List.mem_singleton.mp hother]
      exact List.mem_cons_self

lemma close_eq {upper lower : List Nat} (hgates : path.map Frame.gate = upper ++ target :: lower)
    (hnew : target ∉ upper) : close path target = ⟨target, upper.reverse⟩ := by
  have hupper : ∀ gate ∈ upper, decide (gate ≠ target) = true := by
    intro gate hgate
    exact decide_eq_true fun heq => hnew (heq ▸ hgate)
  unfold close
  rw [hgates, List.takeWhile_append_of_pos hupper, List.takeWhile_cons_of_neg (by simp),
    List.append_nil]

lemma SearchInvariant.isCycle_close
    (h : SearchInvariant graph seen (⟨gate, target :: pending⟩ :: path))
    (hold : target ∈ gate :: path.map Frame.gate) :
    (close (⟨gate, pending⟩ :: path) target).IsCycle graph := by
  have hedge : Edge graph gate target := h.pending _ List.mem_cons_self target List.mem_cons_self
  obtain ⟨upper, lower, hsplit, hnew⟩ := List.eq_append_cons_of_mem hold
  have hgates : (⟨gate, pending⟩ :: path : List Frame).map Frame.gate = upper ++ target :: lower :=
    hsplit
  have hlinked : (upper ++ target :: lower).IsChain fun upper lower => Edge graph lower upper :=
    hsplit ▸ h.linked
  have hdistinct : (upper ++ target :: lower).Nodup := hsplit ▸ h.distinct
  rw [close_eq hgates hnew]
  rw [List.append_cons] at hlinked hdistinct
  have hreverse : target :: upper.reverse = (upper ++ [target]).reverse := by simp
  constructor
  · change (target :: upper.reverse).Nodup
    rw [hreverse, List.nodup_reverse]
    exact (List.nodup_append.mp hdistinct).1
  · change (target :: upper.reverse).IsChain (Edge graph)
    rw [hreverse, List.isChain_reverse]
    exact hlinked.left_of_append
  · change Edge graph (upper.reverse.getLastD target) target
    cases upper with
    | nil =>
      obtain ⟨rfl, -⟩ := List.cons.inj hsplit
      exact hedge
    | cons first rest =>
      obtain ⟨rfl, -⟩ := List.cons.inj hsplit
      simpa using hedge

/-- What a search yields: the gates entered, all of them grounded, or a simple cycle. -/
def Outcome (graph : List (List Nat)) (seen : List Nat) : Except GateCycle (List Nat) → Prop
  | .ok entered => (∀ gate ∈ seen, gate ∈ entered) ∧ ∀ gate ∈ entered, Grounded graph gate
  | .error cycle => cycle.IsCycle graph

lemma Outcome.mono {seen' : List Nat} {result : Except GateCycle (List Nat)}
    (h : Outcome graph seen result) (hsub : ∀ gate ∈ seen', gate ∈ seen) :
    Outcome graph seen' result := by
  cases result with
  | ok entered => exact ⟨fun gate hgate => h.1 gate (hsub gate hgate), h.2⟩
  | error cycle => exact h

theorem search_outcome (h : SearchInvariant graph seen path) :
    Outcome graph seen (search graph seen path) := by
  fun_induction search graph seen path with
  | case1 seen =>
    refine ⟨fun _ hgate => hgate, fun gate hgate => ?_⟩
    exact (h.left gate hgate).resolve_left (by simp)
  | case2 seen gate path ih => exact ih h.leave
  | case3 seen gate target pending path hold =>
    exact h.isCycle_close (List.contains_iff_mem.mp hold)
  | case4 seen gate target pending path hold hnew ih =>
    have hpath : target ∉ gate :: path.map Frame.gate := fun hmem =>
      hold (List.contains_iff_mem.mpr hmem)
    exact (ih (h.enter hpath)).mono fun _ => List.mem_cons_of_mem _
  | case5 seen gate target pending path hold hnew ih =>
    have hpath : target ∉ gate :: path.map Frame.gate := fun hmem =>
      hold (List.contains_iff_mem.mpr hmem)
    have htarget : Grounded graph target := by
      by_cases hlt : target < graph.length
      · have hseen : target ∈ seen := by
          by_contra hfresh
          exact hnew ⟨hlt, by simpa using hfresh⟩
        exact (h.left target hseen).resolve_left hpath
      · exact grounded_of_length_le (by omega)
    exact ih (h.skip htarget)

/-! ### The whole graph -/

lemma searchFrom_outcome (hseen : ∀ gate ∈ seen, Grounded graph gate) (start : Nat) :
    Outcome graph (start :: seen) (searchFrom graph seen start) := by
  unfold searchFrom
  split
  · rename_i hstart
    refine ⟨fun gate hgate => ?_, hseen⟩
    rcases List.mem_cons.mp hgate with rfl | hgate
    · exact List.contains_iff_mem.mp hstart
    · exact hgate
  · exact search_outcome (SearchInvariant.start hseen start)

lemma foldlM_searchFrom_outcome (starts : List Nat) (hseen : ∀ gate ∈ seen, Grounded graph gate) :
    Outcome graph (starts ++ seen) (starts.foldlM (searchFrom graph) seen) := by
  induction starts generalizing seen with
  | nil => exact ⟨fun _ hgate => hgate, hseen⟩
  | cons start rest ih =>
    have hfirst := searchFrom_outcome hseen start
    rw [List.foldlM_cons]
    cases hresult : searchFrom graph seen start with
    | error cycle =>
      rw [hresult] at hfirst
      exact hfirst
    | ok entered =>
      rw [hresult] at hfirst
      refine (ih hfirst.2).mono fun gate hgate => ?_
      rw [List.cons_append, ← List.perm_middle.mem_iff, List.mem_append] at hgate
      exact List.mem_append.mpr (hgate.imp id (hfirst.1 gate))

theorem grounded_of_find?_eq_none (h : find? graph = none) (gate : Nat) :
    Grounded graph gate := by
  have houtcome : Outcome graph (List.range graph.length ++ [])
      ((List.range graph.length).foldlM (searchFrom graph) []) :=
    foldlM_searchFrom_outcome (List.range graph.length) (by simp)
  unfold find? at h
  split at h
  · rename_i entered hentered
    rw [hentered, List.append_nil] at houtcome
    by_cases hlt : gate < graph.length
    · exact houtcome.2 gate (houtcome.1 gate (List.mem_range.mpr hlt))
    · exact grounded_of_length_le (by omega)
  · cases h

theorem isCycle_of_find?_eq_some {cycle : GateCycle} (h : find? graph = some cycle) :
    cycle.IsCycle graph := by
  have houtcome : Outcome graph (List.range graph.length ++ [])
      ((List.range graph.length).foldlM (searchFrom graph) []) :=
    foldlM_searchFrom_outcome (List.range graph.length) (by simp)
  unfold find? at h
  split at h
  · cases h
  · rename_i found hfound
    rw [hfound] at houtcome
    cases h
    exact houtcome

theorem find?_eq_none_iff : find? graph = none ↔ Acyclic graph := by
  constructor
  · intro h gate
    exact (grounded_of_find?_eq_none h gate).not_transGen
  · intro hacyclic
    cases hfound : find? graph with
    | none => rfl
    | some cycle => exact absurd (isCycle_of_find?_eq_some hfound).transGen (hacyclic cycle.first)

lemma Acyclic.grounded (h : Acyclic graph) (gate : Nat) : Grounded graph gate :=
  grounded_of_find?_eq_none (find?_eq_none_iff.mpr h) gate

/-- In a graph without cycles every gate is reached from a gate that is no target. -/
theorem Acyclic.exists_source (h : Acyclic graph) (hgate : gate < graph.length) :
    ∃ source < graph.length, (∀ other, ¬Edge graph other source) ∧
      ReflTransGen (Edge graph) source gate := by
  let above (first second : Fin graph.length) : Prop :=
    TransGen (Edge graph) first.val second.val
  have hirrefl : Std.Irrefl above := ⟨fun gate => h gate.val⟩
  have htrans : IsTrans (Fin graph.length) above := ⟨fun _ _ _ => TransGen.trans⟩
  have hwf : WellFounded above := Finite.wellFounded_of_trans_of_irrefl above
  -- Upwards along the edges: a gate that is a target is reached from the one that has it.
  have hreached : ∀ gate : Fin graph.length, ∃ source < graph.length,
      (∀ other, ¬Edge graph other source) ∧ ReflTransGen (Edge graph) source gate.val := by
    intro gate
    induction gate using hwf.induction with
    | h gate ih =>
      by_cases htarget : ∃ other, Edge graph other gate.val
      · obtain ⟨other, hedge⟩ := htarget
        obtain ⟨source, hsource, hnone, hway⟩ :=
          ih ⟨other, hedge.lt_length⟩ (TransGen.single hedge)
        exact ⟨source, hsource, hnone, hway.tail hedge⟩
      · exact ⟨gate.val, gate.isLt, not_exists.mp htarget, ReflTransGen.refl⟩
  exact hreached ⟨gate, hgate⟩

end FaultTreeExchange.GateCycle
