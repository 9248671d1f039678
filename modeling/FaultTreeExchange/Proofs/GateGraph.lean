import FaultTreeExchange.Proofs.Requirement
import FaultTreeExchange.Proofs.Validating

/-!
# The gate graph of a document

Once no key is declared twice, the table of the tree finds exactly the declaration of a name, and the
targets that it gives are those which the formulas name. So the graph of the resolved tree is the
document's own graph of gates, with positions in place of definitions.
-/

namespace FaultTreeExchange
open Relation

/-- A way through one graph is a way through another one whose nodes are linked to it. -/
lemma transGen_of_linked {α β : Type} {r : α → α → Prop} {s : β → β → Prop} (link : α → β → Prop)
    (hlinked : ∀ first second, r first second → ∃ image, link first image)
    (hstep : ∀ first second image image', r first second → link first image → link second image' →
      s image image') {first last : α} (h : TransGen r first last) :
    ∀ image image', link first image → link last image' → TransGen s image image' := by
  induction h using TransGen.head_induction_on with
  | single hedge =>
    intro image image' hfirst hlast
    exact TransGen.single (hstep _ _ image image' hedge hfirst hlast)
  | head hedge htail ih =>
    intro image image' hfirst hlast
    obtain ⟨next, hnext⟩ : ∃ next, link _ next := by
      obtain ⟨other, hother, -⟩ := TransGen.head'_iff.mp htail
      exact hlinked _ other hother
    exact TransGen.head (hstep _ _ image next hedge hfirst hnext) (ih next image' hnext hlast)

lemma map_getElem?_filter_range {α : Type} {items : List α} {onIndex : Nat → Bool}
    {onItem : α → Bool}
    (h : ∀ index item, items[index]? = some item → onIndex index = onItem item) :
    ((List.range items.length).filter onIndex).map (fun index => items[index]?) =
      (items.filter onItem).map some := by
  have hrange : List.range items.length = items.zipIdx.map Prod.snd := by
    rw [List.zipIdx_map_snd, List.range_eq_range']
  have hitems : items.filter onItem = (items.zipIdx.map Prod.fst).filter onItem := by
    rw [List.zipIdx_map_fst]
  have hentry : ∀ entry ∈ items.zipIdx, items[entry.2]? = some entry.1 := fun entry hentry =>
    List.mem_zipIdx_iff_getElem?.mp hentry
  have hfilter : items.zipIdx.filter (onIndex ∘ Prod.snd) =
      items.zipIdx.filter (onItem ∘ Prod.fst) :=
    List.filter_congr fun entry hmem => h entry.2 entry.1 (hentry entry hmem)
  rw [hrange, hitems, List.filter_map, List.filter_map, List.map_map, List.map_map, hfilter]
  exact List.map_congr_left fun entry hmem => hentry entry (List.mem_filter.mp hmem).1

namespace FaultTree

variable {document : Document}

lemma fresh_firstMentions (known : List String) (mentions : List (String × Nat)) :
    Fresh (fun mention => Name.key mention.1) known (firstMentions known mentions) := by
  induction mentions generalizing known with
  | nil => simp [firstMentions, Fresh]
  | cons mention rest ih =>
    unfold firstMentions
    by_cases hknown : Name.key mention.1 ∈ known
    · rw [if_pos hknown]
      exact ih known
    · rw [if_neg hknown]
      exact fresh_cons_iff.mpr ⟨hknown, ih _⟩

lemma nodup_keys_ofBuild (h : document.DistinctDeclarations) :
    ((ofBuild document).names.map Prod.fst).Nodup := by
  obtain ⟨hnodup, hnew⟩ := fresh_firstMentions document.declaredKeys (mentions document)
  rw [keys_ofBuild]
  refine List.Nodup.append h hnodup fun key hkey hother => ?_
  obtain ⟨mention, hmention, rfl⟩ := List.mem_map.mp hother
  exact hnew mention hmention hkey

theorem find?_ofBuild_iff (h : document.DistinctDeclarations) {name : String} {id : EventId} :
    (ofBuild document).names.find? name = some id ↔
      ∃ event, (ofBuild document).event? id = some event ∧ Name.key event.name = Name.key name :=
  (namesAgree_ofBuild document).find?_eq_some_iff (nodup_keys_ofBuild h)

lemma event?_gate_ofBuild_iff {index : Nat} {event : Event} :
    (ofBuild document).event? (.gate index) = some event ↔
      ∃ definition, document.gates[index]? = some definition ∧ event = .gate definition.toGate := by
  simp [event?, ofBuild, addUndefined, ofDeclarations, eq_comm]

lemma find?_gate_ofBuild_iff (h : document.DistinctDeclarations) {name : String} {index : Nat} :
    (ofBuild document).names.find? name = some (.gate index) ↔
      ∃ definition, document.gates[index]? = some definition ∧
        Name.key definition.name = Name.key name := by
  rw [find?_ofBuild_iff h]
  simp only [event?_gate_ofBuild_iff]
  constructor
  · rintro ⟨_, ⟨definition, hdefinition, rfl⟩, hname⟩
    exact ⟨definition, hdefinition, hname⟩
  · rintro ⟨definition, hdefinition, hname⟩
    exact ⟨_, ⟨definition, hdefinition, rfl⟩, hname⟩

def resolvedGate (document : Document) (definition : GateDefinition) : Gate :=
  definition.toGate.resolved (ofBuild document).names

lemma gates_resolve_ofBuild (document : Document) :
    (ofBuild document).resolve.gates = document.gates.map (resolvedGate document) := by
  rw [(namesAgree_ofBuild document).resolve_eq]
  exact List.map_map

lemma mem_gateTargets_resolvedGate_iff (h : document.DistinctDeclarations)
    {definition : GateDefinition} {index : Nat} :
    index ∈ (resolvedGate document definition).gateTargets ↔
      ∃ target, document.gates[index]? = some target ∧
        ∃ reference ∈ definition.formula.arguments,
          Name.key reference.name = Name.key target.name := by
  have htarget : index ∈ (resolvedGate document definition).gateTargets ↔
      ∃ reference ∈ definition.formula.arguments,
        (ofBuild document).names.find? reference.name = some (.gate index) := by
    unfold Gate.gateTargets Gate.targets resolvedGate Gate.resolved GateDefinition.toGate
    simp only [List.mem_filterMap, List.mem_map]
    constructor
    · rintro ⟨id, ⟨_, ⟨_, ⟨reference, hreference, rfl⟩, rfl⟩, hid⟩, hindex⟩
      cases id with
      | gate index =>
        cases hindex
        exact ⟨reference, hreference, hid⟩
      | basic index => cases hindex
      | house index => cases hindex
    · rintro ⟨reference, hreference, hfind⟩
      exact ⟨.gate index, ⟨_, ⟨_, ⟨reference, hreference, rfl⟩, rfl⟩, hfind⟩, rfl⟩
  rw [htarget]
  simp only [find?_gate_ofBuild_iff h]
  constructor
  · rintro ⟨reference, hreference, target, htarget, hname⟩
    exact ⟨target, htarget, reference, hreference, hname.symm⟩
  · rintro ⟨target, htarget, reference, hreference, hname⟩
    exact ⟨reference, hreference, target, htarget, hname.symm⟩

theorem edge_resolve_ofBuild_iff (h : document.DistinctDeclarations) {first second : Nat} :
    GateCycle.Edge (ofBuild document).resolve.gateGraph first second ↔
      ∃ source target, document.gates[first]? = some source ∧
        document.gates[second]? = some target ∧
        ∃ reference ∈ source.formula.arguments,
          Name.key reference.name = Name.key target.name := by
  rw [edge_gateGraph_iff, gates_resolve_ofBuild]
  simp only [List.getElem?_map, Option.map_eq_some_iff]
  constructor
  · rintro ⟨_, ⟨source, hsource, rfl⟩, htarget⟩
    obtain ⟨target, htarget, hname⟩ := (mem_gateTargets_resolvedGate_iff h).mp htarget
    exact ⟨source, target, hsource, htarget, hname⟩
  · rintro ⟨source, target, hsource, htarget, hname⟩
    exact ⟨_, ⟨source, hsource, rfl⟩, (mem_gateTargets_resolvedGate_iff h).mpr ⟨target, htarget, hname⟩⟩

lemma refersTo_of_edge (h : document.DistinctDeclarations) {first second : Nat}
    (hedge : GateCycle.Edge (ofBuild document).resolve.gateGraph first second)
    {source target : GateDefinition} (hsource : document.gates[first]? = some source)
    (htarget : document.gates[second]? = some target) : document.RefersTo source target := by
  obtain ⟨source', target', hsource', htarget', hname⟩ := (edge_resolve_ofBuild_iff h).mp hedge
  rw [hsource, Option.some.injEq] at hsource'
  rw [htarget, Option.some.injEq] at htarget'
  subst hsource' htarget'
  exact ⟨List.mem_of_getElem? hsource, List.mem_of_getElem? htarget, hname⟩

theorem acyclic_gateGraph_iff (h : document.DistinctDeclarations) :
    GateCycle.Acyclic (ofBuild document).resolve.gateGraph ↔ document.Acyclic := by
  constructor
  · intro hacyclic definition hcycle
    obtain ⟨other, ⟨hdefinition, -⟩, -⟩ := TransGen.head'_iff.mp hcycle
    obtain ⟨index, hindex⟩ := List.getElem?_of_mem hdefinition
    refine hacyclic index (transGen_of_linked (fun definition index =>
      document.gates[index]? = some definition) ?_ ?_ hcycle index index hindex hindex)
    · rintro first second ⟨hfirst, -⟩
      exact List.getElem?_of_mem hfirst
    · rintro first second index index' ⟨-, -, hname⟩ hfirst hsecond
      exact (edge_resolve_ofBuild_iff h).mpr ⟨first, second, hfirst, hsecond, hname⟩
  · intro hacyclic index hcycle
    obtain ⟨other, hedge, -⟩ := TransGen.head'_iff.mp hcycle
    obtain ⟨definition, -, hindex, -⟩ := (edge_resolve_ofBuild_iff h).mp hedge
    refine hacyclic definition (transGen_of_linked (fun index definition =>
      document.gates[index]? = some definition) ?_ ?_ hcycle definition definition hindex hindex)
    · rintro first second hedge
      obtain ⟨source, -, hsource, -⟩ := (edge_resolve_ofBuild_iff h).mp hedge
      exact ⟨source, hsource⟩
    · rintro first second source target hedge hsource htarget
      exact refersTo_of_edge h hedge hsource htarget

theorem map_getElem?_topCandidates (h : document.DistinctDeclarations) :
    (ofBuild document).resolve.topCandidates.map (fun index => document.gates[index]?) =
      document.topGates.map some := by
  unfold topCandidates Document.topGates
  rw [gates_resolve_ofBuild, List.length_map]
  refine map_getElem?_filter_range fun index definition hindex => ?_
  rw [Bool.eq_iff_iff]
  have hreferenced : index ∈ (document.gates.map (resolvedGate document)).flatMap Gate.gateTargets ↔
      ∃ reference ∈ document.references, Name.key reference.name = Name.key definition.name := by
    unfold Document.references
    simp only [List.mem_flatMap, List.mem_map, exists_exists_and_eq_and,
      mem_gateTargets_resolvedGate_iff h, hindex, Option.some.injEq, exists_eq_left']
    constructor
    · rintro ⟨source, hsource, reference, hreference, hname⟩
      exact ⟨reference, ⟨source, hsource, hreference⟩, hname⟩
    · rintro ⟨reference, ⟨source, hsource, hreference⟩, hname⟩
      exact ⟨source, hsource, reference, hreference, hname⟩
  simp only [Bool.not_eq_true', List.contains_eq_mem, decide_eq_false_iff_not, hreferenced,
    List.all_eq_true, decide_eq_true_eq, not_exists, not_and]

lemma length_topCandidates (h : document.DistinctDeclarations) :
    (ofBuild document).resolve.topCandidates.length = document.topGates.length := by
  simpa using congrArg List.length (map_getElem?_topCandidates h)

end FaultTree
end FaultTreeExchange
