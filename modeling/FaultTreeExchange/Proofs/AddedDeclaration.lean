import FaultTreeExchange.Proofs.AssignmentText
import FaultTreeExchange.Proofs.Rearrangement

/-!
# One more declaration

A sound document stays sound when an assignment to an undeclared name is put into it. The new event
takes the place of the undefined event of that name, if there is one, and is an orphan otherwise. All
else in the tree stays as it is, although events get other positions.
-/

namespace FaultTreeExchange

/-- The second list is the first one with the item put in somewhere. -/
def PutsIn {α : Type} (item : α) (items others : List α) : Prop :=
  ∃ before after, items = before ++ after ∧ others = before ++ item :: after

namespace PutsIn

variable {α β : Type} {item : α} {items others : List α}

lemma perm (h : PutsIn item items others) : others.Perm (item :: items) := by
  obtain ⟨before, after, rfl, rfl⟩ := h
  exact List.perm_middle

lemma mem_iff (h : PutsIn item items others) {found : α} :
    found ∈ others ↔ found = item ∨ found ∈ items := by
  rw [h.perm.mem_iff, List.mem_cons]

lemma map (h : PutsIn item items others) (image : α → β) :
    PutsIn (image item) (items.map image) (others.map image) := by
  obtain ⟨before, after, rfl, rfl⟩ := h
  exact ⟨before.map image, after.map image, List.map_append, List.map_append⟩

lemma append_right (h : PutsIn item items others) (rest : List α) :
    PutsIn item (items ++ rest) (others ++ rest) := by
  obtain ⟨before, after, rfl, rfl⟩ := h
  exact ⟨before, after ++ rest, List.append_assoc _ _ _, List.append_assoc _ _ _⟩

lemma append_left (h : PutsIn item items others) (start : List α) :
    PutsIn item (start ++ items) (start ++ others) := by
  obtain ⟨before, after, rfl, rfl⟩ := h
  exact ⟨start ++ before, after, (List.append_assoc _ _ _).symm, (List.append_assoc _ _ _).symm⟩

lemma filter_of_pos (h : PutsIn item items others) (test : α → Bool) (hitem : test item = true) :
    PutsIn item (items.filter test) (others.filter test) := by
  obtain ⟨before, after, rfl, rfl⟩ := h
  refine ⟨before.filter test, after.filter test, List.filter_append _ _, ?_⟩
  rw [List.filter_append, List.filter_cons_of_pos hitem]

lemma filter_of_neg (h : PutsIn item items others) (test : α → Bool) (hitem : test item = false) :
    others.filter test = items.filter test := by
  obtain ⟨before, after, rfl, rfl⟩ := h
  rw [List.filter_append, List.filter_append, List.filter_cons_of_neg (by simp [hitem])]

lemma of_filter_ne (key : α → β) [DecidableEq β] (hkeys : (items.map key).Nodup)
    (hitem : item ∈ items) :
    PutsIn item (items.filter fun found => key found ≠ key item) items := by
  obtain ⟨before, after, rfl⟩ := List.append_of_mem hitem
  rw [List.map_append, List.map_cons, List.nodup_middle, List.nodup_cons, List.mem_append,
    not_or] at hkeys
  have hother : ∀ part : List α, key item ∉ part.map key →
      part.filter (fun found => key found ≠ key item) = part := by
    intro part hpart
    rw [List.filter_eq_self]
    intro found hfound
    exact decide_eq_true fun hkey => hpart (hkey ▸ List.mem_map_of_mem hfound)
  refine ⟨before, after, ?_, rfl⟩
  rw [List.filter_append, List.filter_cons_of_neg (by simp), hother before hkeys.1.1,
    hother after hkeys.1.2]

end PutsIn

/-! ### Documents -/

/-- The other document has one more statement, which assigns the value to the name. -/
inductive Document.Gains (document : Document) (name : String) (place : Place) :
    AssignedValue → Document → Prop where
  | probability (value : Binary64) (probabilities : List ProbabilityAssignment)
      (hputs : PutsIn ⟨name, value, place⟩ document.probabilities probabilities) :
      Gains document name place (.probability value) { document with probabilities }
  | state (value : Bool) (states : List StateAssignment)
      (hputs : PutsIn ⟨name, value, place⟩ document.states states) :
      Gains document name place (.state value) { document with states }

namespace Document.Gains

variable {document other : Document} {name : String} {place : Place} {assigned : AssignedValue}
  {multiTop : Bool}

lemma name_eq (h : document.Gains name place assigned other) : other.name = document.name := by
  cases h <;> rfl

lemma gates_eq (h : document.Gains name place assigned other) : other.gates = document.gates := by
  cases h <;> rfl

lemma references_eq (h : document.Gains name place assigned other) :
    other.references = document.references := by
  unfold references
  rw [h.gates_eq]

lemma perm_declaredNames (h : document.Gains name place assigned other) :
    other.declaredNames.Perm (name :: document.declaredNames) := by
  unfold declaredNames
  cases h with
  | probability value probabilities hputs =>
    exact (((hputs.map ProbabilityAssignment.name).append_left _).append_right _).perm
  | state value states hputs => exact ((hputs.map StateAssignment.name).append_left _).perm

lemma perm_declaredKeys (h : document.Gains name place assigned other) :
    other.declaredKeys.Perm (Name.key name :: document.declaredKeys) :=
  h.perm_declaredNames.map Name.key

lemma mem_declaredKeys_iff (h : document.Gains name place assigned other) {key : String} :
    key ∈ other.declaredKeys ↔ key = Name.key name ∨ key ∈ document.declaredKeys := by
  rw [h.perm_declaredKeys.mem_iff, List.mem_cons]

lemma distinctDeclarations (h : document.Gains name place assigned other)
    (hnew : Name.key name ∉ document.declaredKeys) (hdistinct : document.DistinctDeclarations) :
    other.DistinctDeclarations :=
  h.perm_declaredKeys.nodup_iff.mpr (List.nodup_cons.mpr ⟨hnew, hdistinct⟩)

theorem sound (h : document.Gains name place assigned other) (hname : Name.isValid name = true)
    (hnew : Name.key name ∉ document.declaredKeys) (hsound : document.Sound multiTop) :
    other.Sound multiTop where
  distinctArguments := by
    unfold DistinctArguments
    rw [h.gates_eq]
    exact hsound.distinctArguments
  distinctDeclarations := h.distinctDeclarations hnew hsound.distinctDeclarations
  validNames := by
    refine ⟨h.name_eq ▸ hsound.validNames.tree, fun declared hdeclared => ?_, ?_⟩
    · rcases List.mem_cons.mp (h.perm_declaredNames.mem_iff.mp hdeclared) with rfl | hdeclared
      · exact hname
      · exact hsound.validNames.declared declared hdeclared
    · intro mentioned hfirst hundeclared
      rw [h.mem_declaredKeys_iff, not_or] at hundeclared
      rw [h.references_eq] at hfirst
      exact hsound.validNames.undeclared mentioned hfirst hundeclared.2
  fittingOperands := by
    unfold FittingOperands
    rw [h.gates_eq]
    exact hsound.fittingOperands
  acyclic := by
    have hrefers : other.RefersTo = document.RefersTo := by
      unfold RefersTo
      rw [h.gates_eq]
    unfold Acyclic
    rw [hrefers]
    exact hsound.acyclic
  top := by
    have htop : other.topGates = document.topGates := by
      unfold topGates
      rw [h.gates_eq, h.references_eq]
    unfold HasTop
    rw [h.gates_eq, htop]
    exact hsound.top

end Document.Gains

lemma Document.Gains.undeclared_eq {document other : Document} {name : String} {place : Place}
    {assigned : AssignedValue} (h : document.Gains name place assigned other) :
    other.undeclared =
      document.undeclared.filter fun mention => Name.key mention.1 ≠ Name.key name := by
  have hmentions : FaultTree.mentions other = FaultTree.mentions document := by
    unfold FaultTree.mentions
    rw [h.gates_eq]
  unfold undeclared
  rw [hmentions, FaultTree.firstMentions_eq, FaultTree.firstMentions_eq,
    ← firstOccurrences_cons_known]
  exact firstOccurrences_congr (fun key => by rw [h.mem_declaredKeys_iff, List.mem_cons]) _

end FaultTreeExchange
