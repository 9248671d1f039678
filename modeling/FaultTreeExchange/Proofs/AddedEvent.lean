import FaultTreeExchange.Proofs.AddedDeclaration

/-!
# One more event

The tree of a sound document that gains an assignment has the same gates and top gates as before. Only
the arguments of the assigned name refer to something else, namely to the new event. It replaces the
undefined event of that name; where no argument has the name it is one more orphan.
-/

namespace FaultTreeExchange

/-- The event that an assignment declares. -/
def AssignedValue.event (name : String) (line : Nat) : AssignedValue → Event
  | .probability value => .basic ⟨name, some value, .declared, line⟩
  | .state value => .house ⟨name, value, line⟩

@[simp]
lemma AssignedValue.name_event (name : String) (line : Nat) (assigned : AssignedValue) :
    (assigned.event name line).name = name := by
  cases assigned <;> rfl

namespace FaultTree

/-- An argument of a gate has the name, in some letter case. -/
def Mentions (tree : FaultTree) (name : String) : Prop :=
  ∃ gate ∈ tree.gates, ∃ argument ∈ gate.arguments, Name.key argument.name = Name.key name

/-- The arguments of the two trees are written alike. They refer to something of one kind and one name,
unless they have the name of the added event, to which the second one refers then. -/
structure KeepsArgument (tree other : FaultTree) (added : Event) (argument image : Argument) :
    Prop where
  name : image.name = argument.name
  complement : image.complement = argument.complement
  kept : Name.key argument.name ≠ Name.key added.name → ∃ target found,
    tree.target? argument = some target ∧ other.target? image = some found ∧
      found.kind = target.kind ∧ found.name = target.name
  added : Name.key argument.name = Name.key added.name → other.target? image = some added

structure KeepsGate (tree other : FaultTree) (added : Event) (gate image : Gate) : Prop where
  name : image.name = gate.name
  operator : image.operator = gate.operator
  arguments : List.Forall₂ (tree.KeepsArgument other added) gate.arguments image.arguments

/-- The other tree has the same gates and top gates, and an added event. Where an argument has the name
of that event, it has been an undefined event before; it is a new orphan otherwise. -/
structure Gains (tree : FaultTree) (added : Event) (other : FaultTree) : Prop where
  name : other.name = tree.name
  gates : List.Forall₂ (tree.KeepsGate other added) tree.gates other.gates
  roots : other.roots = tree.roots
  mentioned : tree.Mentions added.name →
    (∃ undefined, Name.key undefined.name = Name.key added.name ∧
      PutsIn undefined other.undefinedEvents tree.undefinedEvents) ∧ other.orphans = tree.orphans
  unmentioned : ¬tree.Mentions added.name →
    other.undefinedEvents = tree.undefinedEvents ∧ PutsIn added tree.orphans other.orphans

end FaultTree

namespace Document

variable {document : Document}

lemma exists_reference_iff {property : Reference → Prop} :
    (∃ reference ∈ document.references, property reference) ↔
      ∃ definition ∈ document.gates, ∃ reference ∈ definition.formula.arguments,
        property reference := by
  unfold references
  simp only [List.mem_flatMap]
  constructor
  · rintro ⟨reference, ⟨definition, hdefinition, hreference⟩, hproperty⟩
    exact ⟨definition, hdefinition, reference, hreference, hproperty⟩
  · rintro ⟨definition, hdefinition, reference, hreference, hproperty⟩
    exact ⟨reference, ⟨definition, hdefinition, hreference⟩, hproperty⟩

/-- No formula of the document has the name. -/
def leavesOut (document : Document) (name : String) : Bool :=
  document.references.all fun reference => Name.key reference.name ≠ Name.key name

lemma leavesOut_eq_false_iff {name : String} :
    document.leavesOut name = false ↔
      ∃ reference ∈ document.references, Name.key reference.name = Name.key name := by
  simp [leavesOut]

end Document

namespace FaultTree

variable {document : Document}

/-! ### Arguments and orphans of sound documents -/

lemma mentions_ofSound_iff {name : String} :
    (ofSound document).Mentions name ↔
      ∃ reference ∈ document.references, Name.key reference.name = Name.key name := by
  unfold Mentions
  rw [gates_ofSound, Document.exists_reference_iff]
  simp [resolvedGate, Gate.resolved, GateDefinition.toGate, Argument.resolved]

lemma target?_ofSound (document : Document) (reference : Reference) :
    (ofSound document).target? (Argument.resolved (ofBuild document).names
      ⟨reference.name, reference.complement, none⟩) = (ofSound document).lookup reference.name := by
  unfold target? lookup
  rw [names_ofSound]
  rfl

lemma mem_targets_ofSound_iff (h : document.DistinctDeclarations) {id : EventId} {event : Event}
    (hevent : (ofBuild document).event? id = some event) :
    id ∈ (ofSound document).targets ↔
      ∃ reference ∈ document.references, Name.key reference.name = Name.key event.name := by
  have hfind : ∀ name, (ofBuild document).names.find? name = some id ↔
      Name.key name = Name.key event.name := by
    intro name
    rw [find?_ofBuild_iff h, hevent]
    simp [eq_comm]
  simp only [← hfind]
  unfold targets Gate.targets
  rw [gates_ofSound, Document.exists_reference_iff]
  simp [resolvedGate, Gate.resolved, GateDefinition.toGate, Argument.resolved]

lemma map_fst_filter_zipIdx {α : Type} {items : List α} {onEntry : α × Nat → Bool} {onItem : α → Bool}
    (h : ∀ index item, items[index]? = some item → onEntry (item, index) = onItem item) :
    (items.zipIdx.filter onEntry).map Prod.fst = items.filter onItem := by
  have hentries : items.zipIdx.filter onEntry = items.zipIdx.filter (onItem ∘ Prod.fst) :=
    List.filter_congr fun entry hentry => h entry.2 entry.1 (List.mem_zipIdx_iff_getElem?.mp hentry)
  rw [hentries, ← List.filter_map, List.zipIdx_map_fst]

lemma orphans_ofSound (h : document.DistinctDeclarations) :
    (ofSound document).orphans =
      ((ofSound document).declaredEvents.filter fun event => document.leavesOut event.name).map
        .basic ++
      ((ofSound document).houseEvents.filter fun event => document.leavesOut event.name).map
        .house := by
  have htarget : ∀ id event, (ofBuild document).event? id = some event →
      (!(ofSound document).targets.contains id) = document.leavesOut event.name := by
    intro id event hevent
    rw [Bool.eq_iff_iff, ← not_iff_not, Bool.not_eq_true, Bool.not_eq_true,
      Document.leavesOut_eq_false_iff, ← mem_targets_ofSound_iff h hevent]
    simp
  have hbasic : ((ofSound document).basicEvents.zipIdx.filter fun entry =>
      entry.1.isDeclared && !(ofSound document).targets.contains (.basic entry.2)).map Prod.fst =
        (ofSound document).declaredEvents.filter fun event => document.leavesOut event.name := by
    unfold declaredEvents
    rw [List.filter_filter]
    refine map_fst_filter_zipIdx fun index event hindex => ?_
    rw [basicEvents_ofSound] at hindex
    rw [htarget (.basic index) (.basic event) (by simp [event?, hindex]), Bool.and_comm]
    rfl
  have hhouse : ((ofSound document).houseEvents.zipIdx.filter fun entry =>
      !(ofSound document).targets.contains (.house entry.2)).map Prod.fst =
        (ofSound document).houseEvents.filter fun event => document.leavesOut event.name := by
    refine map_fst_filter_zipIdx fun index event hindex => ?_
    rw [houseEvents_ofSound] at hindex
    exact htarget (.house index) (.house event) (Option.map_eq_some_iff.mpr ⟨event, hindex, rfl⟩)
  rw [← hbasic, ← hhouse, List.map_map, List.map_map]
  rfl

end FaultTree

/-! ### The tree with the new event -/

namespace Document.Gains
open FaultTree

variable {document other : Document} {name : String} {place : Place} {assigned : AssignedValue}

lemma holds_added (h : document.Gains name place assigned other) :
    (ofSound other).Holds (assigned.event name place.line) := by
  cases h with
  | probability value probabilities hputs =>
    exact holds_basic_ofSound_iff.mpr (.inl ⟨_, hputs.mem_iff.mpr (.inl rfl), rfl⟩)
  | state value states hputs =>
    exact holds_house_ofSound_iff.mpr ⟨_, hputs.mem_iff.mpr (.inl rfl), rfl⟩

lemma exists_image (h : document.Gains name place assigned other) {event : Event}
    (hholds : (ofSound document).Holds event) (hkey : Name.key event.name ≠ Name.key name) :
    ∃ image, (ofSound other).Holds image ∧ image.kind = event.kind ∧ image.name = event.name := by
  cases event with
  | gate entity =>
    obtain ⟨definition, hdefinition, rfl⟩ := holds_gate_ofSound_iff.mp hholds
    refine ⟨_, holds_gate_ofSound_iff.mpr ⟨definition, ?_, rfl⟩, rfl, rfl⟩
    rwa [h.gates_eq]
  | basic entity =>
    refine ⟨.basic entity, holds_basic_ofSound_iff.mpr ?_, rfl, rfl⟩
    rcases holds_basic_ofSound_iff.mp hholds with ⟨assignment, hassignment, rfl⟩ |
      ⟨mention, hmention, rfl⟩
    · refine .inl ⟨assignment, ?_, rfl⟩
      cases h with
      | probability value probabilities hputs => exact hputs.mem_iff.mpr (.inr hassignment)
      | state value states hputs => exact hassignment
    · refine .inr ⟨mention, ?_, rfl⟩
      rw [h.undeclared_eq]
      exact List.mem_filter.mpr ⟨hmention, decide_eq_true hkey⟩
  | house entity =>
    obtain ⟨state, hstate, rfl⟩ := holds_house_ofSound_iff.mp hholds
    refine ⟨_, holds_house_ofSound_iff.mpr ⟨state, ?_, rfl⟩, rfl, rfl⟩
    cases h with
    | probability value probabilities hputs => exact hstate
    | state value states hputs => exact hputs.mem_iff.mpr (.inr hstate)

lemma lookup_eq (h : document.Gains name place assigned other)
    (hnew : Name.key name ∉ document.declaredKeys) (hdistinct : document.DistinctDeclarations)
    {reference : Reference} (hreference : reference ∈ document.references) :
    (Name.key reference.name ≠ Name.key name → ∃ target found,
      (ofSound document).lookup reference.name = some target ∧
        (ofSound other).lookup reference.name = some found ∧
          found.kind = target.kind ∧ found.name = target.name) ∧
    (Name.key reference.name = Name.key name →
      (ofSound other).lookup reference.name = some (assigned.event name place.line)) := by
  have hlookup : ∀ event, (ofSound other).lookup reference.name = some event ↔
      (ofSound other).Holds event ∧ Name.key event.name = Name.key reference.name := fun event =>
    lookup_eq_some_iff (consistent_ofSound other).agree
      (nodup_keys_ofSound (h.distinctDeclarations hnew hdistinct))
  constructor
  · intro hkey
    obtain ⟨target, htarget, -, hname⟩ := exists_lookup_ofSound hdistinct hreference
    have hholds := ((lookup_eq_some_iff (consistent_ofSound document).agree
      (nodup_keys_ofSound hdistinct)).mp htarget).1
    obtain ⟨found, hfound, hkind, hsame⟩ := h.exists_image hholds (hname ▸ hkey)
    exact ⟨target, found, htarget, (hlookup found).mpr ⟨hfound, hsame ▸ hname⟩, hkind, hsame⟩
  · intro hkey
    exact (hlookup _).mpr ⟨h.holds_added, by rw [AssignedValue.name_event, hkey]⟩

lemma keepsGate (h : document.Gains name place assigned other)
    (hnew : Name.key name ∉ document.declaredKeys) (hdistinct : document.DistinctDeclarations)
    {definition : GateDefinition} (hdefinition : definition ∈ document.gates) :
    (ofSound document).KeepsGate (ofSound other) (assigned.event name place.line)
      (resolvedGate document definition) (resolvedGate other definition) := by
  refine ⟨rfl, rfl, ?_⟩
  unfold resolvedGate Gate.resolved GateDefinition.toGate
  rw [List.map_map, List.map_map, List.forall₂_map_left_iff, List.forall₂_map_right_iff,
    List.forall₂_same]
  intro reference hreference
  have hmem : reference ∈ document.references :=
    List.mem_flatMap.mpr ⟨definition, hdefinition, hreference⟩
  obtain ⟨hkept, hadded⟩ := h.lookup_eq hnew hdistinct hmem
  refine ⟨rfl, rfl, ?_, ?_⟩
  · rw [AssignedValue.name_event, Function.comp_apply, Function.comp_apply, target?_ofSound,
      target?_ofSound]
    exact hkept
  · rw [AssignedValue.name_event, Function.comp_apply, Function.comp_apply, target?_ofSound]
    exact hadded

lemma roots_eq (h : document.Gains name place assigned other)
    (hnew : Name.key name ∉ document.declaredKeys) (hdistinct : document.DistinctDeclarations) :
    (ofSound other).roots = (ofSound document).roots := by
  have hmem : ∀ index,
      index ∈ (other.gates.map (resolvedGate other)).flatMap Gate.gateTargets ↔
        index ∈ (document.gates.map (resolvedGate document)).flatMap Gate.gateTargets := by
    intro index
    simp only [List.mem_flatMap, List.mem_map, exists_exists_and_eq_and,
      mem_gateTargets_resolvedGate_iff hdistinct,
      mem_gateTargets_resolvedGate_iff (h.distinctDeclarations hnew hdistinct), h.gates_eq]
  change (ofBuild other).resolve.topCandidates = (ofBuild document).resolve.topCandidates
  unfold topCandidates
  rw [gates_resolve_ofBuild, gates_resolve_ofBuild, List.length_map, List.length_map, h.gates_eq]
  rw [h.gates_eq] at hmem
  refine List.filter_congr fun index _ => ?_
  rw [Bool.eq_iff_iff]
  simp only [Bool.not_eq_true', List.contains_eq_mem, decide_eq_false_iff_not, hmem index]

lemma exists_putsIn_undefinedEvents (h : document.Gains name place assigned other)
    (hnew : Name.key name ∉ document.declaredKeys)
    (hmentioned : ∃ reference ∈ document.references, Name.key reference.name = Name.key name) :
    ∃ undefined, Name.key undefined.name = Name.key name ∧
      PutsIn undefined (ofSound other).undefinedEvents (ofSound document).undefinedEvents := by
  obtain ⟨mention, hmention, hkey⟩ :=
    List.mem_map.mp (mem_undeclared_keys_iff.mpr ⟨hnew, hmentioned⟩)
  have hputs := PutsIn.of_filter_ne _ (nodup_undeclared_keys document) hmention
  rw [hkey, ← h.undeclared_eq] at hputs
  refine ⟨⟨mention.1, none, .undefined, mention.2⟩, hkey, ?_⟩
  rw [undefinedEvents_eq, undefinedEvents_eq]
  exact hputs.map _

lemma undefinedEvents_eq_of_unmentioned (h : document.Gains name place assigned other)
    (hunmentioned : ¬∃ reference ∈ document.references, Name.key reference.name = Name.key name) :
    (ofSound other).undefinedEvents = (ofSound document).undefinedEvents := by
  have hundeclared : other.undeclared = document.undeclared := by
    rw [h.undeclared_eq, List.filter_eq_self]
    intro mention hmention
    refine decide_eq_true fun hkey => hunmentioned ?_
    exact (mem_undeclared_keys_iff.mp (List.mem_map.mpr ⟨mention, hmention, hkey⟩)).2
  rw [undefinedEvents_eq, undefinedEvents_eq, hundeclared]

lemma orphans_eq (h : document.Gains name place assigned other)
    (hnew : Name.key name ∉ document.declaredKeys) (hdistinct : document.DistinctDeclarations) :
    (document.leavesOut name = false → (ofSound other).orphans = (ofSound document).orphans) ∧
    (document.leavesOut name = true →
      PutsIn (assigned.event name place.line) (ofSound document).orphans (ofSound other).orphans) := by
  have hleaves : ∀ found, other.leavesOut found = document.leavesOut found := by
    intro found
    unfold Document.leavesOut
    rw [h.references_eq]
  rw [orphans_ofSound hdistinct, orphans_ofSound (h.distinctDeclarations hnew hdistinct)]
  simp only [hleaves]
  rw [declaredEvents_eq, declaredEvents_eq, houseEvents_ofSound, houseEvents_ofSound]
  cases h with
  | probability value probabilities hputs =>
    have hevents := hputs.map fun assignment : ProbabilityAssignment =>
      (⟨assignment.name, some assignment.value, .declared, assignment.place.line⟩ : BasicEvent)
    constructor
    · intro hused
      rw [hevents.filter_of_neg (fun event => document.leavesOut event.name) hused]
    · intro hunused
      exact ((hevents.filter_of_pos (fun event => document.leavesOut event.name)
        hunused).map Event.basic).append_right _
  | state value states hputs =>
    have hevents := hputs.map fun state : StateAssignment =>
      (⟨state.name, state.value, state.place.line⟩ : HouseEvent)
    constructor
    · intro hused
      rw [hevents.filter_of_neg (fun event => document.leavesOut event.name) hused]
    · intro hunused
      exact ((hevents.filter_of_pos (fun event => document.leavesOut event.name)
        hunused).map Event.house).append_left _

theorem ofSound (h : document.Gains name place assigned other)
    (hnew : Name.key name ∉ document.declaredKeys) (hdistinct : document.DistinctDeclarations) :
    (FaultTree.ofSound document).Gains (assigned.event name place.line) (FaultTree.ofSound other) := by
  obtain ⟨hused, hunused⟩ := h.orphans_eq hnew hdistinct
  refine ⟨?_, ?_, h.roots_eq hnew hdistinct, ?_, ?_⟩
  · rw [name_ofSound, name_ofSound, h.name_eq]
  · rw [gates_ofSound, gates_ofSound, h.gates_eq, List.forall₂_map_left_iff,
      List.forall₂_map_right_iff, List.forall₂_same]
    exact fun definition hdefinition => h.keepsGate hnew hdistinct hdefinition
  · rw [AssignedValue.name_event, mentions_ofSound_iff]
    intro hmentioned
    exact ⟨h.exists_putsIn_undefinedEvents hnew hmentioned,
      hused (leavesOut_eq_false_iff.mpr hmentioned)⟩
  · rw [AssignedValue.name_event, mentions_ofSound_iff]
    intro hunmentioned
    exact ⟨h.undefinedEvents_eq_of_unmentioned hunmentioned,
      hunused (Bool.not_eq_false _ |>.mp (mt leavesOut_eq_false_iff.mp hunmentioned))⟩

end Document.Gains
end FaultTreeExchange
