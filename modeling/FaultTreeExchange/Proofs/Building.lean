import FaultTreeExchange.FaultTree.Build
import FaultTreeExchange.Proofs.NameTable
import FaultTreeExchange.Proofs.Occurrence

/-!
# Trees of documents

A document is refused by the builder exactly when a formula repeats an argument. The tree that it
gets otherwise has one undefined event for each name that is mentioned and not declared, and its name
table agrees with it.
-/

namespace FaultTreeExchange

namespace Reference

/-- What a formula may hold once: the key of a name, with a polarity. -/
def mark (reference : Reference) : String × Bool :=
  (Name.key reference.name, reference.complement)

lemma firstRepeated_eq_none_iff (seen : List (String × Bool)) (references : List Reference) :
    firstRepeated seen references = none ↔ Fresh mark seen references := by
  induction references generalizing seen with
  | nil => simp [firstRepeated, Fresh]
  | cons reference rest ih =>
    rw [fresh_cons_iff, ← ih]
    change (if seen.contains reference.mark then some reference
      else firstRepeated (reference.mark :: seen) rest) = none ↔ _
    by_cases hseen : reference.mark ∈ seen
    · simp [hseen]
    · simp [hseen]

end Reference

namespace GateDefinition

/-- The formula names an event at most once for each polarity. -/
def DistinctArguments (definition : GateDefinition) : Prop :=
  (definition.formula.arguments.map Reference.mark).Nodup

lemma checkRepeated_eq_ok_iff (definition : GateDefinition) :
    definition.checkRepeated = .ok () ↔ definition.DistinctArguments := by
  rw [DistinctArguments, ← fresh_nil_iff, ← Reference.firstRepeated_eq_none_iff, checkRepeated]
  cases Reference.firstRepeated [] definition.formula.arguments with
  | none => simp
  | some reference => simp

end GateDefinition

namespace FaultTree

/-- The mentions of names whose keys are not known yet, each name where it is mentioned first. -/
def firstMentions (known : List String) : List (String × Nat) → List (String × Nat)
  | [] => []
  | mention :: rest =>
    if Name.key mention.1 ∈ known then firstMentions known rest
    else mention :: firstMentions (Name.key mention.1 :: known) rest

lemma firstMentions_eq (known : List String) (mentions : List (String × Nat)) :
    firstMentions known mentions =
      firstOccurrences (fun mention => Name.key mention.1) known mentions := by
  induction mentions generalizing known with
  | nil => rfl
  | cons mention rest ih => rw [firstMentions, firstOccurrences_cons, ih, ih]

lemma firstMentions_congr {known known' : List String}
    (h : ∀ key, key ∈ known ↔ key ∈ known') (mentions : List (String × Nat)) :
    firstMentions known mentions = firstMentions known' mentions := by
  rw [firstMentions_eq, firstMentions_eq, firstOccurrences_congr h]

lemma mem_firstMentions_iff {known : List String} {mentions : List (String × Nat)}
    {mention : String × Nat} :
    mention ∈ firstMentions known mentions ↔
      Name.key mention.1 ∉ known ∧ IsFirst (fun mention => Name.key mention.1) mentions mention := by
  induction mentions generalizing known with
  | nil => simp [firstMentions, IsFirst]
  | cons first rest ih =>
    rw [isFirst_cons_iff, firstMentions]
    by_cases hknown : Name.key first.1 ∈ known
    · rw [if_pos hknown, ih]
      constructor
      · rintro ⟨hnew, hfirst⟩
        exact ⟨hnew, Or.inr ⟨fun heq => hnew (heq ▸ hknown), hfirst⟩⟩
      · rintro ⟨hnew, rfl | ⟨-, hfirst⟩⟩
        · exact absurd hknown hnew
        · exact ⟨hnew, hfirst⟩
    · rw [if_neg hknown, List.mem_cons, ih, List.mem_cons, not_or]
      constructor
      · rintro (rfl | ⟨⟨hne, hnew⟩, hfirst⟩)
        · exact ⟨hknown, Or.inl rfl⟩
        · exact ⟨hnew, Or.inr ⟨fun heq => hne heq.symm, hfirst⟩⟩
      · rintro ⟨hnew, rfl | ⟨hne, hfirst⟩⟩
        · exact Or.inl rfl
        · exact Or.inr ⟨⟨fun heq => hne heq.symm, hnew⟩, hfirst⟩

def addUndefined (tree : FaultTree) (mentions : List (String × Nat)) : FaultTree :=
  { tree with
    basicEvents := tree.basicEvents ++
      mentions.map fun (name, line) => ⟨name, none, .undefined, line⟩
    names := tree.names ++
      (mentions.zipIdx tree.basicEvents.length).map fun ((name, _), index) =>
        (Name.key name, .basic index) }

@[simp]
lemma addUndefined_nil (tree : FaultTree) : tree.addUndefined [] = tree := by
  simp [addUndefined]

lemma intern_of_known {tree : FaultTree} {name : String} (line : Nat)
    (h : Name.key name ∈ tree.names.map Prod.fst) : (tree.intern name line).2 = tree := by
  obtain ⟨id, hfind⟩ := NameTable.exists_find?_eq_some_iff.mpr h
  unfold intern
  rw [hfind]

lemma intern_of_new {tree : FaultTree} {name : String} (line : Nat)
    (h : Name.key name ∉ tree.names.map Prod.fst) :
    (tree.intern name line).2 = tree.addUndefined [(name, line)] := by
  unfold intern
  rw [NameTable.find?_eq_none_iff.mpr h]
  rfl

lemma addUndefined_addUndefined (tree : FaultTree) (mentions others : List (String × Nat)) :
    (tree.addUndefined mentions).addUndefined others = tree.addUndefined (mentions ++ others) := by
  simp [addUndefined, List.zipIdx_append]

/-- Interning names one after another adds an event for each first mention. -/
lemma foldl_intern (tree : FaultTree) (mentions : List (String × Nat)) :
    mentions.foldl (fun tree (name, line) => (tree.intern name line).2) tree =
      tree.addUndefined (firstMentions (tree.names.map Prod.fst) mentions) := by
  induction mentions generalizing tree with
  | nil => simp [firstMentions]
  | cons mention rest ih =>
    obtain ⟨name, line⟩ := mention
    rw [List.foldl_cons, ih, firstMentions]
    dsimp only
    by_cases hknown : Name.key name ∈ tree.names.map Prod.fst
    · rw [intern_of_known line hknown, if_pos hknown]
    · rw [intern_of_new line hknown, if_neg hknown, addUndefined_addUndefined,
        List.singleton_append]
      congr 2
      refine firstMentions_congr (fun key => ?_) rest
      simp [addUndefined, or_comm]

end FaultTree

namespace Document

/-- The names that the statements of a document declare, kind by kind. -/
def declaredNames (document : Document) : List String :=
  document.gates.map GateDefinition.name ++
    document.probabilities.map ProbabilityAssignment.name ++
    document.states.map StateAssignment.name

def declaredKeys (document : Document) : List String :=
  document.declaredNames.map Name.key

def references (document : Document) : List Reference :=
  document.gates.flatMap fun definition => definition.formula.arguments

/-- The mentions of undeclared names, each name where it is mentioned first. -/
def undeclared (document : Document) : List (String × Nat) :=
  FaultTree.firstMentions document.declaredKeys (FaultTree.mentions document)

lemma map_fst_mentions (document : Document) :
    (FaultTree.mentions document).map Prod.fst = document.references.map Reference.name := by
  unfold FaultTree.mentions references
  rw [List.map_flatMap, List.map_flatMap]
  congr 1
  funext definition
  rw [List.map_map]
  rfl

lemma mem_undeclared_names_iff {document : Document} {name : String} :
    name ∈ document.undeclared.map Prod.fst ↔
      Name.key name ∉ document.declaredKeys ∧
        IsFirst Name.key (document.references.map Reference.name) name := by
  rw [← map_fst_mentions, isFirst_map_iff, List.mem_map]
  constructor
  · rintro ⟨mention, hmention, rfl⟩
    obtain ⟨hnew, hfirst⟩ := FaultTree.mem_firstMentions_iff.mp hmention
    exact ⟨hnew, mention, hfirst, rfl⟩
  · rintro ⟨hnew, mention, hfirst, rfl⟩
    exact ⟨mention, FaultTree.mem_firstMentions_iff.mpr ⟨hnew, hfirst⟩, rfl⟩

end Document

namespace FaultTree

def ofBuild (document : Document) : FaultTree :=
  (ofDeclarations document).addUndefined document.undeclared

lemma map_fst_entries {α : Type} (key : α → String) (place : Nat → EventId) (items : List α)
    (start : Nat) :
    ((items.zipIdx start).map fun (item, index) => (key item, place index)).map Prod.fst =
      items.map key := by
  rw [List.map_map]
  change (items.zipIdx start).map (key ∘ Prod.fst) = items.map key
  rw [← List.map_map, List.zipIdx_map_fst]

lemma mem_entries_iff {α : Type} (key : α → String) (place : Nat → EventId) {items : List α}
    {start : Nat} {entry : String × EventId} :
    entry ∈ ((items.zipIdx start).map fun (item, index) => (key item, place index)) ↔
      ∃ index item, items[index]? = some item ∧ key item = entry.1 ∧
        place (start + index) = entry.2 := by
  obtain ⟨name, id⟩ := entry
  simp only [List.mem_map, Prod.exists, Prod.mk.injEq, List.mem_zipIdx_iff_le_and_getElem?_sub]
  constructor
  · rintro ⟨item, index, ⟨hle, hitem⟩, hname, hplace⟩
    exact ⟨index - start, item, hitem, hname, by rwa [Nat.add_sub_cancel' hle]⟩
  · rintro ⟨index, item, hitem, hname, hplace⟩
    exact ⟨item, start + index, ⟨by omega, by rwa [Nat.add_sub_cancel_left]⟩, hname, hplace⟩

lemma keys_ofDeclarations (document : Document) :
    (ofDeclarations document).names.map Prod.fst = document.declaredKeys := by
  unfold ofDeclarations Document.declaredKeys Document.declaredNames
  rw [List.map_append, List.map_append,
    map_fst_entries (fun item : GateDefinition => Name.key item.name),
    map_fst_entries (fun item : ProbabilityAssignment => Name.key item.name),
    map_fst_entries (fun item : StateAssignment => Name.key item.name),
    List.map_append, List.map_append, List.map_map, List.map_map, List.map_map]
  rfl

lemma keys_ofBuild (document : Document) :
    (ofBuild document).names.map Prod.fst =
      document.declaredKeys ++ document.undeclared.map fun mention => Name.key mention.1 := by
  unfold ofBuild addUndefined
  rw [List.map_append, keys_ofDeclarations,
    map_fst_entries (fun mention : String × Nat => Name.key mention.1)]

theorem build_eq_ok_iff {document : Document} {tree : FaultTree} :
    build document = .ok tree ↔
      (∀ definition ∈ document.gates, definition.DistinctArguments) ∧ tree = ofBuild document := by
  have hcheck := forM_eq_ok_iff GateDefinition.checkRepeated document.gates
  simp only [GateDefinition.checkRepeated_eq_ok_iff] at hcheck
  unfold build
  rw [foldl_intern, keys_ofDeclarations, ← hcheck]
  cases document.gates.forM GateDefinition.checkRepeated with
  | ok => simp [bind, Except.bind, pure, Except.pure, ofBuild, Document.undeclared, eq_comm]
  | error => simp [bind, Except.bind]

lemma build_of_distinctMarks {document : Document}
    (h : ∀ definition ∈ document.gates, (definition.formula.arguments.map Reference.mark).Nodup) :
    build document = .ok (ofBuild document) :=
  build_eq_ok_iff.mpr ⟨h, rfl⟩

lemma entry_ofBuild_iff (document : Document) (key : String) (id : EventId) :
    (key, id) ∈ (ofBuild document).names ↔
      ∃ event, (ofBuild document).event? id = some event ∧ Name.key event.name = key := by
  simp only [ofBuild, addUndefined, ofDeclarations, List.mem_append]
  rw [mem_entries_iff (fun item : GateDefinition => Name.key item.name),
    mem_entries_iff (fun item : ProbabilityAssignment => Name.key item.name),
    mem_entries_iff (fun item : StateAssignment => Name.key item.name),
    mem_entries_iff (fun mention : String × Nat => Name.key mention.1)]
  cases id with
  | gate index => simp [event?, GateDefinition.toGate, Event.name]
  | basic index =>
    simp only [event?, List.getElem?_append, List.length_map, List.getElem?_map]
    by_cases hlt : index < document.probabilities.length
    · have hlate : ∀ late, document.probabilities.length + late ≠ index := fun late => by omega
      simp [hlt, hlate, Event.name]
    · have hlate : ∀ late, document.probabilities.length + late = index ↔
          late = index - document.probabilities.length := fun late => by omega
      simp [hlt, hlate, Event.name]
  | house index => simp [event?, Event.name]

lemma mem_mentions {document : Document} {definition : GateDefinition} {reference : Reference}
    (hdefinition : definition ∈ document.gates)
    (hreference : reference ∈ definition.formula.arguments) :
    (reference.name, definition.place.line) ∈ mentions document :=
  List.mem_flatMap.mpr ⟨definition, hdefinition, List.mem_map.mpr ⟨reference, hreference, rfl⟩⟩

lemma key_mem_ofBuild {document : Document} {name : String} {line : Nat}
    (h : (name, line) ∈ mentions document) :
    Name.key name ∈ (ofBuild document).names.map Prod.fst := by
  rw [keys_ofBuild, List.mem_append]
  by_cases hdeclared : Name.key name ∈ document.declaredKeys
  · exact Or.inl hdeclared
  · obtain ⟨first, hfirst, hkey⟩ := exists_isFirst (fun mention => Name.key mention.1) h
    rw [← hkey] at hdeclared ⊢
    have hundeclared : first ∈ document.undeclared :=
      mem_firstMentions_iff.mpr ⟨hdeclared, hfirst⟩
    exact Or.inr (List.mem_map.mpr ⟨first, hundeclared, rfl⟩)

theorem namesAgree_ofBuild (document : Document) : (ofBuild document).NamesAgree where
  entry_iff := entry_ofBuild_iff document
  argument_known := by
    intro gate hgate argument hargument
    obtain ⟨definition, hdefinition, rfl⟩ := List.mem_map.mp hgate
    obtain ⟨reference, hreference, rfl⟩ := List.mem_map.mp hargument
    have hkey : Name.key reference.name ∈ (ofBuild document).names.map Prod.fst :=
      key_mem_ofBuild (mem_mentions hdefinition hreference)
    exact NameTable.exists_find?_eq_some_iff.mpr hkey

end FaultTree
end FaultTreeExchange
