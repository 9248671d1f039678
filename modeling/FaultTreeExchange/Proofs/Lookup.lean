import FaultTreeExchange.Proofs.SessionInvariant
import FaultTreeExchange.Proofs.SoundTree

/-!
# What names stand for

In the tree of an accepted source a key stands for at most one gate or event, which looking up any
spelling of it finds. Every argument has the gate or event of its name as its target, and the
statements of the source tell of which kind that is.
-/

namespace FaultTreeExchange

/-- The statement that declares the name decides what kind of gate or event stands for it. An
undefined event stands for a name that no statement declares. -/
structure Event.StandsFor (event : Event) (document : Document) (name : String) : Prop where
  gate_iff : (∃ entity, event = .gate entity) ↔
    ∃ definition ∈ document.gates, Name.key definition.name = Name.key name
  house_iff : (∃ entity, event = .house entity) ↔
    ∃ state ∈ document.states, Name.key state.name = Name.key name
  declared_iff : (∃ entity, event = .basic entity ∧ entity.origin = .declared) ↔
    ∃ assignment ∈ document.probabilities, Name.key assignment.name = Name.key name
  undefined_iff : (∃ entity, event = .basic entity ∧ entity.origin = .undefined) ↔
    ∀ declared ∈ document.declaredNames, Name.key declared ≠ Name.key name

namespace FaultTree

/-- A name is found exactly when a gate or event has its key, and that one has a key of its own. -/
structure NamesOneToOne (tree : FaultTree) : Prop where
  lookup_isSome_iff : ∀ name, (tree.lookup name).isSome ↔
    (∃ gate ∈ tree.gates, Name.key gate.name = Name.key name) ∨
    (∃ event ∈ tree.declaredEvents, Name.key event.name = Name.key name) ∨
    (∃ event ∈ tree.undefinedEvents, Name.key event.name = Name.key name) ∨
    ∃ event ∈ tree.houseEvents, Name.key event.name = Name.key name
  only : ∀ name event, tree.lookup name = some event → ∃ id, ∀ other found,
    tree.event? other = some found ∧ Name.key found.name = Name.key name ↔
      other = id ∧ found = event

variable {tree : FaultTree} {document : Document} {name : String} {event : Event}

/-! ### Looking names up -/

lemma lookup_eq_some (h : tree.lookup name = some event) :
    ∃ id, tree.names.find? name = some id ∧ tree.event? id = some event :=
  Option.bind_eq_some_iff.mp h

lemma lookup_eq_some_iff (h : tree.NamesAgree) (hkeys : (tree.names.map Prod.fst).Nodup) :
    tree.lookup name = some event ↔ tree.Holds event ∧ Name.key event.name = Name.key name := by
  rw [← exists_event?_iff]
  constructor
  · intro hlookup
    obtain ⟨id, hfind, hevent⟩ := lookup_eq_some hlookup
    obtain ⟨found, hfound, hkey⟩ := h.exists_event hfind
    rw [hevent, Option.some.injEq] at hfound
    subst hfound
    exact ⟨⟨id, hevent⟩, hkey⟩
  · rintro ⟨⟨id, hevent⟩, hkey⟩
    have hfind := (h.find?_eq_some_iff hkeys).mpr ⟨event, hevent, hkey⟩
    exact Option.bind_eq_some_iff.mpr ⟨id, hfind, hevent⟩

theorem NamesAgree.namesOneToOne (h : tree.NamesAgree) (hkeys : (tree.names.map Prod.fst).Nodup) :
    tree.NamesOneToOne where
  lookup_isSome_iff := by
    intro name
    have hbasic : (∃ event ∈ tree.basicEvents, Name.key event.name = Name.key name) ↔
        (∃ event ∈ tree.declaredEvents, Name.key event.name = Name.key name) ∨
        ∃ event ∈ tree.undefinedEvents, Name.key event.name = Name.key name := by
      simp only [← mem_declaredEvents_or_undefinedEvents, or_and_right, exists_or]
    have hfound : (tree.lookup name).isSome ↔
        ∃ id event, tree.event? id = some event ∧ Name.key event.name = Name.key name := by
      rw [Option.isSome_iff_exists, exists_comm]
      simp only [lookup_eq_some_iff h hkeys, ← exists_event?_iff, exists_and_right]
    rw [hfound, exists_event_iff, hbasic, or_assoc]
  only := by
    intro name event hlookup
    obtain ⟨id, hfind, hevent⟩ := lookup_eq_some hlookup
    refine ⟨id, fun other found => ⟨?_, ?_⟩⟩
    · rintro ⟨hfound, hkey⟩
      have hsame := (h.find?_eq_some_iff hkeys).mpr ⟨found, hfound, hkey⟩
      rw [hfind, Option.some.injEq] at hsame
      subst hsame
      rw [hevent, Option.some.injEq] at hfound
      exact ⟨rfl, hfound.symm⟩
    · rintro ⟨rfl, rfl⟩
      exact ⟨hevent, ((lookup_eq_some_iff h hkeys).mp hlookup).2⟩

/-! ### Accepted sources -/

lemma consistent_ofSound (document : Document) : (ofSound document).Consistent :=
  (consistent_ofBuild document).resolve_roots

lemma resolved_ofSound (document : Document) : (ofSound document).Resolved :=
  (consistent_ofBuild document).resolved_resolve

lemma names_ofSound (document : Document) :
    (ofSound document).names = (ofBuild document).names := by
  unfold ofSound
  rw [(namesAgree_ofBuild document).resolve_eq]

lemma nodup_keys_ofSound (h : document.DistinctDeclarations) :
    ((ofSound document).names.map Prod.fst).Nodup := by
  rw [names_ofSound]
  exact nodup_keys_ofBuild h

lemma holds_gate_ofSound_iff {entity : Gate} :
    (ofSound document).Holds (.gate entity) ↔
      ∃ definition ∈ document.gates, resolvedGate document definition = entity := by
  change entity ∈ (ofSound document).gates ↔ _
  rw [gates_ofSound, List.mem_map]

lemma holds_house_ofSound_iff {entity : HouseEvent} :
    (ofSound document).Holds (.house entity) ↔
      ∃ state ∈ document.states, ⟨state.name, state.value, state.place.line⟩ = entity := by
  change entity ∈ (ofSound document).houseEvents ↔ _
  rw [houseEvents_ofSound, List.mem_map]

lemma holds_basic_ofSound_iff {entity : BasicEvent} :
    (ofSound document).Holds (.basic entity) ↔
      (∃ assignment ∈ document.probabilities,
        ⟨assignment.name, some assignment.value, .declared, assignment.place.line⟩ = entity) ∨
      ∃ mention ∈ document.undeclared, ⟨mention.1, none, .undefined, mention.2⟩ = entity := by
  change entity ∈ (ofSound document).basicEvents ↔ _
  rw [basicEvents_ofSound]
  simp [ofBuild, addUndefined, ofDeclarations]

lemma ne_key_of_undeclared {mention : String × Nat} (h : mention ∈ document.undeclared) :
    ∀ declared ∈ document.declaredNames, Name.key declared ≠ Name.key mention.1 := by
  intro declared hdeclared hkey
  refine (mem_firstMentions_iff.mp h).1 ?_
  rw [← hkey]
  exact List.mem_map_of_mem hdeclared

theorem standsFor_of_lookup (h : document.DistinctDeclarations)
    (hlookup : (ofSound document).lookup name = some event) : event.StandsFor document name := by
  have hiff : ∀ event, (ofSound document).lookup name = some event ↔
      (ofSound document).Holds event ∧ Name.key event.name = Name.key name :=
    fun event => lookup_eq_some_iff (consistent_ofSound document).agree (nodup_keys_ofSound h)
  obtain ⟨hholds, hkey⟩ := (hiff event).mp hlookup
  have hsame : ∀ other, (ofSound document).Holds other → Name.key other.name = Name.key name →
      event = other := by
    intro other hother hkey
    have hfound := (hiff other).mpr ⟨hother, hkey⟩
    rw [hlookup] at hfound
    exact Option.some.inj hfound
  have hgate : (∃ entity, event = .gate entity) ↔
      ∃ definition ∈ document.gates, Name.key definition.name = Name.key name := by
    constructor
    · rintro ⟨entity, rfl⟩
      obtain ⟨definition, hdefinition, rfl⟩ := holds_gate_ofSound_iff.mp hholds
      exact ⟨definition, hdefinition, hkey⟩
    · rintro ⟨definition, hdefinition, hname⟩
      exact ⟨_, hsame _ (holds_gate_ofSound_iff.mpr ⟨definition, hdefinition, rfl⟩) hname⟩
  have hhouse : (∃ entity, event = .house entity) ↔
      ∃ state ∈ document.states, Name.key state.name = Name.key name := by
    constructor
    · rintro ⟨entity, rfl⟩
      obtain ⟨state, hstate, rfl⟩ := holds_house_ofSound_iff.mp hholds
      exact ⟨state, hstate, hkey⟩
    · rintro ⟨state, hstate, hname⟩
      exact ⟨_, hsame _ (holds_house_ofSound_iff.mpr ⟨state, hstate, rfl⟩) hname⟩
  have hdeclared : (∃ entity, event = .basic entity ∧ entity.origin = .declared) ↔
      ∃ assignment ∈ document.probabilities, Name.key assignment.name = Name.key name := by
    constructor
    · rintro ⟨entity, rfl, horigin⟩
      rcases holds_basic_ofSound_iff.mp hholds with ⟨assignment, hassignment, rfl⟩ | ⟨_, -, rfl⟩
      · exact ⟨assignment, hassignment, hkey⟩
      · cases horigin
    · rintro ⟨assignment, hassignment, hname⟩
      have hbasic := holds_basic_ofSound_iff.mpr (.inl ⟨assignment, hassignment, rfl⟩)
      exact ⟨_, hsame _ hbasic hname, rfl⟩
  refine ⟨hgate, hhouse, hdeclared, ?_, ?_⟩
  · rintro ⟨entity, rfl, horigin⟩ declared hname
    rcases holds_basic_ofSound_iff.mp hholds with ⟨_, -, rfl⟩ | ⟨mention, hmention, rfl⟩
    · cases horigin
    · rw [← hkey]
      exact ne_key_of_undeclared hmention declared hname
  · intro hnone
    -- No statement declares the name, so that only an undefined event can stand for it.
    unfold Document.declaredNames at hnone
    simp only [List.forall_mem_append, List.forall_mem_map] at hnone
    obtain ⟨⟨hgates, hprobabilities⟩, hstates⟩ := hnone
    cases event with
    | gate entity =>
      obtain ⟨definition, hdefinition, hname⟩ := hgate.mp ⟨entity, rfl⟩
      exact absurd hname (hgates definition hdefinition)
    | house entity =>
      obtain ⟨state, hstate, hname⟩ := hhouse.mp ⟨entity, rfl⟩
      exact absurd hname (hstates state hstate)
    | basic entity =>
      refine ⟨entity, rfl, ?_⟩
      cases horigin : entity.origin with
      | undefined => rfl
      | declared =>
        obtain ⟨assignment, hassignment, hname⟩ := hdeclared.mp ⟨entity, rfl, horigin⟩
        exact absurd hname (hprobabilities assignment hassignment)

end FaultTree

/-- In the tree of an accepted source names and entities belong together one to one. Its gates are
the definitions of the source, every argument has what its name is looked up as for its target,
which is of the kind that the statements say, and two arguments share a target exactly when they
share a key. -/
theorem translate_names_one_to_one {source file : String} {multiTop : Bool} {tree : FaultTree}
    (h : translate source file multiTop = .ok tree) :
    tree.NamesOneToOne ∧ ∃ document, Document.parse source file = .ok document ∧
      tree.gates.map Gate.asBuilt = document.gates.map GateDefinition.toGate ∧
      (∀ gate ∈ tree.gates, ∀ argument ∈ gate.arguments, ∃ id event,
        argument.target = some id ∧ tree.event? id = some event ∧
        tree.lookup argument.name = some event ∧ event.StandsFor document argument.name) ∧
      ∀ gate ∈ tree.gates, ∀ argument ∈ gate.arguments,
        ∀ other ∈ tree.gates, ∀ second ∈ other.arguments,
          argument.target = second.target ↔ Name.key argument.name = Name.key second.name := by
  obtain ⟨document, hparse, htree⟩ := translate_eq_ok h
  obtain ⟨hsound, rfl⟩ := FaultTree.ofDocument_eq_ok_iff.mp htree
  have hdistinct := hsound.distinctDeclarations
  have hagree := (FaultTree.consistent_ofSound document).agree
  have hkeys := FaultTree.nodup_keys_ofSound hdistinct
  have htarget : ∀ gate ∈ (FaultTree.ofSound document).gates, ∀ argument ∈ gate.arguments,
      ∃ id event, argument.target = some id ∧
        (FaultTree.ofSound document).names.find? argument.name = some id ∧
        (FaultTree.ofSound document).event? id = some event ∧
        Name.key event.name = Name.key argument.name := by
    intro gate hgate argument hargument
    obtain ⟨id, hfind⟩ := hagree.argument_known gate hgate argument hargument
    obtain ⟨event, hevent, hkey⟩ := hagree.exists_event hfind
    have hset := (FaultTree.resolved_ofSound document).target_eq hgate hargument
    exact ⟨id, event, hset.trans hfind, hfind, hevent, hkey⟩
  refine ⟨hagree.namesOneToOne hkeys, document, hparse, ?_, ?_, ?_⟩
  · rw [FaultTree.gates_ofSound, List.map_map]
    refine List.map_congr_left fun definition _ => ?_
    exact (Gate.asBuilt_resolved _ definition.toGate).trans definition.asBuilt_toGate
  · intro gate hgate argument hargument
    obtain ⟨id, event, hid, hfind, hevent, hkey⟩ := htarget gate hgate argument hargument
    have hlookup : (FaultTree.ofSound document).lookup argument.name = some event :=
      Option.bind_eq_some_iff.mpr ⟨id, hfind, hevent⟩
    exact ⟨id, event, hid, hevent, hlookup, FaultTree.standsFor_of_lookup hdistinct hlookup⟩
  · intro gate hgate argument hargument other hother second hsecond
    obtain ⟨id, event, hid, hfind, hevent, hkey⟩ := htarget gate hgate argument hargument
    obtain ⟨id', event', hid', hfind', hevent', hkey'⟩ := htarget other hother second hsecond
    rw [hid, hid', Option.some.injEq]
    constructor
    · rintro rfl
      rw [hevent, Option.some.injEq] at hevent'
      rw [← hkey, hevent', hkey']
    · intro hsame
      have hfound := (hagree.find?_eq_some_iff hkeys).mpr ⟨event', hevent', hkey'.trans hsame.symm⟩
      rw [hfind, Option.some.injEq] at hfound
      exact hfound

/-- In the sample the argument `pump` stands for what its name is looked up as. -/
theorem sample_names_one_to_one :
    ∃ tree, translate sampleSource "plant.ft" false = .ok tree ∧ tree.NamesOneToOne ∧
      ∃ document event, Document.parse sampleSource "plant.ft" = .ok document ∧
        tree.lookup "pump" = some event ∧ event.StandsFor document "pump" := by
  have hargument : ∃ gate ∈ (FaultTree.ofSound sampleDocument).gates,
      ∃ argument ∈ gate.arguments, argument.name = "pump" := by
    decide +kernel
  obtain ⟨gate, hgate, argument, hargument, hname⟩ := hargument
  obtain ⟨hnames, document, hparse, -, htargets, -⟩ :=
    translate_names_one_to_one translate_sampleSource
  obtain ⟨id, event, -, -, hlookup, hstands⟩ := htargets gate hgate argument hargument
  rw [hname] at hlookup hstands
  exact ⟨_, translate_sampleSource, hnames, document, event, hparse, hlookup, hstands⟩

end FaultTreeExchange
