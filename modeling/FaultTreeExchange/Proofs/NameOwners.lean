import FaultTreeExchange.Proofs.Building
import FaultTreeExchange.Proofs.StatementLines
import Mathlib.Data.Prod.Lex
import Mathlib.Order.WellFounded

/-!
# Owners of names

A tree that has been built, and not yet validated, may have several declarations of one name. The name
is given out kind by kind: to the first gate with it, where there is none to the first probability, and
then to the first state. So the earliest declaration of a name owns it unless a later one is of a kind
that comes before.
-/

namespace FaultTreeExchange

namespace Statement

/-- The name that a statement declares. -/
def name : Statement → String
  | .gate definition => definition.name
  | .probability assignment => assignment.name
  | .state assignment => assignment.name

/-- The turn of a kind of statements when names are given out. -/
def rank : Statement → Nat
  | .gate _ => 0
  | .probability _ => 1
  | .state _ => 2

/-- The gate or event that a statement becomes. -/
def entity : Statement → Event
  | .gate definition => .gate definition.toGate
  | .probability assignment =>
    .basic ⟨assignment.name, some assignment.value, .declared, assignment.place.line⟩
  | .state assignment => .house ⟨assignment.name, assignment.value, assignment.place.line⟩

/-- The statement stands on the line and declares the name, in some letter case. -/
structure Declares (statement : Statement) (source file name : String) (index : Nat) : Prop where
  stands : statement.StandsAt source file index
  named : Name.key statement.name = Name.key name

/-- Of the statements that declare the name, the one whose kind has the first turn, and the first one of
this kind in the source. -/
structure Owns (statement : Statement) (source file name : String) (index : Nat) : Prop where
  declares : statement.Declares source file name index
  first : ∀ (position : Nat) (other : Statement), other.Declares source file name position →
    statement.rank < other.rank ∨ statement.rank = other.rank ∧ index ≤ position

variable {source file name : String} {index : Nat} {statement other : Statement}

lemma Declares.exists_owns (h : statement.Declares source file name index) :
    ∃ (index : Nat) (owner : Statement), owner.Owns source file name index := by
  -- The owner is the declaration with the least pair of rank and line, ranks first.
  let turns : Set (ℕ ×ₗ ℕ) := {turn | ∃ (position : Nat) (other : Statement),
    other.Declares source file name position ∧ toLex (other.rank, position) = turn}
  obtain ⟨_, ⟨position, owner, howner, rfl⟩, hleast⟩ :=
    wellFounded_lt.has_min turns ⟨_, index, statement, h, rfl⟩
  refine ⟨position, owner, howner, fun later other hother => ?_⟩
  have hle := not_lt.mp (hleast _ ⟨later, other, hother, rfl⟩)
  rwa [Prod.Lex.toLex_le_toLex] at hle

lemma Owns.unique {position : Nat} (h : statement.Owns source file name index)
    (hother : other.Owns source file name position) : position = index ∧ other = statement := by
  have hsame : position = index := by
    rcases h.first position other hother.declares with hless | ⟨heq, hle⟩
    · rcases hother.first index statement h.declares with hmore | ⟨hrank, -⟩ <;> omega
    · rcases hother.first index statement h.declares with hmore | ⟨-, hge⟩ <;> omega
  subst hsame
  exact ⟨rfl, h.declares.stands.unique hother.declares.stands⟩

lemma rank_eq_of_entity_eq (h : statement.entity = other.entity) : statement.rank = other.rank := by
  cases statement <;> cases other <;> simp [entity, rank] at h ⊢

lemma name_and_rank_of_gate? {item : GateDefinition} (h : other.gate? = some item) :
    other.name = item.name ∧ other.rank = 0 := by
  cases other <;> cases h
  exact ⟨rfl, rfl⟩

lemma name_and_rank_of_probability? {item : ProbabilityAssignment}
    (h : other.probability? = some item) : other.name = item.name ∧ other.rank = 1 := by
  cases other <;> cases h
  exact ⟨rfl, rfl⟩

lemma name_and_rank_of_state? {item : StateAssignment} (h : other.state? = some item) :
    other.name = item.name ∧ other.rank = 2 := by
  cases other <;> cases h
  exact ⟨rfl, rfl⟩

section Search

variable {α : Type} {select : Statement → Option α} {nameOf : α → String} {rank : Nat} {found : α}

lemma Owns.find?_eq_some (h : statement.Owns source file name index)
    (hkind : ∀ {other item}, select other = some item → other.name = nameOf item ∧ other.rank = rank)
    (hselect : select statement = some found) :
    ((statementsOf source file).filterMap select).find?
      (fun item => Name.key (nameOf item) = Name.key name) = some found := by
  obtain ⟨hname, hrank⟩ := hkind hselect
  rw [find?_statementsOf_eq_some_iff]
  refine ⟨decide_eq_true (hname ▸ h.declares.named), index, statement, h.declares.stands, hselect, ?_⟩
  intro earlier hlt other hother item hitem
  obtain ⟨hitemName, hitemRank⟩ := hkind hitem
  refine decide_eq_false fun hkey => ?_
  rcases h.first earlier other ⟨hother, hitemName ▸ hkey⟩ with hless | ⟨-, hle⟩ <;> omega

lemma Owns.find?_eq_none (h : statement.Owns source file name index)
    (hkind : ∀ {other item}, select other = some item → other.name = nameOf item ∧ other.rank = rank)
    (hrank : rank < statement.rank) :
    ((statementsOf source file).filterMap select).find?
      (fun item => Name.key (nameOf item) = Name.key name) = none := by
  rw [find?_statementsOf_eq_none_iff]
  intro position other hother item hitem
  obtain ⟨hitemName, hitemRank⟩ := hkind hitem
  refine decide_eq_false fun hkey => ?_
  rcases h.first position other ⟨hother, hitemName ▸ hkey⟩ with hless | ⟨heq, -⟩ <;> omega

end Search
end Statement

namespace FaultTree

/-- The entries of items in a name table, with the positions from the start on. -/
def entries {α : Type} (keyOf : α → String) (place : Nat → EventId) (start : Nat) (items : List α) :
    NameTable :=
  (items.zipIdx start).map fun (item, index) => (keyOf item, place index)

/-- Of items with entries in front of others the first one with the key is found, and where there is none
the search goes on. -/
lemma lookup_entries_append {α : Type} {keyOf : α → String} {place : Nat → EventId} {start : Nat}
    {items : List α} {event? : EventId → Option Event} {entity : α → Event} {key : String}
    {rest : NameTable} (h : ∀ index item, items[index]? = some item →
      event? (place (start + index)) = some (entity item)) :
    ((entries keyOf place start items ++ rest).lookup key).bind event? =
      ((items.find? fun item => keyOf item = key).map entity).or ((rest.lookup key).bind event?) := by
  induction items generalizing start with
  | nil => rfl
  | cons item items ih =>
    have hcons : entries keyOf place start (item :: items) =
        (keyOf item, place start) :: entries keyOf place (start + 1) items := rfl
    rw [hcons, List.cons_append, List.lookup_cons, List.find?_cons]
    by_cases hkey : keyOf item = key
    · have hitem := h 0 item rfl
      rw [Nat.add_zero] at hitem
      simp [hkey, hitem]
    · simp only [beq_false_of_ne (Ne.symm hkey), decide_eq_false hkey]
      refine ih fun index item hitem => ?_
      rw [Nat.add_assoc, Nat.add_comm 1 index]
      exact h (index + 1) item hitem

lemma names_ofBuild (document : Document) :
    (ofBuild document).names =
      entries (fun item => Name.key item.name) .gate 0 document.gates ++
      (entries (fun item => Name.key item.name) .basic 0 document.probabilities ++
      (entries (fun item => Name.key item.name) .house 0 document.states ++
      (entries (fun item => Name.key item.1) .basic document.probabilities.length
        document.undeclared ++ []))) := by
  simp [ofBuild, addUndefined, ofDeclarations, entries]

/-- What is found under a name in a tree that has been built: the first gate, probability or state with
it, in this order of kinds, and then the undefined event of the name. -/
theorem lookup_ofBuild (document : Document) (name : String) :
    (ofBuild document).lookup name =
      ((document.gates.find? fun item => Name.key item.name = Name.key name).map fun item =>
        (Statement.gate item).entity).or
      (((document.probabilities.find? fun item => Name.key item.name = Name.key name).map fun item =>
        (Statement.probability item).entity).or
      (((document.states.find? fun item => Name.key item.name = Name.key name).map fun item =>
        (Statement.state item).entity).or
      ((document.undeclared.find? fun item => Name.key item.1 = Name.key name).map fun item =>
        .basic ⟨item.1, none, .undefined, item.2⟩))) := by
  have hgates : ∀ index item, document.gates[index]? = some item →
      (ofBuild document).event? (.gate (0 + index)) = some (Statement.gate item).entity := by
    intro index item hitem
    simp [event?, ofBuild, addUndefined, ofDeclarations, Statement.entity, hitem]
  have hprobabilities : ∀ index item, document.probabilities[index]? = some item →
      (ofBuild document).event? (.basic (0 + index)) = some (Statement.probability item).entity := by
    intro index item hitem
    obtain ⟨hlt, rfl⟩ := List.getElem?_eq_some_iff.mp hitem
    simp [event?, ofBuild, addUndefined, ofDeclarations, Statement.entity, List.getElem?_append, hlt]
  have hstates : ∀ index item, document.states[index]? = some item →
      (ofBuild document).event? (.house (0 + index)) = some (Statement.state item).entity := by
    intro index item hitem
    simp [event?, ofBuild, addUndefined, ofDeclarations, Statement.entity, hitem]
  have hundeclared : ∀ index item, document.undeclared[index]? = some item →
      (ofBuild document).event? (.basic (document.probabilities.length + index)) =
        some (.basic ⟨item.1, none, .undefined, item.2⟩) := by
    intro index item hitem
    simp [event?, ofBuild, addUndefined, ofDeclarations, List.getElem?_append, hitem]
  unfold lookup NameTable.find?
  rw [names_ofBuild, lookup_entries_append hgates, lookup_entries_append hprobabilities,
    lookup_entries_append hstates, lookup_entries_append hundeclared]
  simp

variable {source file name : String} {index : Nat} {document : Document} {built : FaultTree}
  {statement : Statement}

lemma lookup_of_owns (hparse : Document.parse source file = .ok document)
    (howns : statement.Owns source file name index) :
    (ofBuild document).lookup name = some statement.entity := by
  rw [lookup_ofBuild, Document.gates_of_parse hparse, Document.probabilities_of_parse hparse,
    Document.states_of_parse hparse]
  cases statement with
  | gate definition =>
    rw [howns.find?_eq_some Statement.name_and_rank_of_gate? rfl]
    rfl
  | probability assignment =>
    rw [howns.find?_eq_none Statement.name_and_rank_of_gate? (by decide : 0 < 1),
      howns.find?_eq_some Statement.name_and_rank_of_probability? rfl]
    rfl
  | state assignment =>
    rw [howns.find?_eq_none Statement.name_and_rank_of_gate? (by decide : 0 < 2),
      howns.find?_eq_none Statement.name_and_rank_of_probability? (by decide : 1 < 2),
      howns.find?_eq_some Statement.name_and_rank_of_state? rfl]
    rfl

/-- A tree that has been built finds under a name, in any letter case, what the owner of the name has
become, and every name that is declared has exactly one owner. What the earliest declaration of the name has
become is found exactly when no other one is of a kind with an earlier turn. -/
theorem lookup_finds_owner (hparse : Document.parse source file = .ok document)
    (hbuild : build document = .ok built) (name : String) :
    (∀ index (statement : Statement), statement.Owns source file name index →
      built.lookup name = some statement.entity) ∧
    (∀ index (statement : Statement), statement.Declares source file name index →
      ∃ (position : Nat) (owner : Statement), owner.Owns source file name position ∧
        ∀ second (other : Statement), other.Owns source file name second →
          second = position ∧ other = owner) ∧
    ∀ index (statement : Statement), statement.Declares source file name index →
      (∀ position (other : Statement), other.Declares source file name position → index ≤ position) →
      (built.lookup name = some statement.entity ↔
        ∀ position (other : Statement), other.Declares source file name position →
          statement.rank ≤ other.rank) := by
  obtain ⟨-, rfl⟩ := build_eq_ok_iff.mp hbuild
  refine ⟨fun index statement => lookup_of_owns hparse, fun index statement hdeclares => ?_,
    fun index statement hdeclares hearliest => ⟨?_, ?_⟩⟩
  · obtain ⟨position, owner, howns⟩ := hdeclares.exists_owns
    exact ⟨position, owner, howns, fun second other hother => howns.unique hother⟩
  · intro hlookup position other hother
    obtain ⟨_, owner, howns⟩ := hdeclares.exists_owns
    rw [lookup_of_owns hparse howns, Option.some.injEq] at hlookup
    rw [← Statement.rank_eq_of_entity_eq hlookup]
    rcases howns.first position other hother with hless | ⟨heq, -⟩ <;> omega
  · intro hleast
    refine lookup_of_owns hparse ⟨hdeclares, fun position other hother => ?_⟩
    have hrank := hleast position other hother
    have hindex := hearliest position other hother
    omega

/-- A state, and a gate of the same name below it. -/
def disputedSource : String :=
  "Plant\ns(Pump) = true\nPUMP := Mains\n"

def disputedState : StateAssignment := ⟨"Pump", true, ⟨"plant.ft", 2⟩⟩

def disputedGate : GateDefinition := ⟨"PUMP", ⟨.null, [⟨"Mains", false⟩]⟩, ⟨"plant.ft", 3⟩⟩

def disputedDocument : Document where
  name := "Plant"
  place := ⟨"plant.ft", 1⟩
  gates := [disputedGate]
  probabilities := []
  states := [disputedState]

lemma parse_disputedSource : Document.parse disputedSource "plant.ft" = .ok disputedDocument := by
  decide +kernel

lemma build_disputedDocument : build disputedDocument = .ok (ofBuild disputedDocument) :=
  build_of_distinctMarks (by decide +kernel)

lemma standsAt_disputedSource_iff :
    statement.StandsAt disputedSource "plant.ft" index ↔
      index = 1 ∧ statement = .state disputedState ∨ index = 2 ∧ statement = .gate disputedGate := by
  have hlines : ((sourceLines disputedSource).zipIdx 1).map (Statement.onLine? "plant.ft") =
      [none, some (.state disputedState), some (.gate disputedGate)] := by decide +kernel
  have hread : ∀ index : Nat, ((sourceLines disputedSource).zipIdx 1)[index]?.bind
      (Statement.onLine? "plant.ft") =
        [none, some (Statement.state disputedState), some (.gate disputedGate)][index]?.bind id := by
    intro index
    rw [← hlines, List.getElem?_map, Option.bind_map, Function.id_comp]
  rw [Statement.standsAt_iff, hread]
  rcases index with _ | _ | _ | index <;> simp [eq_comm]

/-- The gate owns the name, though it is declared later than the state. -/
theorem sample_gate_owns_name :
    (Statement.gate disputedGate).Owns disputedSource "plant.ft" "pump" 2 ∧
    (ofBuild disputedDocument).lookup "pump" = some (.gate disputedGate.toGate) ∧
    (ofBuild disputedDocument).lookup "pump" ≠ some (Statement.state disputedState).entity := by
  obtain ⟨hfound, -, hearliest⟩ :=
    lookup_finds_owner parse_disputedSource build_disputedDocument "pump"
  have hstate : (Statement.state disputedState).Declares disputedSource "plant.ft" "pump" 1 :=
    ⟨standsAt_disputedSource_iff.mpr (.inl ⟨rfl, rfl⟩), by decide +kernel⟩
  have hgate : (Statement.gate disputedGate).Declares disputedSource "plant.ft" "pump" 2 :=
    ⟨standsAt_disputedSource_iff.mpr (.inr ⟨rfl, rfl⟩), by decide +kernel⟩
  have howns : (Statement.gate disputedGate).Owns disputedSource "plant.ft" "pump" 2 := by
    refine ⟨hgate, fun position other hother => ?_⟩
    rcases standsAt_disputedSource_iff.mp hother.stands with ⟨rfl, rfl⟩ | ⟨rfl, rfl⟩
    · exact .inl (by decide)
    · exact .inr ⟨rfl, le_rfl⟩
  refine ⟨howns, hfound 2 _ howns, fun hlookup => ?_⟩
  rw [hearliest 1 _ hstate] at hlookup
  · exact absurd (hlookup 2 _ hgate) (by decide)
  · intro position other hother
    rcases standsAt_disputedSource_iff.mp hother.stands with ⟨rfl, -⟩ | ⟨rfl, -⟩ <;> decide

/-- The earliest declaration of the name is the state, and what it has become is not found. -/
theorem earliest_declaration_not_found :
    Document.parse disputedSource "plant.ft" = .ok disputedDocument ∧
    build disputedDocument = .ok (ofBuild disputedDocument) ∧
    (Statement.state disputedState).Declares disputedSource "plant.ft" "pump" 1 ∧
    (∀ position (other : Statement), other.Declares disputedSource "plant.ft" "pump" position →
      1 ≤ position) ∧
    (ofBuild disputedDocument).lookup "pump" ≠ some (Statement.state disputedState).entity := by
  refine ⟨parse_disputedSource, build_disputedDocument,
    ⟨standsAt_disputedSource_iff.mpr (.inl ⟨rfl, rfl⟩), by decide +kernel⟩, ?_, by decide +kernel⟩
  intro position other hother
  rcases standsAt_disputedSource_iff.mp hother.stands with ⟨rfl, -⟩ | ⟨rfl, -⟩ <;> decide

end FaultTree
end FaultTreeExchange
