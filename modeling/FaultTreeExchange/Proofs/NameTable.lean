import FaultTreeExchange.FaultTree.Views
import FaultTreeExchange.Proofs.Occurrence

/-!
# Name tables

A name table agrees with a tree when its entries are the keys of the gates and events with their
positions, and when every argument has an entry. Then whatever the table yields exists.
-/

namespace FaultTreeExchange

namespace NameTable

variable {names : NameTable} {name : String} {id : EventId}

lemma mem_of_find?_eq_some (h : names.find? name = some id) : (Name.key name, id) ∈ names := by
  obtain ⟨before, after, rfl, -⟩ := List.lookup_eq_some_iff.mp h
  exact List.mem_append_right _ List.mem_cons_self

lemma find?_eq_none_iff : names.find? name = none ↔ Name.key name ∉ names.map Prod.fst :=
  lookup_eq_none_iff_notMem

lemma exists_find?_eq_some_iff :
    (∃ id, names.find? name = some id) ↔ Name.key name ∈ names.map Prod.fst := by
  rw [← not_iff_not, ← find?_eq_none_iff, ← Option.isSome_iff_exists, Option.not_isSome_iff_eq_none]

lemma find?_eq_some_iff_mem (hkeys : (names.map Prod.fst).Nodup) :
    names.find? name = some id ↔ (Name.key name, id) ∈ names := by
  refine ⟨mem_of_find?_eq_some, fun hmem => ?_⟩
  obtain ⟨before, after, rfl⟩ := List.append_of_mem hmem
  refine List.lookup_eq_some_iff.mpr ⟨before, after, rfl, fun entry hentry => ?_⟩
  rw [List.map_append, List.map_cons, List.nodup_append] at hkeys
  have hne := hkeys.2.2 entry.1 (List.mem_map_of_mem hentry) (Name.key name) List.mem_cons_self
  simpa using fun heq => hne heq.symm

end NameTable

namespace FaultTree

def Contains (tree : FaultTree) : EventId → Prop
  | .gate index => index < tree.gates.length
  | .basic index => index < tree.basicEvents.length
  | .house index => index < tree.houseEvents.length

lemma event?_isSome_iff {tree : FaultTree} {id : EventId} :
    (tree.event? id).isSome ↔ tree.Contains id := by
  cases id <;> simp [event?, Contains]

/-- The gate or event stands in the tree. -/
def Holds (tree : FaultTree) : Event → Prop
  | .gate entity => entity ∈ tree.gates
  | .basic entity => entity ∈ tree.basicEvents
  | .house entity => entity ∈ tree.houseEvents

lemma exists_event?_iff {tree : FaultTree} {event : Event} :
    (∃ id, tree.event? id = some event) ↔ tree.Holds event := by
  constructor
  · rintro ⟨id, hevent⟩
    cases id with
    | gate index | basic index | house index =>
      obtain ⟨entity, hentity, rfl⟩ := Option.map_eq_some_iff.mp hevent
      exact List.mem_of_getElem? hentity
  · intro hholds
    cases event with
    | gate entity =>
      obtain ⟨index, hindex⟩ := List.getElem?_of_mem hholds
      exact ⟨.gate index, by simp [event?, hindex]⟩
    | basic entity =>
      obtain ⟨index, hindex⟩ := List.getElem?_of_mem hholds
      exact ⟨.basic index, by simp [event?, hindex]⟩
    | house entity =>
      obtain ⟨index, hindex⟩ := List.getElem?_of_mem hholds
      exact ⟨.house index, by simp [event?, hindex]⟩

/-- The table holds the keys of the gates and events, and finds every argument. -/
structure NamesAgree (tree : FaultTree) : Prop where
  entry_iff : ∀ key id, (key, id) ∈ tree.names ↔
    ∃ event, tree.event? id = some event ∧ Name.key event.name = key
  argument_known : ∀ gate ∈ tree.gates, ∀ argument ∈ gate.arguments,
    ∃ id, tree.names.find? argument.name = some id

variable {tree : FaultTree} {name : String} {id : EventId}

lemma NamesAgree.exists_event (h : tree.NamesAgree) (hfind : tree.names.find? name = some id) :
    ∃ event, tree.event? id = some event ∧ Name.key event.name = Name.key name :=
  (h.entry_iff _ _).mp (NameTable.mem_of_find?_eq_some hfind)

lemma NamesAgree.contains (h : tree.NamesAgree) (hfind : tree.names.find? name = some id) :
    tree.Contains id := by
  obtain ⟨event, hevent, -⟩ := h.exists_event hfind
  rw [← event?_isSome_iff, hevent]
  rfl

lemma NamesAgree.find?_eq_some_iff (h : tree.NamesAgree) (hkeys : (tree.names.map Prod.fst).Nodup) :
    tree.names.find? name = some id ↔
      ∃ event, tree.event? id = some event ∧ Name.key event.name = Name.key name := by
  rw [NameTable.find?_eq_some_iff_mem hkeys]
  exact h.entry_iff _ _

end FaultTree
end FaultTreeExchange
