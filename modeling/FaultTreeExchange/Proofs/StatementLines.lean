import FaultTreeExchange.Proofs.DocumentGrammar

/-!
# Statements and their lines

The statements of a document stand on the lines of its source, one on a line and in the order of the
lines. So a search for a statement of some kind finds the one on the first line that has such a statement.
-/

namespace FaultTreeExchange

open Text

variable {α : Type} {source file : String} {index : Nat}

namespace Statement

/-- The statement is written on the line with this position among the lines of the source, and has
that line as its place. -/
def StandsAt (statement : Statement) (source file : String) (index : Nat) : Prop :=
  ∃ raw, (sourceLines source)[index]? = some raw ∧
    statement.WrittenAs ⟨file, (index + 1) % lineNumberBound⟩ (statementText raw)

/-- The statement of a line with its number, if one is written on it. -/
def onLine? (file : String) (entry : List Char × Nat) : Option Statement :=
  (ofText ⟨file, entry.2 % lineNumberBound⟩ (statementText entry.1)).toOption

variable {statement second : Statement}

lemma onLine?_eq_some_iff {entry : List Char × Nat} :
    onLine? file entry = some statement ↔
      statement.WrittenAs ⟨file, entry.2 % lineNumberBound⟩ (statementText entry.1) := by
  unfold onLine?
  rw [← ofText_eq_ok_iff]
  cases ofText _ _ <;> simp [Except.toOption]

lemma standsAt_iff :
    statement.StandsAt source file index ↔
      ((sourceLines source).zipIdx 1)[index]?.bind (onLine? file) = some statement := by
  unfold StandsAt
  rw [List.getElem?_zipIdx, Nat.add_comm 1 index]
  simp [Option.bind_eq_some_iff, onLine?_eq_some_iff]

lemma StandsAt.unique (h : statement.StandsAt source file index)
    (hsecond : second.StandsAt source file index) : second = statement := by
  rw [standsAt_iff] at h hsecond
  exact Option.some.inj (hsecond.symm.trans h)

end Statement

lemma find?_filterMap_eq_some_iff {β : Type} {items : List α} {select : α → Option β} {test : β → Bool}
    {found : β} :
    (items.filterMap select).find? test = some found ↔ test found = true ∧
      ∃ index : Nat, items[index]?.bind select = some found ∧
        ∀ earlier < index, ∀ other, items[earlier]?.bind select = some other → test other = false := by
  rw [List.find?_filterMap, Option.bind_eq_some_iff]
  simp only [List.find?_eq_some_iff_getElem]
  constructor
  · rintro ⟨item, ⟨htest, index, hindex, rfl, hearlier⟩, hselect⟩
    rw [hselect, Option.any_some] at htest
    refine ⟨htest, index, by simp [hindex, hselect], fun earlier hlt other hother => ?_⟩
    have hnot := hearlier earlier hlt
    rw [List.getElem?_eq_getElem (Nat.lt_trans hlt hindex)] at hother
    rw [Option.bind_some] at hother
    simpa [hother] using hnot
  · rintro ⟨htest, index, hfound, hearlier⟩
    obtain ⟨item, hitem, hselect⟩ := Option.bind_eq_some_iff.mp hfound
    obtain ⟨hindex, rfl⟩ := List.getElem?_eq_some_iff.mp hitem
    refine ⟨_, ⟨by simp [hselect, htest], index, hindex, rfl, fun earlier hlt => ?_⟩, hselect⟩
    have hnot := hearlier earlier hlt
    rw [List.getElem?_eq_getElem (Nat.lt_trans hlt hindex), Option.bind_some] at hnot
    cases hother : select items[earlier] with
    | none => rfl
    | some other => simp [hnot other hother]

/-- The statements that are written on the lines of a source. -/
def statementsOf (source file : String) : List Statement :=
  ((sourceLines source).zipIdx 1).filterMap (Statement.onLine? file)

lemma mem_statementsOf_iff {statement : Statement} :
    statement ∈ statementsOf source file ↔ ∃ index, statement.StandsAt source file index := by
  unfold statementsOf
  rw [List.mem_filterMap]
  simp only [Statement.standsAt_iff, Option.bind_eq_some_iff, List.mem_iff_getElem?]
  constructor
  · rintro ⟨entry, ⟨index, hentry⟩, hstatement⟩
    exact ⟨index, entry, hentry, hstatement⟩
  · rintro ⟨index, entry, hentry, hstatement⟩
    exact ⟨entry, ⟨index, hentry⟩, hstatement⟩

theorem find?_statementsOf_eq_some_iff {select : Statement → Option α} {test : α → Bool} {found : α} :
    ((statementsOf source file).filterMap select).find? test = some found ↔ test found = true ∧
      ∃ index statement, statement.StandsAt source file index ∧ select statement = some found ∧
        ∀ earlier < index, ∀ second, second.StandsAt source file earlier →
          ∀ other, select second = some other → test other = false := by
  unfold statementsOf
  rw [List.filterMap_filterMap, find?_filterMap_eq_some_iff]
  have hselected : ∀ index found, (((sourceLines source).zipIdx 1)[index]?.bind fun entry =>
      (Statement.onLine? file entry).bind select) = some found ↔
        ∃ statement, statement.StandsAt source file index ∧ select statement = some found := by
    intro index found
    rw [← Option.bind_assoc, Option.bind_eq_some_iff]
    simp only [Statement.standsAt_iff]
  simp only [hselected]
  constructor
  · rintro ⟨htest, index, ⟨statement, hstands, hselect⟩, hearlier⟩
    refine ⟨htest, index, statement, hstands, hselect, ?_⟩
    exact fun earlier hlt second hsecond other hother =>
      hearlier earlier hlt other ⟨second, hsecond, hother⟩
  · rintro ⟨htest, index, statement, hstands, hselect, hearlier⟩
    refine ⟨htest, index, ⟨statement, hstands, hselect⟩, ?_⟩
    rintro earlier hlt other ⟨second, hsecond, hother⟩
    exact hearlier earlier hlt second hsecond other hother

theorem find?_statementsOf_eq_none_iff {select : Statement → Option α} {test : α → Bool} :
    ((statementsOf source file).filterMap select).find? test = none ↔
      ∀ index statement, statement.StandsAt source file index →
        ∀ other, select statement = some other → test other = false := by
  simp only [List.find?_eq_none, List.mem_filterMap, mem_statementsOf_iff, Bool.not_eq_true]
  constructor
  · intro h index statement hstands other hother
    exact h other ⟨statement, ⟨index, hstands⟩, hother⟩
  · rintro h other ⟨statement, ⟨index, hstands⟩, hother⟩
    exact h index statement hstands other hother

namespace Document

lemma filterMap_of_writtenOn {lines : List Line} {statements : List Statement}
    (h : WrittenOn file lines statements) :
    (lines.filterMap fun line => (Statement.ofText ⟨file, line.number⟩ line.text).toOption) =
      statements := by
  unfold WrittenOn at h
  induction h with
  | nil => rfl
  | cons hstatement _ ih =>
    rw [List.filterMap_cons, ih, Statement.ofText_eq_ok_iff.mpr hstatement]
    rfl

theorem eq_ofStatements_of_parse {document : Document} (h : parse source file = .ok document) :
    document = ofStatements document.name document.place (statementsOf source file) := by
  obtain ⟨first, later, statements, hlines, hfirst, hstatements, rfl⟩ := parse_eq_ok_iff.mp h
  have hnone : (Statement.ofText ⟨file, first.number⟩ first.text).toOption = none := by
    have hkind := not_labelled_iff.mp hfirst
    unfold Statement.ofText
    rw [hkind]
    rfl
  have hread : ((statementLines source).filterMap fun line =>
      (Statement.ofText ⟨file, line.number⟩ line.text).toOption) = statements := by
    rw [hlines, List.filterMap_cons, hnone]
    exact filterMap_of_writtenOn hstatements
  have hsame : statementsOf source file = statements := by
    rw [← hread, statementLines_eq_map]
    unfold significantLines statementsOf
    rw [List.map_filterMap, List.filterMap_filterMap]
    refine List.filterMap_congr fun entry _ => ?_
    unfold significantLine? Statement.onLine?
    split
    · rename_i hempty
      rw [hempty]
      rfl
    · rfl
  rw [hsame]
  rfl

lemma gates_of_parse {document : Document} (h : parse source file = .ok document) :
    document.gates = (statementsOf source file).filterMap Statement.gate? :=
  congrArg Document.gates (eq_ofStatements_of_parse h)

lemma probabilities_of_parse {document : Document} (h : parse source file = .ok document) :
    document.probabilities = (statementsOf source file).filterMap Statement.probability? :=
  congrArg Document.probabilities (eq_ofStatements_of_parse h)

lemma states_of_parse {document : Document} (h : parse source file = .ok document) :
    document.states = (statementsOf source file).filterMap Statement.state? :=
  congrArg Document.states (eq_ofStatements_of_parse h)

end Document
end FaultTreeExchange
