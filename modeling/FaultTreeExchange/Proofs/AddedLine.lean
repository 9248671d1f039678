import FaultTreeExchange.Proofs.AddedEvent
import FaultTreeExchange.Proofs.Renumbering

/-!
# One more line

A line that assigns a value to an undeclared name can be added anywhere behind the line of the name. The
source is still accepted, and its tree gains the event of the assignment.
-/

namespace FaultTreeExchange

open Text

/-! ### Added lines -/

/-- The other source has one more line, somewhere behind the line of the name. The end of a line may
hold a carriage return. -/
def AddsLine (source : String) (line : List Char) (other : String) : Prop :=
  ∃ before after, (sourceLines source).map withoutReturn = before ++ after ∧
    (sourceLines other).map withoutReturn = before ++ line :: after ∧
    ∃ text ∈ before, statementText text ≠ []

lemma lineTexts_map_withoutReturn (lines : List (List Char)) :
    lineTexts (lines.map withoutReturn) = lineTexts lines := by
  unfold lineTexts
  simp only [List.map_map, Function.comp_def, statementText_withoutReturn]

lemma lineTexts_cons {line : List Char} (h : statementText line ≠ []) (rest : List (List Char)) :
    lineTexts (line :: rest) = statementText line :: lineTexts rest := by
  unfold lineTexts
  rw [List.map_cons, List.filter_cons_of_pos (by simpa using h)]

lemma AddsLine.statementLines {source other : String} {line : List Char} {first : Line}
    {later : List Line} (h : AddsLine source line other) (hline : statementText line ≠ [])
    (hsource : statementLines source = first :: later) :
    ∃ first' later', Text.statementLines other = first' :: later' ∧ first'.text = first.text ∧
      PutsIn (statementText line) (later.map Line.text) (later'.map Line.text) := by
  obtain ⟨before, after, hlines, hlines', text, htext, hne⟩ := h
  have hsourceTexts := map_text_statementLines source
  have hotherTexts := map_text_statementLines other
  rw [← lineTexts_map_withoutReturn, hlines, lineTexts_append, hsource, List.map_cons]
    at hsourceTexts
  rw [← lineTexts_map_withoutReturn, hlines', lineTexts_append, lineTexts_cons hline] at hotherTexts
  have hbefore : statementText text ∈ lineTexts before :=
    List.mem_filter.mpr ⟨List.mem_map_of_mem htext, by simpa using hne⟩
  -- The first text is that of the name, so the added one does not stand before it.
  cases hstart : lineTexts before with
  | nil =>
    rw [hstart] at hbefore
    cases hbefore
  | cons name texts =>
    rw [hstart, List.cons_append, List.cons.injEq] at hsourceTexts
    rw [hstart, List.cons_append] at hotherTexts
    cases hother : Text.statementLines other with
    | nil =>
      rw [hother] at hotherTexts
      cases hotherTexts
    | cons first' later' =>
      rw [hother, List.map_cons, List.cons.injEq] at hotherTexts
      exact ⟨first', later', rfl, hotherTexts.1.trans hsourceTexts.1.symm, texts, lineTexts after,
        hsourceTexts.2, hotherTexts.2⟩

/-! ### Statements on the lines -/

lemma writtenOn_append_iff {file : String} {before after : List Line} {statements : List Statement} :
    WrittenOn file (before ++ after) statements ↔ ∃ first second, statements = first ++ second ∧
      WrittenOn file before first ∧ WrittenOn file after second := by
  unfold WrittenOn
  constructor
  · intro h
    induction before generalizing statements with
    | nil => exact ⟨[], statements, rfl, .nil, h⟩
    | cons line before ih =>
      obtain ⟨statement, rest, hstatement, hrest, rfl⟩ := List.forall₂_cons_left_iff.mp h
      obtain ⟨first, second, rfl, hfirst, hsecond⟩ := ih hrest
      exact ⟨statement :: first, second, rfl, .cons hstatement hfirst, hsecond⟩
  · rintro ⟨first, second, rfl, hfirst, hsecond⟩
    exact List.rel_append hfirst hsecond

lemma writtenOn_renumbered_iff {file : String} {number : Nat → Nat} {lines : List Line}
    {moved : List Statement} :
    WrittenOn file (lines.map (Line.renumbered number)) moved ↔
      ∃ statements, WrittenOn file lines statements ∧
        moved = statements.map (Statement.renumbered number) := by
  have hread : Document.readLines file "" true (lines.map (Line.renumbered number)) =
      Document.renumberedResult number (List.map (Statement.renumbered number))
        (Document.readLines file "" true lines) :=
    Document.readLines_renumbered true lines
  constructor
  · intro h
    rw [Document.readLines_eq_ok_iff.mpr h] at hread
    cases hstatements : Document.readLines file "" true lines with
    | error diagnostic =>
      rw [hstatements] at hread
      cases hread
    | ok statements =>
      rw [hstatements] at hread
      exact ⟨statements, Document.readLines_eq_ok_iff.mp hstatements, Except.ok.inj hread⟩
  · rintro ⟨statements, hstatements, rfl⟩
    rw [Document.readLines_eq_ok_iff.mpr hstatements] at hread
    exact Document.readLines_eq_ok_iff.mp hread

lemma map_renumbered_zero (lines : List Line) :
    lines.map (Line.renumbered fun _ => 0) = (lines.map Line.text).map (Line.mk 0) := by
  rw [List.map_map]
  rfl

lemma exists_writtenOn_of_putsIn {file : String} {lines others : List Line} {text : List Char}
    {statements : List Statement} {added : Statement} (hadded : added.WrittenAs ⟨file, 0⟩ text)
    (hputs : PutsIn text (lines.map Line.text) (others.map Line.text))
    (hstatements : WrittenOn file lines statements) :
    ∃ extended, WrittenOn file others extended ∧
      PutsIn added (statements.map (Statement.renumbered fun _ => 0))
        (extended.map (Statement.renumbered fun _ => 0)) := by
  obtain ⟨before, after, hlines, hothers⟩ := hputs
  have hmoved : WrittenOn file ((lines.map Line.text).map (Line.mk 0))
      (statements.map (Statement.renumbered fun _ => 0)) := by
    rw [← map_renumbered_zero]
    exact writtenOn_renumbered_iff.mpr ⟨statements, hstatements, rfl⟩
  rw [hlines, List.map_append] at hmoved
  obtain ⟨first, second, hsplit, hfirst, hsecond⟩ := writtenOn_append_iff.mp hmoved
  have hall : WrittenOn file (others.map (Line.renumbered fun _ => 0)) (first ++ added :: second) := by
    rw [map_renumbered_zero, hothers, List.map_append, List.map_cons]
    exact writtenOn_append_iff.mpr ⟨first, added :: second, rfl, hfirst, .cons hadded hsecond⟩
  obtain ⟨extended, hextended, hsame⟩ := writtenOn_renumbered_iff.mp hall
  exact ⟨extended, hextended, first, second, hsplit, hsame.symm⟩

namespace Document

lemma gains_ofStatements {treeName name : String} {first place : Place} (assigned : AssignedValue)
    {statements extended : List Statement}
    (h : PutsIn (assigned.statement name place) statements extended) :
    (ofStatements treeName first statements).Gains name place assigned
      (ofStatements treeName first extended) := by
  obtain ⟨before, after, rfl, rfl⟩ := h
  unfold ofStatements
  simp only [List.filterMap_append, List.filterMap_cons]
  cases assigned with
  | probability value =>
    exact .probability value _ ⟨before.filterMap Statement.probability?,
      after.filterMap Statement.probability?, rfl, rfl⟩
  | state value =>
    exact .state value _ ⟨before.filterMap Statement.state?, after.filterMap Statement.state?, rfl, rfl⟩

/-- A source with one more assignment describes the document that gains it, up to line numbers. -/
theorem parse_of_addsLine {source other file name : String} {line : List Char}
    {assigned : AssignedValue} {document : Document} (hparse : parse source file = .ok document)
    (hname : Name.isValid name = true) (hline : AddsLine source line other)
    (hassigns : assigned.WrittenFor name (statementText line)) :
    ∃ extended, parse other file = .ok extended ∧
      (document.renumbered fun _ => 0).Gains name ⟨file, 0⟩ assigned
        (extended.renumbered fun _ => 0) := by
  obtain ⟨first, later, statements, hsource, hfirst, hstatements, rfl⟩ := parse_eq_ok_iff.mp hparse
  obtain ⟨first', later', hother, htext, hputs⟩ := hline.statementLines hassigns.ne_nil hsource
  obtain ⟨extended, hextended, hgains⟩ :=
    exists_writtenOn_of_putsIn (hassigns.writtenAs hname ⟨file, 0⟩) hputs hstatements
  refine ⟨_, parse_eq_ok_iff.mpr ⟨first', later', extended, hother, htext ▸ hfirst, hextended, rfl⟩, ?_⟩
  rw [htext, ← ofStatements_renumbered, ← ofStatements_renumbered]
  exact gains_ofStatements assigned hgains

lemma references_renumbered {number : Nat → Nat} (document : Document) :
    (document.renumbered number).references = document.references := by
  unfold references renumbered
  rw [List.flatMap_map]
  rfl

end Document

/-! ### Trees of the sources -/

/-- The tree with every line number replaced by 0. Trees are compared so where lines have moved. -/
def FaultTree.withoutLines (tree : FaultTree) : FaultTree :=
  tree.renumbered fun _ => 0

/-- A line that assigns a probability or a state to a valid name, which no statement declares, can be
added behind the line of the name. The source is still accepted. Its tree has the same gates, in which
only the arguments of the assigned name refer to something else, and the same top gates. The new event
replaces the undefined event of its name, or is one more orphan where no argument has the name. -/
theorem translate_with_added_assignment {source other file name : String} {multiTop : Bool}
    {line : List Char} {assigned : AssignedValue} {document : Document} {tree : FaultTree}
    (htree : translate source file multiTop = .ok tree)
    (hdocument : Document.parse source file = .ok document)
    (hname : Name.isValid name = true)
    (hnew : ∀ declared ∈ document.declaredNames, Name.key declared ≠ Name.key name)
    (hline : AddsLine source line other)
    (hassigns : assigned.WrittenFor name (statementText line)) :
    ∃ extended, translate other file multiTop = .ok extended ∧
      tree.withoutLines.Gains (assigned.event name 0) extended.withoutLines := by
  obtain ⟨found, hfound, htree⟩ := translate_eq_ok htree
  rw [hdocument, Except.ok.injEq] at hfound
  subst hfound
  obtain ⟨hsound, rfl⟩ := FaultTree.ofDocument_eq_ok_iff.mp htree
  obtain ⟨extended, hextended, hgains⟩ := Document.parse_of_addsLine hdocument hname hline hassigns
  have hkey : Name.key name ∉ (document.renumbered fun _ => 0).declaredKeys := by
    rw [FaultTree.declaredKeys_renumbered]
    intro hmem
    obtain ⟨declared, hdeclared, hsame⟩ := List.mem_map.mp hmem
    exact hnew declared hdeclared hsame
  -- The lines are left out of account for the requirements too, and brought back in the end.
  have hwords := Document.refersByWords_of_parse hdocument
  have hmoved : (document.renumbered fun _ => 0).Sound multiTop :=
    document.rearranges_renumbered.sound hwords hsound
  have hwords' : (extended.renumbered fun _ => 0).RefersByWords := by
    unfold Document.RefersByWords
    rw [Document.references_renumbered]
    exact Document.refersByWords_of_parse hextended
  have hsound' : extended.Sound multiTop :=
    extended.rearranges_renumbered.symm.sound hwords' (hgains.sound hname hkey hmoved)
  refine ⟨FaultTree.ofSound extended, translate_of_sound hextended hsound', ?_⟩
  unfold FaultTree.withoutLines
  rw [← FaultTree.ofSound_renumbered, ← FaultTree.ofSound_renumbered]
  exact hgains.ofSound hkey hmoved.distinctDeclarations

/-- The sample with a probability for the event that it leaves undefined. -/
def suppliedSource : String :=
  "Plant\nTop := Pump & ~Valve\nP ( spare)= .5 # tested\nValve := @(1, [pump, Spare, Mains])\n" ++
    "p(Pump) = 0.25\ns(Mains) = true"

lemma addsLine_suppliedSource :
    AddsLine sampleSource "P ( spare)= .5 # tested".toList suppliedSource :=
  ⟨["Plant".toList, "Top := Pump & ~Valve".toList],
    ["Valve := @(1, [pump, Spare, Mains])".toList, "p(Pump) = 0.25".toList, "s(Mains) = true".toList],
    by decide +kernel, by decide +kernel, "Plant".toList, List.mem_cons_self, by decide +kernel⟩

lemma writtenFor_spare :
    (AssignedValue.probability (Binary64.ofRank false 0x3FE0000000000000)).WrittenFor "spare"
      (statementText "P ( spare)= .5 # tested".toList) := by
  have htext : statementText "P ( spare)= .5 # tested".toList =
      ['P'] ++ ([' '] ++ (['('] ++ ([' '] ++ ("spare".toList ++ ([] ++ ([')'] ++ ([] ++
        (['='] ++ ([' '] ++ ".5".toList))))))))) := by
    decide +kernel
  have hblank : ∀ c ∈ [' '], isBlank c = true := List.forall_mem_singleton.mpr (by decide)
  have hnone : ∀ c ∈ ([] : List Char), isBlank c = true := fun c hc => by cases hc
  rw [htext]
  exact .probability ".5".toList _
    ⟨'P', by simp, .next _ _ hblank (.next _ _ hblank (.next _ _ hnone (.next _ _ hnone
      (.next _ _ hblank (.last _)))))⟩
    (by decide +kernel) (by decide +kernel) (by decide +kernel)

/-- The event of the sample that has been undefined has a probability then. -/
theorem sample_gains_spare :
    ∃ tree extended, translate sampleSource "plant.ft" false = .ok tree ∧
      translate suppliedSource "plant.ft" false = .ok extended ∧
      tree.withoutLines.Gains
        ((AssignedValue.probability (Binary64.ofRank false 0x3FE0000000000000)).event "spare" 0)
        extended.withoutLines ∧
      tree.undefinedEvents.map BasicEvent.name = ["Spare"] ∧ tree.Mentions "spare" := by
  have hnew : ∀ declared ∈ sampleDocument.declaredNames, Name.key declared ≠ Name.key "spare" := by
    decide +kernel
  obtain ⟨extended, hextended, hgains⟩ := translate_with_added_assignment translate_sampleSource
    parse_sampleSource (by decide +kernel) hnew addsLine_suppliedSource writtenFor_spare
  have hmentions : (FaultTree.ofSound sampleDocument).Mentions "spare" :=
    FaultTree.mentions_ofSound_iff.mpr (by decide +kernel)
  exact ⟨_, extended, translate_sampleSource, hextended, hgains, by decide +kernel, hmentions⟩

end FaultTreeExchange
