import FaultTreeExchange.Proofs.DocumentGrammar
import FaultTreeExchange.Proofs.Rearrangement
import Mathlib.Data.List.Perm.Basic

/-!
# The order of statements

A line says the same wherever it stands, except for the line that gives the tree its name. So a source
whose lines are put into another order behind that one is accepted or refused as before, and its tree
says the same.
-/

namespace FaultTreeExchange

open Text

/-! ### Statements at other places -/

namespace Statement

def movedTo (place : Place) : Statement → Statement
  | .gate definition => .gate { definition with place }
  | .probability assignment => .probability { assignment with place }
  | .state assignment => .state { assignment with place }

variable {place : Place} {statement : Statement} {text : List Char} {tokens : List Token}

lemma SpelledBy.movedTo (h : statement.SpelledBy place tokens) (other : Place) :
    (statement.movedTo other).SpelledBy other tokens := by
  cases h with
  | gate name formula tokens hformula => exact .gate name formula tokens hformula
  | probability letter name literal value hletter hliteral hvalue =>
    exact .probability letter name literal value hletter hliteral hvalue
  | state letter name word value hletter hword => exact .state letter name word value hletter hword

/-- The text says the statement at every place. -/
def ToldBy (statement : Statement) (text : List Char) : Prop :=
  ∀ place, (statement.movedTo place).WrittenAs place text

lemma WrittenAs.toldBy (h : statement.WrittenAs place text) : statement.ToldBy text := by
  intro other
  obtain ⟨hshows, tokens, hscan, hspelled⟩ := h
  have hkind : (statement.movedTo other).kind = statement.kind := by
    cases statement <;> rfl
  exact ⟨hkind ▸ hshows, tokens, hscan, hspelled.movedTo other⟩

end Statement

lemma exists_writtenOn_of_toldBy (file : String) {lines : List Line} {statements : List Statement}
    (h : List.Forall₂ (fun line statement => Statement.ToldBy statement line.text) lines
      statements) :
    ∃ moved, WrittenOn file lines moved ∧
      List.Forall₂ (fun statement image => ∃ place, image = Statement.movedTo place statement)
        statements moved := by
  induction h with
  | nil => exact ⟨[], .nil, .nil⟩
  | @cons line statement lines statements htold _ ih =>
    obtain ⟨moved, hwritten, hmoved⟩ := ih
    exact ⟨_, .cons (htold ⟨file, line.number⟩) hwritten, .cons ⟨_, rfl⟩ hmoved⟩

lemma exists_writtenOn_of_perm {file : String} (other : String) {lines others : List Line}
    {statements : List Statement} (h : (lines.map Line.text).Perm (others.map Line.text))
    (hwritten : WrittenOn file lines statements) :
    ∃ ordered moved, ordered.Perm statements ∧ WrittenOn other others moved ∧
      List.Forall₂ (fun statement image => ∃ place, image = Statement.movedTo place statement)
        ordered moved := by
  have htold : List.Forall₂ (fun text statement => Statement.ToldBy statement text)
      (lines.map Line.text) statements :=
    List.forall₂_map_left_iff.mpr (hwritten.imp fun _ _ hstatement => hstatement.toldBy)
  obtain ⟨ordered, hordered, hperm⟩ := List.perm_comp_forall₂ h.symm htold
  obtain ⟨moved, hmoved, hplaces⟩ :=
    exists_writtenOn_of_toldBy other (List.forall₂_map_left_iff.mp hordered)
  exact ⟨ordered, moved, hperm, hmoved, hplaces⟩

lemma filterMap_eq_of_forall₂ {α β : Type} {image : α → Option β} {items others : List α}
    (h : List.Forall₂ (fun item other => image item = image other) items others) :
    items.filterMap image = others.filterMap image := by
  induction h with
  | nil => rfl
  | cons hitem _ ih => rw [List.filterMap_cons, List.filterMap_cons, hitem, ih]

namespace Document

lemma rearranges_ofStatements {name : String} {place other : Place}
    {statements ordered moved : List Statement} (hperm : ordered.Perm statements)
    (hmoved : List.Forall₂ (fun statement image => ∃ place, image = Statement.movedTo place statement)
      ordered moved) :
    (ofStatements name place statements).Rearranges (ofStatements name other moved) := by
  -- What is selected of a statement and forgets its place goes through the order and the moves.
  have hselect : ∀ {α β : Type} (select : Statement → Option α) (content : α → β),
      (∀ place statement, (select (Statement.movedTo place statement)).map content =
        (select statement).map content) →
      ((statements.filterMap select).map content).Perm ((moved.filterMap select).map content) := by
    intro α β select content hplace
    rw [List.map_filterMap, List.map_filterMap]
    refine (hperm.symm.filterMap _).trans (List.Perm.of_eq (filterMap_eq_of_forall₂ ?_))
    refine hmoved.imp ?_
    rintro statement _ ⟨place, rfl⟩
    exact (hplace place statement).symm
  refine ⟨rfl, hselect _ _ ?_, hselect _ _ ?_, hselect _ _ ?_⟩
  all_goals
    intro place statement
    cases statement <;> rfl

end Document

/-! ### Words of formulas -/

lemma Reference.word_mem_tokens (reference : Reference) : .word reference.name ∈ reference.tokens := by
  unfold tokens
  split <;> simp

lemma Reference.word_mem_joined {sign : Token} {references : List Reference} {reference : Reference}
    (h : reference ∈ references) : .word reference.name ∈ joined sign references := by
  cases references with
  | nil => cases h
  | cons first rest =>
    rw [joined_cons, List.mem_append]
    rcases List.mem_cons.mp h with rfl | hrest
    · exact Or.inl reference.word_mem_tokens
    · exact Or.inr (List.mem_flatMap.mpr
        ⟨reference, hrest, List.mem_cons_of_mem _ reference.word_mem_tokens⟩)

lemma Formula.SpelledBy.word_mem {formula : Formula} {tokens : List Token}
    (h : formula.SpelledBy tokens) {reference : Reference}
    (hreference : reference ∈ formula.arguments) : .word reference.name ∈ tokens := by
  cases h with
  | vote literal minimum references hliteral hreferences =>
    simp [Reference.word_mem_joined hreference]
  | negation argument =>
    rw [List.mem_singleton.mp hreference]
    simp [argument.word_mem_tokens]
  | group connective references hcount => simp [Reference.word_mem_joined hreference]
  | chain connective references hcount => exact Reference.word_mem_joined hreference
  | single argument =>
    rw [List.mem_singleton.mp hreference]
    exact argument.word_mem_tokens

variable {source other file : String}

theorem Document.refersByWords_of_parse {document : Document} (h : parse source file = .ok document) :
    document.RefersByWords := by
  obtain ⟨first, later, statements, -, -, hstatements, rfl⟩ := parse_eq_ok_iff.mp h
  intro reference hreference
  obtain ⟨definition, hdefinition, hargument⟩ := List.mem_flatMap.mp hreference
  obtain ⟨statement, hstatement, hsome⟩ := List.mem_filterMap.mp hdefinition
  obtain ⟨line, -, hwritten⟩ := exists_line hstatements hstatement
  obtain ⟨-, tokens, hscan, hspelled⟩ := hwritten
  cases hspelled with
  | gate name formula tokens hformula =>
    cases hsome
    have hword : .word reference.name ∈ tokens := hformula.word_mem hargument
    exact Token.isWord_of_mem_scan hscan
      (List.mem_cons_of_mem _ (List.mem_cons_of_mem _ hword))
  | probability letter name literal value hletter hliteral hvalue => cases hsome
  | state letter name word value hletter hword => cases hsome

/-! ### Lines in another order -/

/-- The line without the carriage return that it may end with. -/
def withoutReturn (line : List Char) : List Char :=
  if line.getLast? = some '\r' then line.dropLast else line

/-- The sources have the same lines in any order, with the same one first among those that are not
empty. The end of a line may hold a carriage return. -/
structure ReordersLines (source other : String) : Prop where
  lines : ((sourceLines source).map withoutReturn).Perm ((sourceLines other).map withoutReturn)
  first : (significantLines source).head?.map Line.text =
    (significantLines other).head?.map Line.text

lemma trimEnd_concat_of_isBlank {text : List Char} {c : Char} (h : isBlank c = true) :
    trimEnd (text ++ [c]) = trimEnd text := by
  simp [trimEnd, h]

lemma trim_concat_of_isBlank {text : List Char} {c : Char} (h : isBlank c = true) :
    trim (text ++ [c]) = trim text := by
  unfold trim trimStart
  rw [List.dropWhile_append]
  split
  · rename_i hblank
    rw [List.isEmpty_iff.mp hblank, List.dropWhile_cons_of_pos h, List.dropWhile_nil]
  · exact trimEnd_concat_of_isBlank h

lemma statementText_withoutReturn (line : List Char) :
    statementText (withoutReturn line) = statementText line := by
  unfold withoutReturn
  split
  · rename_i hlast
    obtain ⟨text, rfl⟩ := List.getLast?_eq_some_iff.mp hlast
    have hreturn : ['\r'].takeWhile (· ≠ '#') = ['\r'] := rfl
    unfold statementText
    rw [List.dropLast_concat, List.takeWhile_append, hreturn]
    split
    · rename_i hlength
      have hwhole : text.takeWhile (· ≠ '#') = text :=
        (List.takeWhile_prefix _).eq_of_length hlength
      rw [trim_concat_of_isBlank (by decide), hwhole]
    · rfl
  · rfl

/-- What is left of the lines, where anything is. -/
def lineTexts (lines : List (List Char)) : List (List Char) :=
  (lines.map statementText).filter fun text => !text.isEmpty

lemma lineTexts_append (lines others : List (List Char)) :
    lineTexts (lines ++ others) = lineTexts lines ++ lineTexts others := by
  unfold lineTexts
  rw [List.map_append, List.filter_append]

lemma map_text_filterMap_zipIdx {read : List Char × Nat → Option Line}
    (hread : ∀ entry, (read entry).map Line.text =
      if (statementText entry.1).isEmpty then none else some (statementText entry.1))
    (lines : List (List Char)) (start : Nat) :
    ((lines.zipIdx start).filterMap read).map Line.text = lineTexts lines := by
  unfold lineTexts
  induction lines generalizing start with
  | nil => rfl
  | cons line rest ih =>
    simp only [List.map_filterMap] at ih ⊢
    rw [List.zipIdx_cons, List.filterMap_cons, hread, ih, List.map_cons, List.filter_cons]
    cases (statementText line).isEmpty <;> simp

lemma map_text_statementLines (source : String) :
    (statementLines source).map Line.text = lineTexts (sourceLines source) := by
  obtain ⟨rest, hsplit, hrest⟩ := exists_splitOn_eq source
  have hempty : lineTexts rest = [] := by
    unfold lineTexts
    rw [List.filter_eq_nil_iff, List.forall_mem_map]
    intro line hline
    rw [hrest line hline]
    decide
  unfold statementLines
  rw [map_text_filterMap_zipIdx, hsplit, lineTexts_append, hempty, List.append_nil]
  rintro ⟨line, number⟩
  dsimp only
  split <;> rfl

lemma map_text_significantLines (source : String) :
    (significantLines source).map Line.text = lineTexts (sourceLines source) := by
  unfold significantLines
  rw [map_text_filterMap_zipIdx]
  rintro ⟨line, number⟩
  unfold significantLine?
  simp only [List.isEmpty_iff]
  split <;> rfl

lemma ReordersLines.symm (h : ReordersLines source other) : ReordersLines other source :=
  ⟨h.lines.symm, h.first.symm⟩

/-- The lines that carry statements start with the same text, and the texts behind it are the same in
any order. -/
lemma ReordersLines.statementLines {first : Line} {later : List Line}
    (h : ReordersLines source other) (hsource : statementLines source = first :: later) :
    ∃ first' later', Text.statementLines other = first' :: later' ∧ first'.text = first.text ∧
      (later.map Line.text).Perm (later'.map Line.text) := by
  have hperm : (lineTexts (sourceLines source)).Perm (lineTexts (sourceLines other)) := by
    have hlines := h.lines.map statementText
    simp only [List.map_map, Function.comp_def, statementText_withoutReturn] at hlines
    exact hlines.filter _
  have hfirst : (lineTexts (sourceLines source)).head? = (lineTexts (sourceLines other)).head? := by
    rw [← map_text_significantLines, ← map_text_significantLines, List.head?_map, List.head?_map]
    exact h.first
  rw [← map_text_statementLines, ← map_text_statementLines, hsource] at hperm hfirst
  cases hother : Text.statementLines other with
  | nil =>
    rw [hother] at hfirst
    cases hfirst
  | cons first' later' =>
    rw [hother] at hperm hfirst
    have hsame : first.text = first'.text := Option.some.inj hfirst
    rw [List.map_cons, List.map_cons, hsame] at hperm
    exact ⟨first', later', rfl, hsame.symm, hperm.cons_inv⟩

namespace Document

theorem parse_reordered (h : ReordersLines source other) {document : Document}
    (hparse : parse source file = .ok document) (file' : String) :
    ∃ rearranged, parse other file' = .ok rearranged ∧ document.Rearranges rearranged := by
  obtain ⟨first, later, statements, hsource, hfirst, hstatements, rfl⟩ := parse_eq_ok_iff.mp hparse
  obtain ⟨first', later', hother, htext, hperm⟩ := h.statementLines hsource
  obtain ⟨ordered, moved, hordered, hwritten, hmoved⟩ :=
    exists_writtenOn_of_perm file' hperm hstatements
  refine ⟨_, parse_eq_ok_iff.mpr ⟨first', later', moved, hother, htext ▸ hfirst, hwritten, rfl⟩, ?_⟩
  rw [htext]
  exact rearranges_ofStatements hordered hmoved

end Document

lemma exists_translate_reordered (h : ReordersLines source other) {multiTop : Bool}
    {tree : FaultTree} (htree : translate source file multiTop = .ok tree) (file' : String) :
    ∃ tree', translate other file' multiTop = .ok tree' ∧ tree.Rearranges tree' := by
  obtain ⟨document, hparse, hdocument⟩ := translate_eq_ok htree
  obtain ⟨hsound, rfl⟩ := FaultTree.ofDocument_eq_ok_iff.mp hdocument
  obtain ⟨rearranged, hparse', hrearranges⟩ := Document.parse_reordered h hparse file'
  have hsound' : rearranged.Sound multiTop :=
    hrearranges.sound (Document.refersByWords_of_parse hparse) hsound
  exact ⟨_, translate_of_sound hparse' hsound',
    FaultTree.rearranges_ofSound hrearranges hsound.distinctDeclarations⟩

/-- A source is accepted in one order of its statements exactly when it is in another, and the trees
that it has then are the same up to positions, lines and the spelling of undefined events. -/
theorem translate_reordered (h : ReordersLines source other) (file file' : String)
    (multiTop : Bool) :
    ((∃ tree, translate source file multiTop = .ok tree) ↔
      ∃ tree, translate other file' multiTop = .ok tree) ∧
    ∀ tree tree', translate source file multiTop = .ok tree →
      translate other file' multiTop = .ok tree' → tree.Rearranges tree' := by
  constructor
  · constructor
    · rintro ⟨tree, htree⟩
      obtain ⟨tree', htree', -⟩ := exists_translate_reordered h htree file'
      exact ⟨tree', htree'⟩
    · rintro ⟨tree, htree⟩
      obtain ⟨tree', htree', -⟩ := exists_translate_reordered h.symm htree file
      exact ⟨tree', htree'⟩
  · intro tree tree' htree htree'
    obtain ⟨found, hfound, hrearranges⟩ := exists_translate_reordered h htree file'
    rw [htree', Except.ok.injEq] at hfound
    rw [hfound]
    exact hrearranges

/-- An undeclared event is spelled in two ways. -/
def spelledSource : String :=
  "Plant\nTop := Pump & ~Valve\r\nValve := PUMP | Mains # pump or mains\ns(Mains) = true"

/-- The other spelling comes first. -/
def movedSource : String :=
  "Plant\ns(Mains) = true\r\nValve := PUMP | Mains # pump or mains\nTop := Pump & ~Valve\n"

def spelledDocument : Document where
  name := "Plant"
  place := ⟨"plant.ft", 1⟩
  gates := [⟨"Top", ⟨.and, [⟨"Pump", false⟩, ⟨"Valve", true⟩]⟩, ⟨"plant.ft", 2⟩⟩,
    ⟨"Valve", ⟨.or, [⟨"PUMP", false⟩, ⟨"Mains", false⟩]⟩, ⟨"plant.ft", 3⟩⟩]
  probabilities := []
  states := [⟨"Mains", true, ⟨"plant.ft", 4⟩⟩]

def movedDocument : Document where
  name := "Plant"
  place := ⟨"plant.ft", 1⟩
  gates := [⟨"Valve", ⟨.or, [⟨"PUMP", false⟩, ⟨"Mains", false⟩]⟩, ⟨"plant.ft", 3⟩⟩,
    ⟨"Top", ⟨.and, [⟨"Pump", false⟩, ⟨"Valve", true⟩]⟩, ⟨"plant.ft", 4⟩⟩]
  probabilities := []
  states := [⟨"Mains", true, ⟨"plant.ft", 2⟩⟩]

/-- Both orders of the sample are accepted, and their trees name the undefined event differently. -/
theorem sample_reordered :
    ReordersLines spelledSource movedSource ∧
    ∃ tree tree', translate spelledSource "plant.ft" false = .ok tree ∧
      translate movedSource "plant.ft" false = .ok tree' ∧ tree.Rearranges tree' ∧
      tree.undefinedEvents.map BasicEvent.name = ["Pump"] ∧
      tree'.undefinedEvents.map BasicEvent.name = ["PUMP"] := by
  have hlines : ReordersLines spelledSource movedSource := ⟨by decide +kernel, by decide +kernel⟩
  have hparse : Document.parse spelledSource "plant.ft" = .ok spelledDocument := by decide +kernel
  have hparse' : Document.parse movedSource "plant.ft" = .ok movedDocument := by decide +kernel
  have hsound : spelledDocument.Sound false := by decide +kernel
  have hsound' : movedDocument.Sound false := by decide +kernel
  have htree := translate_of_sound hparse hsound
  have htree' := translate_of_sound hparse' hsound'
  obtain ⟨-, hrearranges⟩ := translate_reordered hlines "plant.ft" "plant.ft" false
  exact ⟨hlines, _, _, htree, htree', hrearranges _ _ htree htree', by decide +kernel,
    by decide +kernel⟩

end FaultTreeExchange
