import FaultTreeExchange.Proofs.StatementGrammar
import Mathlib.Data.List.Forall2

/-!
# The grammar of documents

A source describes a document when its first significant line is a name and every later one is
written as a statement. Any other source has a first line that breaks this rule, and the fault that
is found depends on the lines up to that one only.
-/

namespace FaultTreeExchange

open Text

/-! ### Lines -/

/-- The lines of a source. A line feed at the very end of the source starts no line. -/
def sourceLines (source : String) : List (List Char) :=
  let parts := source.toList.splitOn '\n'
  if parts.getLast? = some [] then parts.dropLast else parts

/-- The line of a source with its number, unless nothing is left of it without its comment and the
blanks at its ends. -/
def significantLine? (entry : List Char × Nat) : Option Line :=
  if statementText entry.1 = [] then none else some ⟨entry.2, statementText entry.1⟩

/-- The lines that are not empty, with their numbers in the source counted from one. -/
def significantLines (source : String) : List Line :=
  ((sourceLines source).zipIdx 1).filterMap significantLine?

lemma exists_splitOn_eq (source : String) :
    ∃ rest, source.toList.splitOn '\n' = sourceLines source ++ rest ∧ ∀ line ∈ rest, line = [] := by
  unfold sourceLines
  dsimp only
  split_ifs with hlast
  · exact ⟨[[]], (List.dropLast_append_getLast? [] hlast).symm, by simp⟩
  · exact ⟨[], (List.append_nil _).symm, by simp⟩

/-- The lines that carry a statement are the significant ones, counted modulo the bound. -/
lemma statementLines_eq_map (source : String) :
    statementLines source =
      (significantLines source).map fun line => ⟨line.number % lineNumberBound, line.text⟩ := by
  obtain ⟨rest, hsplit, hrest⟩ := exists_splitOn_eq source
  unfold statementLines significantLines
  rw [hsplit, List.zipIdx_append, List.filterMap_append, List.map_filterMap]
  have hnone : (rest.zipIdx (1 + (sourceLines source).length)).filterMap (fun entry =>
      let text := statementText entry.1
      if text.isEmpty then none else some ⟨entry.2 % lineNumberBound, text⟩) = ([] : List Line) := by
    rw [List.filterMap_eq_nil_iff]
    rintro ⟨line, number⟩ hentry
    obtain ⟨-, -, hline⟩ := List.mem_zipIdx hentry
    rw [hline, hrest _ (List.getElem_mem _)]
    rfl
  rw [hnone, List.append_nil]
  refine List.filterMap_congr fun entry _ => ?_
  unfold significantLine?
  simp only [List.isEmpty_iff]
  split <;> rfl

/-- Where the numbers of the lines stay below their bound, the lines that carry a statement are the
significant ones. -/
theorem statementLines_eq {source : String} (h : (sourceLines source).length < Nat.pow 2 32) :
    statementLines source = significantLines source := by
  rw [statementLines_eq_map]
  unfold significantLines
  rw [List.map_filterMap]
  refine List.filterMap_congr fun entry hentry => ?_
  obtain ⟨-, hnumber, -⟩ := List.mem_zipIdx hentry
  have hbound : 1 + (sourceLines source).length ≤ lineNumberBound := by
    rw [Nat.add_comm]
    exact h
  have hmod : entry.2 % lineNumberBound = entry.2 :=
    Nat.mod_eq_of_lt (Nat.lt_of_lt_of_le hnumber hbound)
  unfold significantLine?
  split
  · rfl
  · rw [Option.map_some, hmod]

theorem significantLines_of_take_eq {source other : String} {before : List Line} {line : Line}
    (h : before ++ [line] <+: significantLines source)
    (hlines : (sourceLines other).take line.number = (sourceLines source).take line.number) :
    before ++ [line] <+: significantLines other := by
  obtain ⟨after, hafter⟩ := h
  rw [List.append_assoc, List.singleton_append] at hafter
  obtain ⟨entries, others, hentries, hbefore, hothers⟩ :=
    List.filterMap_eq_append_iff.mp hafter.symm
  obtain ⟨skipped, entry, left, rfl, hskipped, hentry, -⟩ := List.filterMap_eq_cons_iff.mp hothers
  rw [← List.append_assoc, List.zipIdx_eq_append_iff] at hentries
  obtain ⟨first, last, hsource, hfirst, hlast⟩ := hentries
  obtain ⟨raw, remaining, rfl, rfl, -⟩ := List.zipIdx_eq_cons_iff.mp hlast.symm
  -- The number of the line tells how many lines of the source stand up to it.
  have hnumber : line.number = first.length + 1 := by
    unfold significantLine? at hentry
    split at hentry
    · cases hentry
    · cases hentry
      exact Nat.add_comm _ _
  have htake : (sourceLines other).take line.number = first ++ [raw] := by
    rw [hlines, hsource, hnumber]
    simp [List.take_append]
  have hother : sourceLines other = first ++ raw :: (sourceLines other).drop line.number := by
    calc sourceLines other
      _ = (sourceLines other).take line.number ++ (sourceLines other).drop line.number :=
          (List.take_append_drop _ _).symm
      _ = first ++ raw :: (sourceLines other).drop line.number := by
          rw [htake, List.append_assoc, List.singleton_append]
  unfold significantLines
  rw [hother, List.zipIdx_append, List.zipIdx_cons, ← hfirst, List.filterMap_append,
    List.filterMap_append, hbefore, List.filterMap_eq_nil_iff.mpr hskipped,
    List.filterMap_cons_some hentry]
  simp

/-! ### Documents -/

/-- The statements are written on the lines, one on each. -/
def WrittenOn (file : String) (lines : List Line) (statements : List Statement) : Prop :=
  List.Forall₂ (fun line statement => statement.WrittenAs ⟨file, line.number⟩ line.text)
    lines statements

/-- The name of the document stands on the first significant line of the source as it is, and each
later one is written as a statement. -/
def Document.DescribedBy (document : Document) (source file : String) : Prop :=
  ∃ first later statements, significantLines source = first :: later ∧ ¬Labelled first.text ∧
    WrittenOn file later statements ∧
    document.name = String.ofList first.text ∧ document.place = ⟨file, first.number⟩ ∧
    document.gates = statements.filterMap Statement.gate? ∧
    document.probabilities = statements.filterMap Statement.probability? ∧
    document.states = statements.filterMap Statement.state?

/-- The line is what it has to be behind the given lines: a name on the first line, a statement on
a later one. -/
def FollowsOn (file : String) (before : List Line) (line : Line) : Prop :=
  match before with
  | [] => ¬Labelled line.text
  | _ :: _ => ∃ statement : Statement, statement.WrittenAs ⟨file, line.number⟩ line.text

/-- The line is the first of the lines that is not what it has to be. -/
structure FirstOffence (file : String) (lines before : List Line) (line : Line) : Prop where
  stands : before ++ [line] <+: lines
  earlier : ∀ previous found, previous ++ [found] <+: before → FollowsOn file previous found
  offends : ¬FollowsOn file before line

/-- The line is labelled and the first one, or it is a second unlabelled line with no definition of
a gate before it. -/
def MisplacesName (before : List Line) (line : Line) : Prop :=
  (before = [] ∧ Labelled line.text) ∨
    (before ≠ [] ∧ ¬Labelled line.text ∧ ∀ earlier ∈ before, ¬ShowsDefinition earlier.text)

instance (before : List Line) (line : Line) : Decidable (MisplacesName before line) :=
  inferInstanceAs (Decidable (_ ∨ _))

namespace Document

variable {file name source : String} {gateSeen : Bool} {line : Line} {lines before : List Line}
  {statements : List Statement}

lemma readLine_of_second (h : ¬Labelled line.text) :
    readLine file name false line = .error ⟨.format (.secondName name), file, line.number⟩ := by
  unfold readLine
  rw [if_pos (by simp [not_labelled_iff.mp h])]

lemma labelled_of_writtenAs {place : Place} {statement : Statement} {text : List Char}
    (h : statement.WrittenAs place text) : Labelled text := by
  by_contra hunlabelled
  have hkind := LineKind.ofText_eq_iff.mpr h.shows
  rw [not_labelled_iff.mp hunlabelled] at hkind
  cases statement <;> cases hkind

lemma readLine_eq_ok_iff {statement : Statement} :
    readLine file name gateSeen line = .ok statement ↔
      statement.WrittenAs ⟨file, line.number⟩ line.text := by
  by_cases hread : gateSeen = true ∨ Labelled line.text
  · rw [readLine_eq hread, ← Statement.ofText_eq_ok_iff]
    cases Statement.ofText ⟨file, line.number⟩ line.text <;> simp [Except.mapError]
  · obtain ⟨hgate, hunlabelled⟩ := not_or.mp hread
    rw [Bool.eq_false_iff.mpr hgate, readLine_of_second hunlabelled]
    exact iff_of_false (by simp) (mt labelled_of_writtenAs hunlabelled)

lemma readLine_eq_error (name : String) (gateSeen : Bool)
    (h : ∀ statement : Statement, ¬statement.WrittenAs ⟨file, line.number⟩ line.text) :
    ∃ fault : Fault, readLine file name gateSeen line = .error ⟨fault, file, line.number⟩ ∧
      fault.kind = if gateSeen = false ∧ ¬Labelled line.text then .format else .parsing := by
  by_cases hread : gateSeen = true ∨ Labelled line.text
  · have hparsing : ¬(gateSeen = false ∧ ¬Labelled line.text) := by
      rintro ⟨rfl, hunlabelled⟩
      simp [hunlabelled] at hread
    rw [readLine_eq hread, if_neg hparsing]
    cases hresult : Statement.ofText ⟨file, line.number⟩ line.text with
    | ok statement => exact absurd (Statement.ofText_eq_ok_iff.mp hresult) (h statement)
    | error fault => exact ⟨.parsing fault, rfl, rfl⟩
  · obtain ⟨hgate, hunlabelled⟩ := not_or.mp hread
    have hgate := Bool.eq_false_iff.mpr hgate
    rw [if_pos ⟨hgate, hunlabelled⟩, hgate, readLine_of_second hunlabelled]
    exact ⟨_, rfl, rfl⟩

lemma readLines_eq_ok_iff :
    readLines file name gateSeen lines = .ok statements ↔ WrittenOn file lines statements := by
  unfold WrittenOn
  induction lines generalizing gateSeen statements with
  | nil =>
    rw [List.forall₂_nil_left_iff, readLines]
    simp [eq_comm]
  | cons line rest ih =>
    rw [List.forall₂_cons_left_iff, readLines]
    constructor
    · intro h
      obtain ⟨statement, hstatement, h⟩ := bind_eq_ok_iff.mp h
      obtain ⟨others, hothers, h⟩ := bind_eq_ok_iff.mp h
      cases h
      exact ⟨statement, others, readLine_eq_ok_iff.mp hstatement, ih.mp hothers, rfl⟩
    · rintro ⟨statement, others, hstatement, hothers, rfl⟩
      refine bind_eq_ok_iff.mpr ⟨statement, readLine_eq_ok_iff.mpr hstatement, ?_⟩
      exact bind_eq_ok_iff.mpr ⟨others, ih.mpr hothers, rfl⟩

/-- One of the statements defines a gate. -/
def gateAmong (statements : List Statement) : Bool :=
  statements.any fun statement => statement.gate?.isSome

lemma readLines_append (rest : List Line) (h : WrittenOn file before statements) :
    readLines file name gateSeen (before ++ rest) =
      (readLines file name (gateSeen || gateAmong statements) rest).map (statements ++ ·) := by
  unfold WrittenOn at h
  unfold gateAmong
  induction h generalizing gateSeen with
  | nil =>
    simp only [List.nil_append, List.any_nil, Bool.or_false]
    cases readLines file name gateSeen rest <;> rfl
  | @cons line statement before statements hstatement _ ih =>
    have hline : readLine file name gateSeen line = .ok statement :=
      readLine_eq_ok_iff.mpr hstatement
    rw [List.cons_append, readLines, hline]
    simp only [bind, Except.bind, ih, List.any_cons, Bool.or_assoc]
    cases readLines file name _ rest <;> rfl

lemma gateAmong_iff (h : WrittenOn file before statements) :
    gateAmong statements = true ↔ ∃ earlier ∈ before, ShowsDefinition earlier.text := by
  unfold WrittenOn at h
  unfold gateAmong
  induction h with
  | nil => simp
  | @cons line statement before statements hstatement _ ih =>
    have hgate : statement.gate?.isSome = true ↔ ShowsDefinition line.text := by
      rw [showsDefinition_iff, LineKind.ofText_eq_iff.mpr hstatement.shows]
      cases statement <;> simp [Statement.gate?, Statement.kind]
    rw [List.any_cons, Bool.or_eq_true, ih, hgate]
    simp

lemma exists_line (h : WrittenOn file lines statements) {statement : Statement}
    (hstatement : statement ∈ statements) :
    ∃ line ∈ lines, statement.WrittenAs ⟨file, line.number⟩ line.text := by
  unfold WrittenOn at h
  induction h with
  | nil => cases hstatement
  | @cons line first lines statements hfirst _ ih =>
    rcases List.mem_cons.mp hstatement with rfl | hstatement
    · exact ⟨line, List.mem_cons_self, hfirst⟩
    · obtain ⟨found, hfound, hwritten⟩ := ih hstatement
      exact ⟨found, List.mem_cons_of_mem _ hfound, hwritten⟩

theorem parse_eq_ok_iff {document : Document} :
    parse source file = .ok document ↔
      ∃ first later statements, statementLines source = first :: later ∧ ¬Labelled first.text ∧
        WrittenOn file later statements ∧
        document = ofStatements (String.ofList first.text) ⟨file, first.number⟩ statements := by
  unfold parse
  constructor
  · intro h
    split at h
    · cases h
    · rename_i first later hlines
      split at h
      · rename_i hunlabelled
        obtain ⟨statements, hstatements, h⟩ := bind_eq_ok_iff.mp h
        cases h
        exact ⟨first, later, statements, hlines, not_labelled_iff.mpr hunlabelled,
          readLines_eq_ok_iff.mp hstatements, rfl⟩
      · cases h
  · rintro ⟨first, later, statements, hlines, hunlabelled, hstatements, rfl⟩
    rw [hlines]
    dsimp only
    rw [if_pos (not_labelled_iff.mp hunlabelled)]
    exact bind_eq_ok_iff.mpr ⟨statements, readLines_eq_ok_iff.mpr hstatements, rfl⟩

theorem isProbability_of_parse {document : Document} (h : parse source file = .ok document) :
    ∀ assignment ∈ document.probabilities, assignment.value.isProbability = true := by
  obtain ⟨first, later, statements, -, -, hstatements, rfl⟩ := parse_eq_ok_iff.mp h
  intro assignment hassignment
  obtain ⟨statement, hstatement, hsome⟩ := List.mem_filterMap.mp hassignment
  obtain ⟨line, -, hwritten⟩ := exists_line hstatements hstatement
  obtain ⟨-, tokens, -, hspelled⟩ := hwritten
  cases hspelled with
  | gate name formula tokens hformula => cases hsome
  | probability letter name literal value hletter hliteral hvalue =>
    cases hsome
    exact hvalue
  | state letter name word value hletter hword => cases hsome

lemma parse_eq_ok_iff_describedBy (hlines : (sourceLines source).length < Nat.pow 2 32)
    {document : Document} :
    parse source file = .ok document ↔ document.DescribedBy source file := by
  rw [parse_eq_ok_iff, statementLines_eq hlines]
  constructor
  · rintro ⟨first, later, statements, hsource, hfirst, hstatements, rfl⟩
    exact ⟨first, later, statements, hsource, hfirst, hstatements, rfl, rfl, rfl, rfl, rfl⟩
  · rintro ⟨first, later, statements, hsource, hfirst, hstatements, hname, hplace, hgates,
      hprobabilities, hstates⟩
    refine ⟨first, later, statements, hsource, hfirst, hstatements, ?_⟩
    unfold ofStatements
    rw [← hname, ← hplace, ← hgates, ← hprobabilities, ← hstates]

/-! ### First offences -/

lemma exists_firstOffence (file : String) (lines : List Line) :
    (∀ previous found, previous ++ [found] <+: lines → FollowsOn file previous found) ∨
      ∃ before line, FirstOffence file lines before line := by
  -- From the end: whether the last line follows on is asked only when all the others do.
  induction lines using List.reverseRecOn with
  | nil => exact Or.inl fun previous found h => by simp at h
  | append_singleton lines last ih =>
    rcases ih with hall | ⟨before, line, hstands, hearlier, hoffends⟩
    · by_cases hlast : FollowsOn file lines last
      · left
        intro previous found h
        rcases List.prefix_concat_iff.mp h with heq | h
        · obtain ⟨rfl, hsame⟩ := List.append_inj' heq rfl
          cases hsame
          exact hlast
        · exact hall previous found h
      · exact Or.inr ⟨lines, last, List.prefix_rfl, hall, hlast⟩
    · exact Or.inr ⟨before, line, hstands.trans (List.prefix_append _ _), hearlier, hoffends⟩

lemma exists_writtenOn {first : Line}
    (h : ∀ previous found, previous ++ [found] <+: first :: lines → FollowsOn file previous found) :
    ¬Labelled first.text ∧ ∃ statements, WrittenOn file lines statements := by
  refine ⟨h [] first ⟨lines, rfl⟩, ?_⟩
  unfold WrittenOn
  induction lines using List.reverseRecOn with
  | nil => exact ⟨[], List.Forall₂.nil⟩
  | append_singleton lines last ih =>
    obtain ⟨statements, hstatements⟩ := ih fun previous found hstart =>
      h previous found (hstart.trans (List.prefix_append (first :: lines) [last]))
    obtain ⟨statement, hstatement⟩ := h (first :: lines) last List.prefix_rfl
    exact ⟨statements ++ [statement], List.rel_append hstatements (.cons hstatement .nil)⟩

lemma misplacesName_cons_iff {first : Line} (hfirst : ¬Labelled first.text)
    (h : WrittenOn file before statements) :
    MisplacesName (first :: before) line ↔
      gateAmong statements = false ∧ ¬Labelled line.text := by
  have hdefinition : ¬ShowsDefinition first.text := fun hshows => hfirst (.inl hshows)
  rw [Bool.eq_false_iff, Ne, gateAmong_iff h]
  constructor
  · rintro (⟨hnil, -⟩ | ⟨-, hline, hearlier⟩)
    · cases hnil
    · refine ⟨?_, hline⟩
      rintro ⟨earlier, hmem, hshows⟩
      exact hearlier earlier (List.mem_cons_of_mem _ hmem) hshows
  · rintro ⟨hnone, hline⟩
    refine .inr ⟨List.cons_ne_nil _ _, hline, List.forall_mem_cons.mpr ⟨hdefinition, ?_⟩⟩
    exact fun earlier hmem hshows => hnone ⟨earlier, hmem, hshows⟩

/-- The lines up to the first offence decide what is reported. -/
lemma parse_of_firstOffence (h : FirstOffence file lines before line) :
    ∃ fault : Fault, fault.kind = (if MisplacesName before line then .format else .parsing) ∧
      ∀ source, before ++ [line] <+: statementLines source →
        parse source file = .error ⟨fault, file, line.number⟩ := by
  obtain ⟨-, hearlier, hoffends⟩ := h
  cases before with
  | nil =>
    have hlabelled : Labelled line.text := not_not.mp hoffends
    refine ⟨.format .definitionBeforeName, ?_, ?_⟩
    · rw [if_pos (.inl ⟨rfl, hlabelled⟩)]
      rfl
    · rintro source ⟨after, hafter⟩
      unfold parse
      rw [← hafter]
      dsimp only [List.nil_append, List.singleton_append]
      rw [if_neg (mt not_labelled_iff.mpr (not_not.mpr hlabelled))]
  | cons first before =>
    obtain ⟨hfirst, statements, hstatements⟩ := exists_writtenOn hearlier
    have hnone : ∀ statement : Statement, ¬statement.WrittenAs ⟨file, line.number⟩ line.text :=
      not_exists.mp hoffends
    obtain ⟨fault, hfault, hkind⟩ :=
      readLine_eq_error (String.ofList first.text) (gateAmong statements) hnone
    refine ⟨fault, ?_, ?_⟩
    · rw [hkind]
      exact if_congr (misplacesName_cons_iff hfirst hstatements).symm rfl rfl
    · rintro source ⟨after, hafter⟩
      unfold parse
      rw [← hafter]
      dsimp only [List.cons_append]
      rw [if_pos (not_labelled_iff.mp hfirst), List.append_assoc]
      rw [readLines_append _ hstatements, Bool.false_or, List.singleton_append, readLines, hfault]
      rfl

/-- A source is read as the document that it describes. Any other source with significant lines has
a first offence. Its line is reported, for its format when it misplaces the name and as a parsing
fault otherwise, and the lines behind it make no difference. -/
theorem parse_describes_or_reports_first_offence (file : String) {source : String}
    (hlines : (sourceLines source).length < Nat.pow 2 32) :
    (∀ document, parse source file = .ok document ↔ document.DescribedBy source file) ∧
    (significantLines source = [] → parse source file = .error ⟨.format .emptyDocument, file, 0⟩) ∧
    (∀ before line, FirstOffence file (significantLines source) before line →
      ∃ fault : Fault, parse source file = .error ⟨fault, file, line.number⟩ ∧
        fault.kind = (if MisplacesName before line then .format else .parsing) ∧
        ∀ other, (sourceLines other).length < Nat.pow 2 32 →
          (sourceLines other).take line.number = (sourceLines source).take line.number →
          parse other file = .error ⟨fault, file, line.number⟩) ∧
    ((∃ document : Document, document.DescribedBy source file) ∨ significantLines source = [] ∨
      ∃ before line, FirstOffence file (significantLines source) before line) := by
  refine ⟨fun document => parse_eq_ok_iff_describedBy hlines, ?_, ?_, ?_⟩
  · intro hnone
    unfold parse
    rw [statementLines_eq hlines, hnone]
  · intro before line hoffence
    obtain ⟨fault, hkind, hparse⟩ := parse_of_firstOffence hoffence
    refine ⟨fault, hparse source ?_, hkind, fun other hother htake => hparse other ?_⟩
    · rw [statementLines_eq hlines]
      exact hoffence.stands
    · rw [statementLines_eq hother]
      exact significantLines_of_take_eq hoffence.stands htake
  · rcases exists_firstOffence file (significantLines source) with hall | hoffence
    · cases hsource : significantLines source with
      | nil => exact .inr (.inl rfl)
      | cons first later =>
        rw [hsource] at hall
        obtain ⟨hfirst, statements, hstatements⟩ := exists_writtenOn hall
        exact .inl ⟨ofStatements (String.ofList first.text) ⟨file, first.number⟩ statements,
          first, later, statements, hsource, hfirst, hstatements, rfl, rfl, rfl, rfl, rfl⟩
    · exact .inr (.inr hoffence)

/-- A source with a name describes a document, and one without is reported on its first line. -/
theorem sample_described_and_missing_name_reported :
    (∃ document : Document,
      parse "Plant # example\n\nTop := Pump & ~Valve\ns(Pump) = TRUE" "plant.ft" = .ok document ∧
      document.DescribedBy "Plant # example\n\nTop := Pump & ~Valve\ns(Pump) = TRUE" "plant.ft") ∧
    ∃ fault : Fault, fault.kind = .format ∧
      parse "\np(Pump) = 0.5\nPlant" "plant.ft" = .error ⟨fault, "plant.ft", 2⟩ ∧
      parse "\np(Pump) = 0.5\nTop :=" "plant.ft" = .error ⟨fault, "plant.ft", 2⟩ := by
  constructor
  · have hparse : ∃ document,
        parse "Plant # example\n\nTop := Pump & ~Valve\ns(Pump) = TRUE" "plant.ft" = .ok document :=
      ⟨⟨"Plant", ⟨"plant.ft", 1⟩,
        [⟨"Top", ⟨.and, [⟨"Pump", false⟩, ⟨"Valve", true⟩]⟩, ⟨"plant.ft", 3⟩⟩], [],
        [⟨"Pump", true, ⟨"plant.ft", 4⟩⟩]⟩, by decide +kernel⟩
    have hlines : (sourceLines
        "Plant # example\n\nTop := Pump & ~Valve\ns(Pump) = TRUE").length < Nat.pow 2 32 := by
      decide +kernel
    obtain ⟨hdescribes, -⟩ := parse_describes_or_reports_first_offence "plant.ft" hlines
    obtain ⟨document, hdocument⟩ := hparse
    exact ⟨document, hdocument, (hdescribes document).mp hdocument⟩
  · have hlines : (sourceLines "\np(Pump) = 0.5\nPlant").length < Nat.pow 2 32 := by decide +kernel
    have hoffence : FirstOffence "plant.ft" (significantLines "\np(Pump) = 0.5\nPlant") []
        ⟨2, "p(Pump) = 0.5".toList⟩ :=
      ⟨by decide +kernel, fun previous found h => by simp at h,
        not_not.mpr (show Labelled "p(Pump) = 0.5".toList by decide +kernel)⟩
    obtain ⟨-, -, hreports, -⟩ := parse_describes_or_reports_first_offence "plant.ft" hlines
    obtain ⟨fault, hparse, hkind, hstart⟩ := hreports [] _ hoffence
    have hmisplaced : MisplacesName [] ⟨2, "p(Pump) = 0.5".toList⟩ := by decide +kernel
    rw [if_pos hmisplaced] at hkind
    exact ⟨fault, hkind, hparse, hstart _ (by decide +kernel) (by decide +kernel)⟩

end Document
end FaultTreeExchange
