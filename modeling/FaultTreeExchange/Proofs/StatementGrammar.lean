import FaultTreeExchange.Document.Parser
import FaultTreeExchange.Proofs.FormulaGrammar
import FaultTreeExchange.Proofs.TokenText

/-!
# The grammar of statements

A line shows by its text alone which kind of statement it has to be, and its tokens spell the
statement. Reading a line gives exactly the statement that is written on it.
-/

namespace FaultTreeExchange

open Text

/-! ### Kinds of lines -/

/-- The text holds the sign of a gate definition. -/
def ShowsDefinition (text : List Char) : Prop :=
  [':', '='] <:+: text

/-- The text starts with one of the letters and a parenthesis, with nothing but blanks between them,
and holds `=`. -/
def ShowsAssignment (letters text : List Char) : Prop :=
  (∃ letter ∈ letters, ∃ blanks rest, text = letter :: (blanks ++ '(' :: rest) ∧
    ∀ c ∈ blanks, isBlank c = true) ∧ '=' ∈ text

/-- The text is that of a definition or an assignment. -/
def Labelled (text : List Char) : Prop :=
  ShowsDefinition text ∨ ShowsAssignment ['p', 'P', 's', 'S'] text

def LineKind.Shows : LineKind → List Char → Prop
  | .gate, text => ShowsDefinition text
  | .probability, text => ¬ShowsDefinition text ∧ ShowsAssignment ['p', 'P'] text
  | .state, text => ¬ShowsDefinition text ∧ ShowsAssignment ['s', 'S'] text
  | .unlabelled, text => ¬Labelled text

lemma trimStart_head?_eq_some_iff {text : List Char} {c : Char} (hc : isBlank c = false) :
    (trimStart text).head? = some c ↔
      ∃ blanks rest, text = blanks ++ c :: rest ∧ ∀ blank ∈ blanks, isBlank blank = true := by
  unfold trimStart
  constructor
  · intro h
    obtain ⟨rest, hrest⟩ := List.head?_eq_some_iff.mp h
    refine ⟨text.takeWhile isBlank, rest, ?_, fun blank => List.mem_takeWhile_imp⟩
    rw [← hrest, List.takeWhile_append_dropWhile]
  · rintro ⟨blanks, rest, rfl, hblanks⟩
    rw [List.dropWhile_append_of_pos hblanks, List.dropWhile_cons_of_neg (by simp [hc])]
    rfl

lemma showsAssignment_cons_iff {letters rest : List Char} {c : Char} (h : '=' ∉ letters) :
    ShowsAssignment letters (c :: rest) ↔
      c ∈ letters ∧ (trimStart rest).head? = some '(' ∧ '=' ∈ rest := by
  rw [trimStart_head?_eq_some_iff (by decide)]
  constructor
  · rintro ⟨⟨letter, hletter, blanks, others, heq, hblanks⟩, hequals⟩
    cases heq
    refine ⟨hletter, ⟨blanks, others, rfl, hblanks⟩, ?_⟩
    rcases List.mem_cons.mp hequals with rfl | hequals
    · exact absurd hletter h
    · exact hequals
  · rintro ⟨hletter, ⟨blanks, others, rfl, hblanks⟩, hequals⟩
    exact ⟨⟨c, hletter, blanks, others, rfl, hblanks⟩, List.mem_cons_of_mem _ hequals⟩

theorem LineKind.ofText_eq_iff {text : List Char} {kind : LineKind} :
    ofText text = kind ↔ kind.Shows text := by
  unfold ofText
  by_cases hdefinition : ShowsDefinition text
  · rw [if_pos (Name.holdsPair_iff.mpr hdefinition)]
    cases kind <;> simp [Shows, Labelled, hdefinition]
  · rw [if_neg (mt Name.holdsPair_iff.mp hdefinition)]
    cases text with
    | nil => cases kind <;> simp [Shows, Labelled, ShowsAssignment, hdefinition]
    | cons c rest =>
      by_cases hcall : (trimStart rest).head? = some '(' ∧ '=' ∈ rest
      · simp only [hcall, List.contains_iff_mem.mpr hcall.2]
        cases kind <;>
          simp (disch := decide) only [Shows, Labelled, hdefinition, showsAssignment_cons_iff,
            hcall] <;>
          grind
      · cases kind <;> simp [Shows, Labelled, hdefinition, showsAssignment_cons_iff, hcall]

lemma showsDefinition_iff {text : List Char} :
    ShowsDefinition text ↔ LineKind.ofText text = .gate :=
  (@LineKind.ofText_eq_iff text .gate).symm

lemma not_labelled_iff {text : List Char} :
    ¬Labelled text ↔ LineKind.ofText text = .unlabelled :=
  (@LineKind.ofText_eq_iff text .unlabelled).symm

instance (text : List Char) : Decidable (ShowsDefinition text) :=
  decidable_of_iff _ showsDefinition_iff.symm

instance (text : List Char) : Decidable (Labelled text) :=
  decidable_of_iff (LineKind.ofText text ≠ .unlabelled)
    ((not_congr not_labelled_iff.symm).trans not_not)

lemma head?_of_scan_assignment {letters text : List Char} {tokens : List Token}
    (hletters : letters ⊆ ['p', 'P', 's', 'S'])
    (hshows : ShowsAssignment letters text) (hscan : Token.scan text = .ok tokens) :
    ∃ letter ∈ letters, tokens.head? = some (.word (String.singleton letter)) := by
  obtain ⟨⟨letter, hletter, blanks, rest, rfl, hblanks⟩, -⟩ := hshows
  obtain ⟨halphanumeric, hdigit, hblank, hpoint⟩ : isAlphanumeric letter = true ∧
      isDigit letter = false ∧ isBlank letter = false ∧ letter ≠ '.' := by
    have hcases := hletters hletter
    simp only [List.mem_cons, List.not_mem_nil, or_false] at hcases
    rcases hcases with rfl | rfl | rfl | rfl <;> decide +kernel
  refine ⟨letter, hletter, ?_⟩
  obtain ⟨token, others, hfirst, -, rfl⟩ := (Token.scan_cons_eq_ok_iff hblank).mp hscan
  have hword : (blanks ++ '(' :: rest).takeWhile Token.continuesWord = [] :=
    Token.takeWhile_continuesWord hblanks (by decide +kernel) rest
  rw [Token.first_of_isAlphanumeric hdigit hpoint (Bool.or_eq_true_iff.mpr (.inl halphanumeric)),
    hword] at hfirst
  cases hfirst
  simp

namespace Statement

/-! ### Spellings -/

def kind : Statement → LineKind
  | .gate _ => .gate
  | .probability _ => .probability
  | .state _ => .state

/-- The tokens of `word(name) =`. -/
def targetTokens (word name : String) : List Token :=
  [.word word, .leftParenthesis, .word name, .rightParenthesis, .equals]

/-- The statements of a place with the tokens that spell them. -/
inductive SpelledBy (place : Place) : Statement → List Token → Prop where
  | gate (name : String) (formula : Formula) (tokens : List Token)
      (hformula : formula.SpelledBy tokens) :
      SpelledBy place (.gate ⟨name, formula, place⟩) (.word name :: .define :: tokens)
  | probability (letter : Char) (name literal : String) (value : Binary64)
      (hletter : letter ∈ ['p', 'P']) (hliteral : Binary64.ofText? literal = some value)
      (hvalue : value.isProbability = true) :
      SpelledBy place (.probability ⟨name, value, place⟩)
        (targetTokens (String.singleton letter) name ++ [.number literal])
  | state (letter : Char) (name word : String) (value : Bool) (hletter : letter ∈ ['s', 'S'])
      (hword : foldAscii word.toList = (toString value).toList) :
      SpelledBy place (.state ⟨name, value, place⟩)
        (targetTokens (String.singleton letter) name ++ [.word word])

/-- The text shows the kind of the statement, and its tokens spell the statement. -/
structure WrittenAs (place : Place) (statement : Statement) (text : List Char) : Prop where
  shows : statement.kind.Shows text
  spelled : ∃ tokens, Token.scan text = .ok tokens ∧ statement.SpelledBy place tokens

/-! ### Readers -/

variable {place : Place} {tokens rest : List Token} {name : String}

lemma readName_eq_ok_iff : readName tokens = .ok (name, rest) ↔ tokens = .word name :: rest := by
  unfold readName
  split
  · simp
  · rename_i hword
    refine iff_of_false (by simp) ?_
    rintro rfl
    exact hword name rest rfl

lemma readEnd_eq_ok_iff : readEnd tokens = .ok () ↔ tokens = [] := by
  cases tokens <;> simp [readEnd]

lemma readGate_eq_ok_iff {definition : GateDefinition} (h : Formula.LiteralsNonempty tokens) :
    readGate place tokens = .ok definition ↔ SpelledBy place (.gate definition) tokens := by
  unfold readGate
  constructor
  · intro hread
    obtain ⟨⟨name, left⟩, hname, hread⟩ := bind_eq_ok_iff.mp hread
    obtain ⟨rest, hdefine, hread⟩ := bind_eq_ok_iff.mp hread
    obtain ⟨formula, hformula, hread⟩ := bind_eq_ok_iff.mp hread
    cases hread
    rw [readName_eq_ok_iff] at hname
    rw [Formula.expect_eq_ok_iff] at hdefine
    subst hname hdefine
    have hrest : Formula.LiteralsNonempty rest :=
      fun literal hliteral => h literal (by simp [hliteral])
    exact .gate name formula rest ((Formula.read_eq_ok_iff hrest).mp hformula)
  · intro hspelled
    cases hspelled with
    | gate name formula rest hformula =>
      have hrest : Formula.LiteralsNonempty rest :=
        fun literal hliteral => h literal (by simp [hliteral])
      refine bind_eq_ok_iff.mpr ⟨_, readName_eq_ok_iff.mpr rfl, ?_⟩
      refine bind_eq_ok_iff.mpr ⟨_, Formula.expect_eq_ok_iff.mpr rfl, ?_⟩
      exact bind_eq_ok_iff.mpr ⟨_, (Formula.read_eq_ok_iff hrest).mpr hformula, rfl⟩

lemma readTarget_eq_ok_iff :
    readTarget tokens = .ok (name, rest) ↔ ∃ word, tokens = targetTokens word name ++ rest := by
  unfold readTarget
  constructor
  · intro hread
    obtain ⟨⟨word, _⟩, hword, hread⟩ := bind_eq_ok_iff.mp hread
    obtain ⟨_, hopening, hread⟩ := bind_eq_ok_iff.mp hread
    obtain ⟨⟨_, _⟩, hname, hread⟩ := bind_eq_ok_iff.mp hread
    obtain ⟨_, hclosing, hread⟩ := bind_eq_ok_iff.mp hread
    obtain ⟨_, hequals, hread⟩ := bind_eq_ok_iff.mp hread
    cases hread
    rw [readName_eq_ok_iff] at hword hname
    rw [Formula.expect_eq_ok_iff] at hopening hclosing hequals
    subst hword hopening hname hclosing hequals
    exact ⟨word, rfl⟩
  · rintro ⟨word, rfl⟩
    refine bind_eq_ok_iff.mpr ⟨_, readName_eq_ok_iff.mpr rfl, ?_⟩
    refine bind_eq_ok_iff.mpr ⟨_, Formula.expect_eq_ok_iff.mpr rfl, ?_⟩
    refine bind_eq_ok_iff.mpr ⟨_, readName_eq_ok_iff.mpr rfl, ?_⟩
    refine bind_eq_ok_iff.mpr ⟨_, Formula.expect_eq_ok_iff.mpr rfl, ?_⟩
    exact bind_eq_ok_iff.mpr ⟨_, Formula.expect_eq_ok_iff.mpr rfl, rfl⟩

lemma readNumber_eq_ok_iff {value : Binary64} :
    readNumber tokens = .ok (value, rest) ↔
      ∃ literal, tokens = .number literal :: rest ∧ Binary64.ofText? literal = some value := by
  unfold readNumber
  split
  · rename_i literal others
    cases hliteral : Binary64.ofText? literal with
    | none => simp [hliteral]
    | some found => simp [hliteral, and_comm, eq_comm]
  · rename_i hnumber
    refine iff_of_false (by simp) ?_
    rintro ⟨literal, rfl, -⟩
    exact hnumber literal rest rfl

lemma readProbability_eq_ok_iff {assignment : ProbabilityAssignment} :
    readProbability place tokens = .ok assignment ↔
      ∃ word name literal value, Binary64.ofText? literal = some value ∧
        value.isProbability = true ∧ assignment = ⟨name, value, place⟩ ∧
        tokens = targetTokens word name ++ [.number literal] := by
  unfold readProbability
  constructor
  · intro hread
    obtain ⟨⟨name, _⟩, htarget, hread⟩ := bind_eq_ok_iff.mp hread
    obtain ⟨⟨value, _⟩, hnumber, hread⟩ := bind_eq_ok_iff.mp hread
    dsimp only at hread
    split at hread
    · rename_i hvalue
      obtain ⟨_, hend, hread⟩ := bind_eq_ok_iff.mp hread
      cases hread
      obtain ⟨word, rfl⟩ := readTarget_eq_ok_iff.mp htarget
      obtain ⟨literal, rfl, hliteral⟩ := readNumber_eq_ok_iff.mp hnumber
      rw [readEnd_eq_ok_iff.mp hend]
      exact ⟨word, name, literal, value, hliteral, hvalue, rfl, rfl⟩
    · cases hread
  · rintro ⟨word, name, literal, value, hliteral, hvalue, rfl, rfl⟩
    refine bind_eq_ok_iff.mpr ⟨_, readTarget_eq_ok_iff.mpr ⟨word, rfl⟩, ?_⟩
    refine bind_eq_ok_iff.mpr ⟨_, readNumber_eq_ok_iff.mpr ⟨literal, rfl, hliteral⟩, ?_⟩
    dsimp only
    rw [if_pos hvalue]
    rfl

lemma truth?_eq_some_iff {word : String} {value : Bool} :
    truth? word = some value ↔ foldAscii word.toList = (toString value).toList := by
  unfold truth?
  dsimp only
  split_ifs with htrue hfalse
  · rw [htrue]
    cases value <;> decide
  · rw [hfalse]
    cases value <;> decide
  · cases value <;> simpa

lemma readTruth_eq_ok_iff {value : Bool} :
    readTruth tokens = .ok (value, rest) ↔
      ∃ word, tokens = .word word :: rest ∧
        foldAscii word.toList = (toString value).toList := by
  unfold readTruth
  simp only [← truth?_eq_some_iff]
  split
  · rename_i word others
    cases hword : truth? word with
    | none => simp [hword]
    | some found => simp [hword, and_comm, eq_comm]
  · rename_i hword
    refine iff_of_false (by simp) ?_
    rintro ⟨word, rfl, -⟩
    exact hword word rest rfl

lemma readState_eq_ok_iff {assignment : StateAssignment} :
    readState place tokens = .ok assignment ↔
      ∃ call name word value, foldAscii word.toList = (toString value).toList ∧
        assignment = ⟨name, value, place⟩ ∧
        tokens = targetTokens call name ++ [.word word] := by
  unfold readState
  constructor
  · intro hread
    obtain ⟨⟨name, _⟩, htarget, hread⟩ := bind_eq_ok_iff.mp hread
    obtain ⟨⟨value, _⟩, htruth, hread⟩ := bind_eq_ok_iff.mp hread
    obtain ⟨_, hend, hread⟩ := bind_eq_ok_iff.mp hread
    cases hread
    obtain ⟨call, rfl⟩ := readTarget_eq_ok_iff.mp htarget
    obtain ⟨word, rfl, hword⟩ := readTruth_eq_ok_iff.mp htruth
    rw [readEnd_eq_ok_iff.mp hend]
    exact ⟨call, name, word, value, hword, rfl, rfl⟩
  · rintro ⟨call, name, word, value, hword, rfl, rfl⟩
    refine bind_eq_ok_iff.mpr ⟨_, readTarget_eq_ok_iff.mpr ⟨call, rfl⟩, ?_⟩
    refine bind_eq_ok_iff.mpr ⟨_, readTruth_eq_ok_iff.mpr ⟨word, rfl, hword⟩, ?_⟩
    rfl

/-! ### Lines -/

lemma literalsNonempty_of_scan {text : List Char} (h : Token.scan text = .ok tokens) :
    Formula.LiteralsNonempty tokens :=
  fun _ hliteral => Token.number_ne_empty_of_scan h hliteral

theorem ofText_eq_ok_iff {text : List Char} {statement : Statement} :
    ofText place text = .ok statement ↔ statement.WrittenAs place text := by
  unfold ofText
  constructor
  · intro h
    cases hkind : LineKind.ofText text with
    | gate =>
      rw [hkind] at h
      obtain ⟨tokens, hscan, h⟩ := bind_eq_ok_iff.mp h
      obtain ⟨definition, hread, h⟩ := bind_eq_ok_iff.mp h
      cases h
      have hspelled := (readGate_eq_ok_iff (literalsNonempty_of_scan hscan)).mp hread
      exact ⟨LineKind.ofText_eq_iff.mp hkind, tokens, hscan, hspelled⟩
    | probability =>
      rw [hkind] at h
      obtain ⟨tokens, hscan, h⟩ := bind_eq_ok_iff.mp h
      obtain ⟨assignment, hread, h⟩ := bind_eq_ok_iff.mp h
      cases h
      have hshows := LineKind.ofText_eq_iff.mp hkind
      obtain ⟨word, name, literal, value, hliteral, hvalue, rfl, rfl⟩ :=
        readProbability_eq_ok_iff.mp hread
      obtain ⟨letter, hletter, hword⟩ := head?_of_scan_assignment (by simp) hshows.2 hscan
      cases hword
      exact ⟨hshows, _, hscan, .probability letter name literal value hletter hliteral hvalue⟩
    | state =>
      rw [hkind] at h
      obtain ⟨tokens, hscan, h⟩ := bind_eq_ok_iff.mp h
      obtain ⟨assignment, hread, h⟩ := bind_eq_ok_iff.mp h
      cases h
      have hshows := LineKind.ofText_eq_iff.mp hkind
      obtain ⟨_, name, word, value, hvalue, rfl, rfl⟩ := readState_eq_ok_iff.mp hread
      obtain ⟨letter, hletter, hword⟩ := head?_of_scan_assignment (by simp) hshows.2 hscan
      cases hword
      exact ⟨hshows, _, hscan, .state letter name word value hletter hvalue⟩
    | unlabelled =>
      rw [hkind] at h
      cases h
  · rintro ⟨hshows, tokens, hscan, hspelled⟩
    rw [LineKind.ofText_eq_iff.mpr hshows]
    cases hspelled with
    | gate name formula rest hformula =>
      have hread : readGate place _ = .ok _ :=
        (readGate_eq_ok_iff (literalsNonempty_of_scan hscan)).mpr (.gate name formula rest hformula)
      exact bind_eq_ok_iff.mpr ⟨_, hscan, bind_eq_ok_iff.mpr ⟨_, hread, rfl⟩⟩
    | probability letter name literal value hletter hliteral hvalue =>
      have hread : readProbability place _ = .ok _ := readProbability_eq_ok_iff.mpr
        ⟨String.singleton letter, name, literal, value, hliteral, hvalue, rfl, rfl⟩
      exact bind_eq_ok_iff.mpr ⟨_, hscan, bind_eq_ok_iff.mpr ⟨_, hread, rfl⟩⟩
    | state letter name word value hletter hword =>
      have hread : readState place _ = .ok _ := readState_eq_ok_iff.mpr
        ⟨String.singleton letter, name, word, value, hword, rfl, rfl⟩
      exact bind_eq_ok_iff.mpr ⟨_, hscan, bind_eq_ok_iff.mpr ⟨_, hread, rfl⟩⟩

lemma readGate_define :
    readGate place (.word name :: .define :: tokens) =
      (Formula.read tokens).map fun formula => ⟨name, formula, place⟩ := by
  have hdefine : Token.expect .define (.define :: tokens) = .ok tokens :=
    Formula.expect_eq_ok_iff.mpr rfl
  simp only [readGate, readName, bind, Except.bind, hdefine]
  cases Formula.read tokens <;> rfl

lemma ofText_definition {text : List Char} (hshows : ShowsDefinition text)
    (hscan : Token.scan text = .ok (.word name :: .define :: tokens)) :
    ofText place text = (Formula.read tokens).map fun formula => .gate ⟨name, formula, place⟩ := by
  have hkind := showsDefinition_iff.mp hshows
  simp only [ofText, hkind, hscan, bind, Except.bind, readGate_define]
  cases Formula.read tokens <;> rfl

end Statement

namespace Document

variable {file name : String} {gateSeen : Bool} {line : Line} {statement : Statement}

/-- An unlabelled line counts as a second name only before the first gate. -/
lemma readLine_eq (h : gateSeen = true ∨ Labelled line.text) :
    readLine file name gateSeen line =
      (Statement.ofText ⟨file, line.number⟩ line.text).mapError fun fault =>
        ⟨.parsing fault, file, line.number⟩ := by
  unfold readLine
  rw [if_neg]
  · cases Statement.ofText ⟨file, line.number⟩ line.text <;> rfl
  · rw [Bool.and_eq_true, decide_eq_true_eq, Bool.not_eq_true', ← not_labelled_iff]
    rintro ⟨hunlabelled, hgate⟩
    rcases h with h | h
    · rw [hgate] at h
      cases h
    · exact hunlabelled h

end Document

/-! ### Formulas of a line -/

/-- A formula behind the sign of its definition is read exactly when tokens spell one, and as the
only formula that they spell. The other formulas are parsing faults of their line. -/
theorem Formula.read_exactly_spelled {text : List Char} {scanned tokens : List Token}
    (hscan : Token.scan text = .ok scanned) (htokens : tokens <:+ scanned) :
    (∀ formula, Formula.read tokens = .ok formula ↔ formula.SpelledBy tokens) ∧
    (∀ first second, SpelledBy first tokens → SpelledBy second tokens → first = second) ∧
    ∀ file tree gateSeen number gate, scanned = .word gate :: .define :: tokens →
      (∀ formula, SpelledBy formula tokens →
        Document.readLine file tree gateSeen ⟨number, text⟩ =
          .ok (.gate ⟨gate, formula, ⟨file, number⟩⟩)) ∧
      ((∀ formula, ¬SpelledBy formula tokens) →
        ∃ fault, Formula.read tokens = .error fault ∧
          Document.readLine file tree gateSeen ⟨number, text⟩ =
            .error ⟨.parsing fault, file, number⟩) := by
  have hliterals : LiteralsNonempty tokens := fun literal hliteral =>
    Token.number_ne_empty_of_scan hscan (htokens.subset hliteral)
  have hread : ∀ formula, Formula.read tokens = .ok formula ↔ formula.SpelledBy tokens :=
    fun _ => read_eq_ok_iff hliterals
  refine ⟨hread, fun first second hfirst hsecond => ?_, ?_⟩
  · have hresult := (hread first).mpr hfirst
    rw [(hread second).mpr hsecond] at hresult
    cases hresult
    rfl
  · rintro file tree gateSeen number gate rfl
    have hdefinition : ShowsDefinition text := Token.infix_of_define_mem_scan hscan (by simp)
    have hlabelled : Labelled (⟨number, text⟩ : Line).text := Or.inl hdefinition
    rw [Document.readLine_eq (.inr hlabelled), Statement.ofText_definition hdefinition hscan]
    constructor
    · intro formula hformula
      rw [(hread formula).mpr hformula]
      rfl
    · intro hnone
      cases hresult : Formula.read tokens with
      | ok formula => exact absurd ((hread formula).mp hresult) (hnone formula)
      | error fault => exact ⟨fault, rfl, rfl⟩

/-- A vote with a negated argument is read as it is spelled. -/
theorem Formula.sample_vote_read :
    Token.scan "Top := @(1, [pump, ~Mains])".toList = .ok
      ([.word "Top", .define] ++ [.vote, .leftParenthesis, .number "1", .comma, .leftBracket,
        .word "pump", .comma, .negation, .word "Mains", .rightBracket, .rightParenthesis]) ∧
    Document.readLine "plant.ft" "Plant" false ⟨2, "Top := @(1, [pump, ~Mains])".toList⟩ =
      .ok (.gate ⟨"Top", ⟨.atLeast 1, [⟨"pump", false⟩, ⟨"Mains", true⟩]⟩, ⟨"plant.ft", 2⟩⟩) := by
  have hscan : Token.scan "Top := @(1, [pump, ~Mains])".toList = .ok
      ([.word "Top", .define] ++ [.vote, .leftParenthesis, .number "1", .comma, .leftBracket,
        .word "pump", .comma, .negation, .word "Mains", .rightBracket, .rightParenthesis]) := by
    decide +kernel
  obtain ⟨-, -, hline⟩ := read_exactly_spelled hscan (List.suffix_append _ _)
  refine ⟨hscan, (hline "plant.ft" "Plant" false 2 "Top" rfl).1 _ ?_⟩
  exact .vote "1" 1 [⟨"pump", false⟩, ⟨"Mains", true⟩]
    ⟨by decide, by simp [isDigit], by decide, by decide⟩ (by simp)

end FaultTreeExchange
