import FaultTreeExchange.Proofs.LiteralGrammar

/-!
# Numbers and words

A token that starts at a digit or a point is the longest decimal literal there, unless a word goes on
behind that literal. Otherwise a digit starts a word and a point is refused. No number token is refused
as a number.
-/

namespace FaultTreeExchange

open Text

namespace Statement

variable {tokens : List Token} {place : Place}

lemma bind_ne_error {ε α β : Type} {first : Except ε α} {next : α → Except ε β} {failure : ε}
    (hfirst : first ≠ .error failure)
    (hnext : ∀ middle, first = .ok middle → next middle ≠ .error failure) :
    first >>= next ≠ .error failure := by
  rw [ne_eq, bind_eq_error_iff]
  rintro (h | ⟨middle, hmiddle, h⟩)
  · exact hfirst h
  · exact hnext middle hmiddle h

lemma readName_ne_invalidProbability (tokens : List Token) (literal : String) :
    readName tokens ≠ .error (.invalidProbability literal) := by
  unfold readName
  split <;> simp

lemma expect_ne_invalidProbability (wanted : Token) (tokens : List Token) (literal : String) :
    Token.expect wanted tokens ≠ .error (.invalidProbability literal) := by
  unfold Token.expect
  split
  · simp
  · split <;> simp

lemma readTarget_ne_invalidProbability (tokens : List Token) (literal : String) :
    readTarget tokens ≠ .error (.invalidProbability literal) := by
  unfold readTarget
  refine bind_ne_error (readName_ne_invalidProbability _ _) fun _ _ => ?_
  refine bind_ne_error (expect_ne_invalidProbability _ _ _) fun _ _ => ?_
  refine bind_ne_error (readName_ne_invalidProbability _ _) fun _ _ => ?_
  refine bind_ne_error (expect_ne_invalidProbability _ _ _) fun _ _ => ?_
  exact bind_ne_error (expect_ne_invalidProbability _ _ _) fun _ _ => by simp [pure, Except.pure]

lemma readProbability_ne_invalidProbability
    (h : ∀ literal, .number literal ∈ tokens → ∃ value, Binary64.ofText? literal = some value)
    (literal : String) : readProbability place tokens ≠ .error (.invalidProbability literal) := by
  unfold readProbability
  refine bind_ne_error (readTarget_ne_invalidProbability _ _) fun ⟨name, rest⟩ htarget => ?_
  obtain ⟨word, rfl⟩ := readTarget_eq_ok_iff.mp htarget
  refine bind_ne_error ?_ fun ⟨value, others⟩ _ => ?_
  · unfold readNumber
    split
    · rename_i found others
      obtain ⟨value, hvalue⟩ := h found (by simp)
      rw [hvalue]
      simp
    · simp
  · dsimp only
    split
    · refine bind_ne_error ?_ fun _ _ => by simp [pure, Except.pure]
      cases others <;> simp [readEnd]
    · simp

end Statement

namespace Token

open Decimal

/-! ### Positions of a text -/

/-- The reading of a text comes to a rest of it, with the tokens before that rest. -/
inductive ScansTo (text : List Char) : List Token → List Char → Prop where
  | start : ScansTo text [] text
  | blank {tokens : List Token} {c : Char} {rest : List Char} (h : ScansTo text tokens (c :: rest))
      (hblank : isBlank c = true) : ScansTo text tokens rest
  | token {tokens : List Token} {c : Char} {rest after : List Char} {token : Token}
      (h : ScansTo text tokens (c :: rest)) (hblank : isBlank c = false)
      (hfirst : first c rest = .ok token) (hafter : c :: rest = token.spelling.toList ++ after) :
      ScansTo text (tokens ++ [token]) after

/-- No word goes on at the start of the text. -/
def EndsWord (text : List Char) : Prop :=
  ∀ c ∈ text.head?, continuesWord c = false

variable {text rest after : List Char} {tokens : List Token} {token : Token} {c : Char}

lemma scan_of_first (hblank : isBlank c = false) (hfirst : first c rest = .ok token)
    (hafter : c :: rest = token.spelling.toList ++ after) :
    scan (c :: rest) = (scan after).map (token :: ·) := by
  have hdrop : rest.drop (token.width - 1) = after := by
    rw [← spelling_append_drop hfirst hblank] at hafter
    exact List.append_cancel_left hafter
  rw [scan, if_neg (by simp [hblank]), hfirst]
  dsimp only
  rw [hdrop]
  cases scan after <;> rfl

lemma ScansTo.scan_eq (h : ScansTo text tokens rest) :
    scan text = (scan rest).map (tokens ++ ·) := by
  induction h with
  | start => cases scan text <;> rfl
  | blank _ hblank ih => rw [ih, scan_of_isBlank hblank]
  | @token tokens c rest after token _ hblank hfirst hafter ih =>
    rw [ih, scan_of_first hblank hfirst hafter]
    cases scan after <;> simp [Except.map]

lemma ScansTo.lex_eq {text : String} (h : ScansTo text.toList tokens rest) (file : String)
    (line : Nat) :
    lex text file line = (lex (String.ofList rest) file line).map
      ((tokens.map fun token => ⟨some token, line⟩) ++ ·) := by
  unfold lex
  rw [h.scan_eq, String.toList_ofList]
  cases scan rest <;> simp [Except.map]

/-! ### Tokens that start at a digit or a point -/

lemma number?_eq_some_iff {literal : String} :
    number? text = some literal ↔
      ∃ after, CutsLiteral text literal.toList after ∧ EndsWord after := by
  have hcases : number? text = some literal ↔ ∃ found, Literal.scan text = some found ∧
      EndsWord (text.drop found.text.length) ∧ String.ofList found.text = literal := by
    unfold number? EndsWord
    cases Literal.scan text with
    | none => simp
    | some found =>
      simp only [Option.some.injEq, exists_eq_left']
      generalize text.drop found.text.length = after
      cases after with
      | nil => simp
      | cons c after => cases hc : continuesWord c <;> simp [hc]
  rw [hcases]
  simp only [cutsLiteral_iff]
  constructor
  · rintro ⟨found, hfound, hends, rfl⟩
    exact ⟨_, ⟨found, hfound, String.toList_ofList.symm, rfl⟩, by rwa [String.toList_ofList]⟩
  · rintro ⟨_, ⟨found, hfound, hliteral, rfl⟩, hends⟩
    rw [← hliteral] at hends
    exact ⟨found, hfound, hends, by rw [hliteral, String.ofList_toList]⟩

lemma isAlphanumeric_of_isDigit (h : isDigit c = true) : isAlphanumeric c = true := by
  unfold isDigit at h
  rw [Bool.and_eq_true, decide_eq_true_eq, decide_eq_true_eq] at h
  have hlow : 0x30 ≤ c.toNat := h.1
  have hhigh : c.toNat ≤ 0x39 := h.2
  have hnumeral : isNumeral c = true := by
    unfold isNumeral numeralRanges RangeTable.covers
    rw [if_neg (Nat.not_lt.mpr hlow), decide_eq_true hhigh, Bool.true_or]
  rw [isAlphanumeric, hnumeral, Bool.or_true]

/-- Where no number stands, the signs of names behind a digit make a word. -/
lemma first_of_isDigit (hdigit : isDigit c = true) (hnone : number? (c :: rest) = none) :
    first c rest = .ok (.word (String.ofList ((c :: rest).takeWhile continuesWord))) := by
  have hstart := isAlphanumeric_of_isDigit hdigit
  unfold first
  rw [hnone]
  dsimp only
  rw [if_pos (by simp [hstart]), List.takeWhile_cons_of_pos (by simp [continuesWord, hstart])]

lemma first_of_point (hnone : number? ('.' :: rest) = none) :
    first '.' rest = .error (.unexpectedCharacter '.') := by
  unfold first
  rw [hnone]
  dsimp only
  rw [if_neg (by decide +kernel)]
  rfl

lemma isLiteral_of_mem_scan (h : scan text = .ok tokens) {literal : String}
    (hliteral : .number literal ∈ tokens) : IsLiteral literal.toList := by
  obtain ⟨c, rest, -, hfirst⟩ := exists_first_of_mem_scan h hliteral
  rcases first_cases hfirst with ⟨found, hfound, heq⟩ | heq | hsign
  · cases heq
    obtain ⟨after, hcut, -⟩ := number?_eq_some_iff.mp hfound
    exact hcut.isLiteral
  · cases heq
  · exact absurd rfl ((sign_eq_ok hsign).2.1 literal)

lemma number?_eq_none_of_not_exists
    (h : ¬∃ literal after, CutsLiteral text literal after ∧ EndsWord after) :
    number? text = none := by
  apply Option.eq_none_iff_forall_ne_some.mpr
  intro literal hliteral
  obtain ⟨after, hcut, hends⟩ := number?_eq_some_iff.mp hliteral
  exact h ⟨_, after, hcut, hends⟩

lemma number?_of_cutsLiteral {literal after : List Char} (hcut : CutsLiteral text literal after)
    (hends : EndsWord after) : number? text = some (String.ofList literal) :=
  number?_eq_some_iff.mpr ⟨after, by rwa [String.toList_ofList], hends⟩

lemma ScansTo.number {literal after : List Char} (h : ScansTo text tokens (c :: rest))
    (hblank : isBlank c = false) (hcut : CutsLiteral (c :: rest) literal after)
    (hends : EndsWord after) :
    ScansTo text (tokens ++ [.number (String.ofList literal)]) after := by
  refine h.token hblank ?_ ?_
  · unfold first
    rw [number?_of_cutsLiteral hcut hends]
  · rw [spelling, String.toList_ofList]
    exact hcut.text_eq

lemma ScansTo.word (h : ScansTo text tokens (c :: rest)) (hdigit : isDigit c = true)
    (hnone : number? (c :: rest) = none) :
    ScansTo text (tokens ++ [.word (String.ofList ((c :: rest).takeWhile continuesWord))])
      ((c :: rest).dropWhile continuesWord) := by
  refine h.token (not_isBlank_of_isDigit hdigit) (first_of_isDigit hdigit hnone) ?_
  rw [spelling, String.toList_ofList, List.takeWhile_append_dropWhile]

lemma ScansTo.lex_of_point {text : String} (h : ScansTo text.toList tokens ('.' :: rest))
    (hnone : number? ('.' :: rest) = none) (file : String) (line : Nat) :
    lex text file line = .error ⟨.parsing (.unexpectedCharacter '.'), file, line⟩ := by
  have hscan : scan ('.' :: rest) = .error (.unexpectedCharacter '.') := by
    rw [scan, if_neg (by decide), first_of_point hnone]
  unfold lex
  rw [h.scan_eq, hscan]
  rfl

/-- A token that starts at a digit or a point is the longest literal there, as a number, if no word goes
on behind that. Otherwise a digit starts the word of all characters of names there, and a point is
refused. The tokens up to a position are those of the whole text. Every number token is a literal that
is read as a double without a sign, so that no assignment is refused for a number that cannot be
read. -/
theorem numbers_and_words_told_apart :
    (∀ (text file : String) (line : Nat) (tokens : List Token) (c : Char) (rest : List Char),
      ScansTo text.toList tokens (c :: rest) → isDigit c = true ∨ c = '.' →
        (∀ literal after, CutsLiteral (c :: rest) literal after → EndsWord after →
          ScansTo text.toList (tokens ++ [.number (String.ofList literal)]) after) ∧
        ((¬∃ literal after, CutsLiteral (c :: rest) literal after ∧ EndsWord after) →
          (isDigit c = true → ScansTo text.toList
            (tokens ++ [.word (String.ofList ((c :: rest).takeWhile continuesWord))])
            ((c :: rest).dropWhile continuesWord)) ∧
          (c = '.' →
            lex text file line = .error ⟨.parsing (.unexpectedCharacter '.'), file, line⟩))) ∧
    (∀ (text file : String) (line : Nat) (tokens : List Token) (rest : List Char),
      ScansTo text.toList tokens rest →
        lex text file line = (lex (String.ofList rest) file line).map
          ((tokens.map fun token => ⟨some token, line⟩) ++ ·)) ∧
    (∀ (text file : String) (line : Nat) (lexemes : List Lexeme),
      lex text file line = .ok lexemes → ∀ lexeme ∈ lexemes, ∀ literal,
        lexeme.token? = some (.number literal) → IsLiteral literal.toList ∧
          ∃ rank, Binary64.ofText? literal = some (.number false rank)) ∧
    ∀ (text : List Char) (tokens : List Token), scan text = .ok tokens → ∀ place literal,
      Statement.readProbability place tokens ≠ .error (.invalidProbability literal) := by
  have hnumber : ∀ {text : List Char} {tokens : List Token}, scan text = .ok tokens →
      ∀ literal, .number literal ∈ tokens → IsLiteral literal.toList ∧
        ∃ rank, Binary64.ofText? literal = some (.number false rank) := by
    intro text tokens hscan literal hmem
    have hliteral := isLiteral_of_mem_scan hscan hmem
    obtain ⟨rank, hrank⟩ := Binary64.exists_ofText?_of_isLiteral hliteral
    exact ⟨hliteral, rank, by rwa [String.ofList_toList] at hrank⟩
  refine ⟨fun text file line tokens c rest h hstart => ⟨fun literal after hcut hends => ?_,
      fun hnone => ⟨fun hdigit => ?_, ?_⟩⟩,
    fun text file line tokens rest h => h.lex_eq file line,
    fun text file line lexemes hlex lexeme hlexeme literal hliteral => ?_,
    fun text tokens hscan place literal => ?_⟩
  · refine h.number ?_ hcut hends
    rcases hstart with hdigit | rfl
    · exact not_isBlank_of_isDigit hdigit
    · decide
  · exact h.word hdigit (number?_eq_none_of_not_exists hnone)
  · rintro rfl
    exact h.lex_of_point (number?_eq_none_of_not_exists hnone) file line
  · unfold lex at hlex
    split at hlex
    · cases hlex
    · rename_i tokens htokens
      cases hlex
      refine hnumber htokens literal ?_
      rcases List.mem_append.mp hlexeme with hmem | hend
      · obtain ⟨token, htoken, rfl⟩ := List.mem_map.mp hmem
        exact Option.some.inj hliteral ▸ htoken
      · rw [List.mem_singleton.mp hend] at hliteral
        cases hliteral
  · refine Statement.readProbability_ne_invalidProbability (fun other hother => ?_) literal
    obtain ⟨-, rank, hrank⟩ := hnumber hscan other hother
    exact ⟨_, hrank⟩

/-- A literal with a letter behind it is a word, the literal behind the blank a number; a point
without digits is refused. -/
theorem sample_number_word_and_point :
    (ScansTo "1e-3x .5".toList [] ('1' :: "e-3x .5".toList) ∧
      (¬∃ literal after, CutsLiteral ('1' :: "e-3x .5".toList) literal after ∧ EndsWord after) ∧
      ScansTo "1e-3x .5".toList [.word "1e-3x"] [' ', '.', '5']) ∧
    (CutsLiteral ['.', '5'] ['.', '5'] [] ∧ EndsWord [] ∧
      ScansTo "1e-3x .5".toList [.word "1e-3x", .number ".5"] [] ∧
      lex "1e-3x .5" "plant.ft" 2 = .ok [⟨some (.word "1e-3x"), 2⟩, ⟨some (.number ".5"), 2⟩,
        ⟨none, 2⟩] ∧
      ∃ rank, Binary64.ofText? ".5" = some (.number false rank)) ∧
    (ScansTo "=.e1".toList [.equals] ['.', 'e', '1'] ∧
      (¬∃ literal after, CutsLiteral ['.', 'e', '1'] literal after ∧ EndsWord after) ∧
      lex "=.e1" "plant.ft" 3 = .error ⟨.parsing (.unexpectedCharacter '.'), "plant.ft", 3⟩) ∧
    scan ".5".toList = .ok [.number ".5"] ∧
      Statement.readProbability ⟨"plant.ft", 4⟩ [.number ".5"] ≠ .error (.invalidProbability ".5") := by
  obtain ⟨hstarts, hlex, hnumbers, hprobability⟩ := numbers_and_words_told_apart
  have hnone : ∀ text : List Char, number? text = none →
      ¬∃ literal after, CutsLiteral text literal after ∧ EndsWord after := by
    rintro text hnone ⟨literal, after, hcut, hends⟩
    rw [number?_of_cutsLiteral hcut hends] at hnone
    cases hnone
  have hstart : ScansTo "1e-3x .5".toList [] ('1' :: "e-3x .5".toList) := .start
  have hword : ScansTo "1e-3x .5".toList [.word "1e-3x"] [' ', '.', '5'] :=
    ((hstarts "1e-3x .5" "plant.ft" 2 _ _ _ hstart (.inl rfl)).2
      (hnone _ (by decide +kernel))).1 rfl
  have hcut : CutsLiteral ['.', '5'] ['.', '5'] [] :=
    cutsLiteral_iff.mpr ⟨_, rfl, rfl, rfl⟩
  have hends : EndsWord [] := by
    rintro c ⟨⟩
  have hnumber : ScansTo "1e-3x .5".toList [.word "1e-3x", .number ".5"] [] :=
    (hstarts "1e-3x .5" "plant.ft" 2 _ _ _ (hword.blank (by decide)) (.inr rfl)).1 _ _ hcut hends
  have hlexed : lex "1e-3x .5" "plant.ft" 2 = .ok [⟨some (.word "1e-3x"), 2⟩,
      ⟨some (.number ".5"), 2⟩, ⟨none, 2⟩] := by
    rw [hlex _ _ _ _ _ hnumber]
    decide +kernel
  have hpoint : ScansTo "=.e1".toList [.equals] ['.', 'e', '1'] :=
    ScansTo.start.token (by decide) rfl rfl
  refine ⟨⟨hstart, hnone _ (by decide +kernel), hword⟩, ⟨hcut, hends, hnumber, hlexed, ?_⟩,
    ⟨hpoint, hnone _ (by decide +kernel), ?_⟩, ?_⟩
  · exact (hnumbers _ _ _ _ hlexed ⟨some (.number ".5"), 2⟩ (by simp) ".5" rfl).2
  · exact ((hstarts "=.e1" "plant.ft" 3 _ _ _ hpoint (.inr rfl)).2
      (hnone _ (by decide +kernel))).2 rfl
  · have hscan : scan ".5".toList = .ok [.number ".5"] := by decide +kernel
    exact ⟨hscan, hprobability _ _ hscan _ _⟩

end Token
end FaultTreeExchange
