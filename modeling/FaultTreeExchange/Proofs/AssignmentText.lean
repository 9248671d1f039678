import FaultTreeExchange.Proofs.StatementOrder

/-!
# The text of an assignment

An assignment is written as a letter, the name of its event in parentheses, `=` and a value, with any
blanks between these. Such a text is read as the assignment, at whatever place it stands.
-/

namespace FaultTreeExchange

open Text

/-- The text is the pieces in their order, with any blanks between them. -/
inductive Spaced : List (List Char) → List Char → Prop where
  | last (piece : List Char) : Spaced [piece] piece
  | next (piece blanks : List Char) {rest : List (List Char)} {text : List Char}
      (hblanks : ∀ c ∈ blanks, isBlank c = true) (hrest : Spaced rest text) :
      Spaced (piece :: rest) (piece ++ (blanks ++ text))

/-- The text is `letter(name) = value` for one of the letters. -/
def Assigns (letters : List Char) (name : String) (value text : List Char) : Prop :=
  ∃ letter ∈ letters, Spaced [[letter], ['('], name.toList, [')'], ['='], value] text

/-- What a statement can assign to an event. -/
inductive AssignedValue where
  | probability (value : Binary64)
  | state (value : Bool)
  deriving DecidableEq, Repr

namespace AssignedValue

/-- The statement that assigns the value to a name. -/
def statement (name : String) (place : Place) : AssignedValue → Statement
  | .probability value => .probability ⟨name, value, place⟩
  | .state value => .state ⟨name, value, place⟩

/-- The text assigns the value to the name: a probability by a decimal literal whose value lies between
zero and one, a state by a truth value in any letter case. -/
inductive WrittenFor (name : String) (text : List Char) : AssignedValue → Prop where
  | probability (literal : List Char) (value : Binary64)
      (htext : Assigns ['p', 'P'] name literal text)
      (hliteral : (Decimal.Literal.ofText? literal).isSome = true)
      (hvalue : Binary64.ofText? (String.ofList literal) = some value)
      (hrange : value.isProbability = true) : WrittenFor name text (.probability value)
  | state (word : List Char) (value : Bool) (htext : Assigns ['s', 'S'] name word text)
      (hword : foldAscii word = (toString value).toList) : WrittenFor name text (.state value)

end AssignedValue

lemma Spaced.exists_cons {piece next : List Char} {rest : List (List Char)} {text : List Char}
    (h : Spaced (piece :: next :: rest) text) :
    ∃ blanks after, text = piece ++ (blanks ++ after) ∧ (∀ c ∈ blanks, isBlank c = true) ∧
      Spaced (next :: rest) after := by
  cases h with
  | next _ blanks hblanks hrest => exact ⟨blanks, _, rfl, hblanks, hrest⟩

lemma Spaced.eq_of_singleton {piece text : List Char} (h : Spaced [piece] text) : text = piece := by
  cases h with
  | last => rfl
  | next _ _ _ hrest => cases hrest

lemma Spaced.forall_mem {pieces : List (List Char)} {text : List Char} (h : Spaced pieces text)
    {property : Char → Prop} (hblank : ∀ c, isBlank c = true → property c)
    (hpieces : ∀ piece ∈ pieces, ∀ c ∈ piece, property c) : ∀ c ∈ text, property c := by
  induction h with
  | last piece => exact hpieces piece (List.mem_singleton_self _)
  | next piece blanks hblanks _ ih =>
    rw [List.forall_mem_cons] at hpieces
    rw [List.forall_mem_append, List.forall_mem_append]
    exact ⟨hpieces.1, fun c hc => hblank c (hblanks c hc), ih hpieces.2⟩

/-! ### Tokens of the pieces -/

namespace Token

variable {c : Char} {rest text : List Char} {tokens : List Token}

lemma scan_blanks_append {blanks : List Char} (h : ∀ c ∈ blanks, isBlank c = true)
    (text : List Char) : scan (blanks ++ text) = scan text := by
  induction blanks with
  | nil => rfl
  | cons c blanks ih =>
    rw [List.forall_mem_cons] at h
    rw [List.cons_append, scan_of_isBlank h.1, ih h.2]

lemma not_isBlank_of_isDigit (h : isDigit c = true) : isBlank c = false :=
  not_covers_of_covers (by decide +kernel) (covers_of_isDigit h)

lemma not_isDigit_of_isLetter (h : isLetter c = true) : isDigit c = false := by
  by_contra hdigit
  have hletter : isLetter c = false :=
    not_covers_of_covers (by decide +kernel) (covers_of_isDigit (Bool.not_eq_false _ |>.mp hdigit))
  rw [h] at hletter
  cases hletter

lemma not_isBlank_of_continuesWord (h : continuesWord c = true) : isBlank c = false := by
  by_contra hblank
  rw [continuesWord_of_isBlank (Bool.not_eq_false _ |>.mp hblank)] at h
  cases h

lemma scan_sign {token : Token} (c : Char) (text : List Char)
    (hstart : continuesWord c = false ∧ isBlank c = false ∧ isDigit c = false)
    (hsign : sign c text = .ok token) (hwidth : token.width = 1) (hrest : scan text = .ok tokens) :
    scan (c :: text) = .ok (token :: tokens) := by
  obtain ⟨hword, hblank, hdigit⟩ := hstart
  unfold continuesWord at hword
  simp only [Bool.or_eq_false_iff, decide_eq_false_iff_not] at hword
  obtain ⟨⟨⟨halphanumeric, hunderscore⟩, -⟩, hpoint⟩ := hword
  refine (scan_cons_eq_ok_iff hblank).mpr ⟨token, tokens, ?_, ?_, rfl⟩
  · unfold first
    rw [number?_eq_none hdigit hpoint]
    dsimp only
    rw [if_neg (by simp [halphanumeric, hunderscore])]
    exact hsign
  · rw [hwidth]
    exact hrest

lemma scan_word (rest text : List Char) (hdigit : isDigit c = false) (hpoint : c ≠ '.')
    (hstart : (isAlphanumeric c || c = '_') = true) (hword : ∀ d ∈ rest, continuesWord d = true)
    (hends : text.takeWhile continuesWord = []) (hrest : scan text = .ok tokens) :
    scan (c :: (rest ++ text)) = .ok (.word (String.ofList (c :: rest)) :: tokens) := by
  have hcontinues : continuesWord c = true := by
    unfold continuesWord
    rw [hstart]
    rfl
  refine (scan_cons_eq_ok_iff (not_isBlank_of_continuesWord hcontinues)).mpr ⟨_, tokens, ?_, ?_, rfl⟩
  · rw [first_of_isAlphanumeric hdigit hpoint hstart, List.takeWhile_append_of_pos hword, hends,
      List.append_nil]
  · have hwidth : (Token.word (String.ofList (c :: rest))).width - 1 = rest.length := by
      simp [width, spelling]
    rw [hwidth, List.drop_left]
    exact hrest

lemma scan_name {name : String} (h : Name.isValid name = true)
    (hends : text.takeWhile continuesWord = []) (hrest : scan text = .ok tokens) :
    scan (name.toList ++ text) = .ok (.word name :: tokens) := by
  have hvalid := h
  unfold Name.isValid at hvalid
  split at hvalid
  · cases hvalid
  · rename_i c rest hname
    simp only [Bool.and_eq_true, List.all_eq_true] at hvalid
    obtain ⟨⟨⟨hinitial, hallowed⟩, -⟩, -⟩ := hvalid
    unfold Name.isInitial at hinitial
    have hdigit : isDigit c = false := by
      rcases Bool.or_eq_true_iff.mp hinitial with hletter | hunderscore
      · exact not_isDigit_of_isLetter hletter
      · rw [of_decide_eq_true hunderscore]
        decide
    have hpoint : c ≠ '.' := by
      rintro rfl
      revert hinitial
      decide +kernel
    have hstart : (isAlphanumeric c || c = '_') = true := by
      unfold isAlphanumeric
      rcases Bool.or_eq_true_iff.mp hinitial with hletter | hunderscore
      · rw [hletter]
        rfl
      · rw [hunderscore, Bool.or_true]
    have hword : ∀ d ∈ rest, continuesWord d = true := by
      intro d hd
      unfold continuesWord
      have hsign := hallowed d hd
      unfold Name.isAllowed at hsign
      rw [hsign]
      rfl
    have hsame : name = String.ofList (c :: rest) := by rw [← hname, String.ofList_toList]
    rw [hname, List.cons_append, scan_word rest text hdigit hpoint hstart hword hends hrest, ← hsame]

lemma exists_scan_literal {literal : List Char}
    (h : (Decimal.Literal.ofText? literal).isSome = true) :
    ∃ found, Decimal.Literal.scan literal = some found ∧ found.text = literal := by
  obtain ⟨found, hfound⟩ := Option.isSome_iff_exists.mp h
  unfold Decimal.Literal.ofText? at hfound
  rw [Option.filter_eq_some_iff, decide_eq_true_eq] at hfound
  exact ⟨found, hfound⟩

lemma colon_notMem_literal {literal : List Char}
    (h : (Decimal.Literal.ofText? literal).isSome = true) : ':' ∉ literal := by
  obtain ⟨found, hscan, rfl⟩ := exists_scan_literal h
  intro hcolon
  exact absurd (mem_literalText hscan ':' hcolon) (by decide)

lemma not_isBlank_of_mem_literalText {literal : Decimal.Literal}
    (h : Decimal.Literal.scan text = some literal) : ∀ c ∈ literal.text, isBlank c = false := by
  intro c hc
  rcases mem_literalText h c hc with hdigit | hsign
  · exact not_isBlank_of_isDigit hdigit
  · have hsigns : (['.', 'e', 'E', '+', '-'].all fun c => !isBlank c) = true := by decide
    simpa using List.all_eq_true.mp hsigns c hsign

lemma scan_literal {literal : List Char} (h : (Decimal.Literal.ofText? literal).isSome = true) :
    scan literal = .ok [.number (String.ofList literal)] := by
  obtain ⟨found, hscan, htext⟩ := exists_scan_literal h
  have hnumber : number? literal = some (String.ofList literal) := by
    unfold number?
    rw [hscan]
    dsimp only
    rw [htext, List.drop_length]
  have hne := text_ne_nil_of_scan hscan
  have hchars := not_isBlank_of_mem_literalText hscan
  rw [htext] at hne hchars
  cases literal with
  | nil => exact absurd rfl hne
  | cons c rest =>
    have hblank : isBlank c = false := hchars c List.mem_cons_self
    refine (scan_cons_eq_ok_iff hblank).mpr ⟨.number (String.ofList (c :: rest)), [], ?_, ?_, rfl⟩
    · unfold first
      rw [hnumber]
    · have hwidth : (Token.number (String.ofList (c :: rest))).width - 1 = rest.length := by
        simp [width, spelling]
      rw [hwidth, List.drop_length, scan]

lemma isLetter_of_toLower (h : 'a' ≤ c.toLower ∧ c.toLower ≤ 'z') : isLetter c = true := by
  have hletters : ∀ code < 0x7B, (0x41 ≤ code ∧ code ≤ 0x5A) ∨ (0x61 ≤ code ∧ code ≤ 0x7A) →
      letterRanges.covers code = true := by
    decide +kernel
  have hcode : (0x41 ≤ c.toNat ∧ c.toNat ≤ 0x5A) ∨ (0x61 ≤ c.toNat ∧ c.toNat ≤ 0x7A) := by
    unfold Char.toLower at h
    split at h
    · rename_i hcapital
      exact .inl hcapital
    · exact .inr h
  exact hletters c.toNat (by omega) hcode

lemma isLetter_of_foldAscii {word : List Char} {value : Bool}
    (h : foldAscii word = (toString value).toList) : ∀ c ∈ word, isLetter c = true := by
  have hletters : ((toString value).toList.all fun d => 'a' ≤ d && d ≤ 'z') = true := by
    cases value <;> decide
  intro c hc
  have hmem : c.toLower ∈ (toString value).toList := by
    rw [← h]
    exact List.mem_map_of_mem hc
  exact isLetter_of_toLower (by simpa using List.all_eq_true.mp hletters _ hmem)

lemma scan_truth {word : List Char} {value : Bool} (h : foldAscii word = (toString value).toList) :
    scan word = .ok [.word (String.ofList word)] := by
  have hletters := isLetter_of_foldAscii h
  cases word with
  | nil => cases value <;> cases h
  | cons c rest =>
    rw [List.forall_mem_cons] at hletters
    have halphanumeric : ∀ d, isLetter d = true → isAlphanumeric d = true := by
      intro d hd
      unfold isAlphanumeric
      rw [hd]
      rfl
    have hpoint : c ≠ '.' := by
      rintro rfl
      exact absurd hletters.1 (by decide +kernel)
    have hword : ∀ d ∈ rest, continuesWord d = true := by
      intro d hd
      unfold continuesWord
      rw [halphanumeric d (hletters.2 d hd)]
      rfl
    have hstart : (isAlphanumeric c || c = '_') = true := by
      rw [halphanumeric c hletters.1]
      rfl
    have hend : scan [] = .ok [] := by rw [scan]
    have hscan := scan_word rest [] (not_isDigit_of_isLetter hletters.1) hpoint hstart hword rfl hend
    rwa [List.append_nil] at hscan

end Token

/-! ### Assignments -/

section

variable {letters value text : List Char} {name : String}

lemma Assigns.exists_scan (h : Assigns letters name value text)
    (hletters : letters ⊆ ['p', 'P', 's', 'S']) (hname : Name.isValid name = true)
    {tokens : List Token} (hvalue : Token.scan value = .ok tokens) :
    ∃ letter ∈ letters,
      Token.scan text = .ok (Statement.targetTokens (String.singleton letter) name ++ tokens) := by
  obtain ⟨letter, hletter, hspaced⟩ := h
  obtain ⟨beforeOpening, afterLetter, rfl, hblanks₁, hspaced⟩ := hspaced.exists_cons
  obtain ⟨afterOpening, afterParenthesis, rfl, hblanks₂, hspaced⟩ := hspaced.exists_cons
  obtain ⟨beforeClosing, afterName, rfl, hblanks₃, hspaced⟩ := hspaced.exists_cons
  obtain ⟨afterClosing, afterTarget, rfl, hblanks₄, hspaced⟩ := hspaced.exists_cons
  obtain ⟨beforeValue, afterEquals, rfl, hblanks₅, hspaced⟩ := hspaced.exists_cons
  obtain rfl := hspaced.eq_of_singleton
  obtain ⟨hdigit, hpoint, hstart⟩ : isDigit letter = false ∧ letter ≠ '.' ∧
      (isAlphanumeric letter || letter = '_') = true := by
    have hcases := hletters hletter
    simp only [List.mem_cons, List.not_mem_nil, or_false] at hcases
    rcases hcases with rfl | rfl | rfl | rfl <;> decide +kernel
  refine ⟨letter, hletter, ?_⟩
  -- From the end of the text to its start, each piece puts its token before those of the rest.
  have hequals := Token.scan_sign '=' (beforeValue ++ afterEquals)
    (by decide +kernel) rfl rfl ((Token.scan_blanks_append hblanks₅ _).trans hvalue)
  have hclosing := Token.scan_sign ')' (afterClosing ++ _)
    (by decide +kernel) rfl rfl ((Token.scan_blanks_append hblanks₄ _).trans hequals)
  have htarget := Token.scan_name hname
    (Token.takeWhile_continuesWord hblanks₃ (by decide +kernel) _)
    ((Token.scan_blanks_append hblanks₃ _).trans hclosing)
  have hopening := Token.scan_sign '(' (afterOpening ++ _)
    (by decide +kernel) rfl rfl ((Token.scan_blanks_append hblanks₂ _).trans htarget)
  exact Token.scan_word [] _ hdigit hpoint hstart (fun _ hc => by cases hc)
    (Token.takeWhile_continuesWord hblanks₁ (by decide +kernel) _)
    ((Token.scan_blanks_append hblanks₁ _).trans hopening)

lemma Assigns.showsAssignment (h : Assigns letters name value text) :
    ShowsAssignment letters text := by
  obtain ⟨letter, hletter, hspaced⟩ := h
  obtain ⟨blanks, afterLetter, rfl, hblanks, hspaced⟩ := hspaced.exists_cons
  obtain ⟨_, afterParenthesis, rfl, -, hspaced⟩ := hspaced.exists_cons
  obtain ⟨_, afterName, rfl, -, hspaced⟩ := hspaced.exists_cons
  obtain ⟨_, afterTarget, rfl, -, hspaced⟩ := hspaced.exists_cons
  obtain ⟨_, afterEquals, rfl, -, -⟩ := hspaced.exists_cons
  exact ⟨⟨letter, hletter, blanks, _, rfl, hblanks⟩, by simp⟩

lemma Assigns.not_showsDefinition (h : Assigns letters name value text)
    (hletters : ':' ∉ letters) (hname : Name.isValid name = true) (hvalue : ':' ∉ value) :
    ¬ShowsDefinition text := by
  intro hshows
  obtain ⟨letter, hletter, hspaced⟩ := h
  have hcolon : ∀ c ∈ text, c ≠ ':' := by
    refine hspaced.forall_mem (fun c hblank => ?_) ?_
    · rintro rfl
      revert hblank
      decide
    · simp only [List.forall_mem_cons, List.not_mem_nil, false_imp_iff, implies_true, and_true]
      refine ⟨?_, by decide, ?_, by decide, by decide, ?_⟩
      · rintro rfl
        exact hletters hletter
      · rintro c hc rfl
        exact absurd (Name.isAllowed_of_isValid hname ':' hc) (by decide +kernel)
      · rintro c hc rfl
        exact hvalue hc
  exact hcolon ':' (hshows.subset List.mem_cons_self) rfl

end

namespace AssignedValue

variable {name : String} {text : List Char} {assigned : AssignedValue}

theorem WrittenFor.writtenAs (h : assigned.WrittenFor name text) (hname : Name.isValid name = true)
    (place : Place) : (assigned.statement name place).WrittenAs place text := by
  cases h with
  | probability literal value htext hliteral hvalue hrange =>
    obtain ⟨letter, hletter, hscan⟩ :=
      htext.exists_scan (by simp) hname (Token.scan_literal hliteral)
    have hcolon : ':' ∉ literal := Token.colon_notMem_literal hliteral
    exact ⟨⟨htext.not_showsDefinition (by decide) hname hcolon, htext.showsAssignment⟩, _, hscan,
      .probability letter name _ value hletter hvalue hrange⟩
  | state word value htext hword =>
    obtain ⟨letter, hletter, hscan⟩ := htext.exists_scan (by simp) hname (Token.scan_truth hword)
    have hcolon : ':' ∉ word := fun hc =>
      absurd (Token.isLetter_of_foldAscii hword ':' hc) (by decide +kernel)
    refine ⟨⟨htext.not_showsDefinition (by decide) hname hcolon, htext.showsAssignment⟩, _, hscan,
      .state letter name _ value hletter ?_⟩
    rwa [String.toList_ofList]

lemma WrittenFor.ne_nil (h : assigned.WrittenFor name text) : text ≠ [] := by
  have hassigns : ∀ {letters value}, Assigns letters name value text → text ≠ [] := by
    rintro letters value ⟨letter, -, hspaced⟩
    obtain ⟨blanks, after, rfl, -⟩ := hspaced.exists_cons
    exact List.cons_ne_nil _ _
  cases h with
  | probability literal value htext => exact hassigns htext
  | state word value htext => exact hassigns htext

end AssignedValue
end FaultTreeExchange
