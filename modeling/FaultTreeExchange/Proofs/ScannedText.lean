import FaultTreeExchange.Proofs.AssignmentText

/-!
# Tokens and their text

A token is a piece of its text without blanks, and which token it is does not depend on what stands
behind the next blank. So the tokens of a text make up the text without its blanks, and a text that is
cut at a blank has the tokens of its two parts.
-/

namespace FaultTreeExchange

open Text

lemma takeWhile_append_stop {α : Type} {p : α → Bool} {stop : α} (h : p stop = false)
    (before after : List α) : (before ++ stop :: after).takeWhile p = before.takeWhile p := by
  induction before with
  | nil => rw [List.nil_append, List.takeWhile_cons_of_neg (by simp [h]), List.takeWhile_nil]
  | cons c rest ih => rw [List.cons_append, List.takeWhile_cons, List.takeWhile_cons, ih]

lemma dropWhile_append_stop {α : Type} {p : α → Bool} {stop : α} (h : p stop = false)
    (before after : List α) :
    (before ++ stop :: after).dropWhile p = before.dropWhile p ++ stop :: after := by
  induction before with
  | nil => rw [List.nil_append, List.dropWhile_cons_of_neg (by simp [h]), List.dropWhile_nil,
      List.nil_append]
  | cons c rest ih =>
    rw [List.cons_append, List.dropWhile_cons, List.dropWhile_cons, ih]
    split <;> rfl

namespace Decimal

variable {text : List Char} {stop : Char}

/-! ### Literals -/

lemma append_isPrefix {front rest piece : List Char} (h : front ++ rest = text)
    (hpiece : piece <+: rest) : front ++ piece <+: text := by
  subst h
  exact (List.prefix_append_right_inj front).mpr hpiece

lemma Exponent.text_isPrefix {part : Exponent} (h : Exponent.scan text = some part) :
    part.text <+: text := by
  unfold Exponent.scan at h
  split at h
  · cases h
  · rename_i marker rest
    split_ifs at h
    dsimp only at h
    split_ifs at h
    cases h
    unfold Exponent.text
    dsimp only
    rw [List.cons_append, List.prefix_cons_inj]
    have hsign : ∀ test : Char → Bool, (rest.head?.filter test).toList <+: rest := by
      intro test
      cases rest with
      | nil => exact List.prefix_rfl
      | cons c rest => cases hc : test c <;> simp [Option.filter, hc]
    exact append_isPrefix (List.prefix_iff_eq_append.mp (hsign _)) (List.takeWhile_prefix isDigit)

lemma Literal.scan_of_point {after : List Char} (h : text.dropWhile isDigit = '.' :: after) :
    Literal.scan text =
      if (text.takeWhile isDigit).isEmpty && (after.takeWhile isDigit).isEmpty then none
      else some ⟨text.takeWhile isDigit, some (after.takeWhile isDigit),
        Exponent.scan (after.dropWhile isDigit)⟩ := by
  unfold Literal.scan
  rw [h]
  rfl

lemma Literal.scan_of_no_point (h : (text.dropWhile isDigit).head? ≠ some '.') :
    Literal.scan text =
      if (text.takeWhile isDigit).isEmpty then none
      else some ⟨text.takeWhile isDigit, none, Exponent.scan (text.dropWhile isDigit)⟩ := by
  unfold Literal.scan
  dsimp only
  split
  · rename_i after hpoint
    rw [hpoint] at h
    exact absurd rfl h
  · simp

lemma Literal.text_isPrefix {literal : Literal} (h : Literal.scan text = some literal) :
    literal.text <+: text := by
  have hexponent : ∀ rest : List Char, Literal.text ⟨[], none, Exponent.scan rest⟩ <+: rest := by
    intro rest
    cases hscan : Exponent.scan rest with
    | none => exact List.nil_prefix
    | some part => exact Exponent.text_isPrefix hscan
  have hsplit : text.takeWhile isDigit ++ text.dropWhile isDigit = text :=
    List.takeWhile_append_dropWhile
  by_cases hpoint : (text.dropWhile isDigit).head? = some '.'
  · obtain ⟨after, hafter⟩ := List.head?_eq_some_iff.mp hpoint
    rw [Literal.scan_of_point hafter] at h
    split_ifs at h
    cases h
    unfold Literal.text
    rw [List.append_assoc]
    refine append_isPrefix hsplit ?_
    rw [hafter, List.cons_append, List.prefix_cons_inj]
    exact append_isPrefix List.takeWhile_append_dropWhile (hexponent _)
  · rw [Literal.scan_of_no_point hpoint] at h
    split_ifs at h
    cases h
    unfold Literal.text
    rw [List.append_nil]
    exact append_isPrefix hsplit (hexponent _)

/-- An exponent part does not reach beyond a character that none of its parts can be. -/
lemma Exponent.scan_append_stop (hdigit : isDigit stop = false) (hsigns : stop ∉ ['e', 'E', '+', '-'])
    (text rest : List Char) : Exponent.scan (text ++ stop :: rest) = Exponent.scan text := by
  simp only [List.mem_cons, List.not_mem_nil, or_false, not_or] at hsigns
  obtain ⟨he, hcapital, hplus, hminus⟩ := hsigns
  cases text with
  | nil => simp [Exponent.scan, he, hcapital]
  | cons marker text =>
    rw [List.cons_append]
    unfold Exponent.scan
    cases text with
    | nil => simp [hplus, hminus, hdigit, Option.filter]
    | cons sign digits =>
      have hdrop : ∀ count ≤ 1, ((sign :: digits ++ stop :: rest).drop count).takeWhile isDigit =
          ((sign :: digits).drop count).takeWhile isDigit := by
        intro count hcount
        rw [List.drop_append_of_le_length (by simp; omega), takeWhile_append_stop hdigit]
      have hlength : ∀ test : Char → Bool, (Option.filter test (some sign)).toList.length ≤ 1 := by
        intro test
        cases Option.filter test (some sign) <;> simp
      dsimp only
      rw [List.cons_append, List.head?_cons, List.head?_cons, ← List.cons_append, hdrop _ (hlength _)]

lemma Literal.scan_append_stop (hdigit : isDigit stop = false)
    (hsigns : stop ∉ ['.', 'e', 'E', '+', '-']) (text rest : List Char) :
    Literal.scan (text ++ stop :: rest) = Literal.scan text := by
  obtain ⟨hpoint, hsigns⟩ := not_or.mp (mt List.mem_cons.mpr hsigns)
  have htake := takeWhile_append_stop hdigit text rest
  have hdrop := dropWhile_append_stop hdigit text rest
  by_cases hfraction : (text.dropWhile isDigit).head? = some '.'
  · obtain ⟨after, hafter⟩ := List.head?_eq_some_iff.mp hfraction
    rw [hafter, List.cons_append] at hdrop
    rw [scan_of_point hafter, scan_of_point hdrop, htake, takeWhile_append_stop hdigit,
      dropWhile_append_stop hdigit, Exponent.scan_append_stop hdigit hsigns]
  · have hfraction' : ((text ++ stop :: rest).dropWhile isDigit).head? ≠ some '.' := by
      rw [hdrop]
      cases hrest : text.dropWhile isDigit with
      | nil => simpa using hpoint
      | cons c others => rwa [hrest] at hfraction
    rw [scan_of_no_point hfraction, scan_of_no_point hfraction', htake, hdrop,
      Exponent.scan_append_stop hdigit hsigns]

end Decimal

namespace Token

variable {text rest : List Char} {c blank : Char} {token : Token} {tokens : List Token}

/-! ### Pieces of a text -/

lemma sign_spelling (h : sign c rest = .ok token) :
    token.spelling.toList = [c] ∨ c = ':' ∧ rest.head? = some '=' ∧ token = .define := by
  unfold sign at h
  split at h
  case h_1 =>
    split at h
    · rename_i hequals
      cases h
      exact .inr ⟨rfl, hequals, rfl⟩
    · cases h
  case h_17 => cases h
  all_goals
    cases h
    exact .inl rfl

lemma number?_eq_some {literal : String} (h : number? text = some literal) :
    ∃ found, Decimal.Literal.scan text = some found ∧ literal.toList = found.text := by
  unfold number? at h
  split at h
  · cases h
  · rename_i found hfound
    refine ⟨found, hfound, ?_⟩
    split at h
    · cases h
      exact String.toList_ofList
    · split at h
      · cases h
      · cases h
        exact String.toList_ofList

lemma spelling_isPrefix (h : first c rest = .ok token) (hblank : isBlank c = false) :
    token.spelling.toList <+: c :: rest ∧ token.spelling.toList ≠ [] ∧
      ∀ d ∈ token.spelling.toList, isBlank d = false := by
  rcases first_cases h with ⟨literal, hliteral, rfl⟩ | rfl | hsign
  · obtain ⟨found, hfound, htext⟩ := number?_eq_some hliteral
    change literal.toList <+: _ ∧ literal.toList ≠ [] ∧ ∀ d ∈ literal.toList, _
    rw [htext]
    exact ⟨Decimal.Literal.text_isPrefix hfound, text_ne_nil_of_scan hfound,
      not_isBlank_of_mem_literalText hfound⟩
  · change (String.ofList (c :: rest.takeWhile continuesWord)).toList <+: _ ∧ _
    simp only [spelling]
    rw [String.toList_ofList]
    refine ⟨?_, List.cons_ne_nil _ _, ?_⟩
    · exact (List.prefix_cons_inj c).mpr (List.takeWhile_prefix continuesWord)
    · rw [List.forall_mem_cons]
      exact ⟨hblank, fun d hd => not_isBlank_of_continuesWord (List.mem_takeWhile_imp hd)⟩
  · rcases sign_spelling hsign with hspelling | ⟨rfl, hequals, rfl⟩
    · rw [hspelling]
      simp [hblank]
    · obtain ⟨others, rfl⟩ := List.head?_eq_some_iff.mp hequals
      simp [spelling]
      decide

lemma spelling_append_drop (h : first c rest = .ok token) (hblank : isBlank c = false) :
    token.spelling.toList ++ rest.drop (token.width - 1) = c :: rest := by
  obtain ⟨hstarts, hne, -⟩ := spelling_isPrefix h hblank
  have hwidth : token.width - 1 + 1 = token.spelling.toList.length := by
    have hpos := List.length_pos_iff.mpr hne
    rw [String.length_toList] at hpos ⊢
    unfold width
    omega
  have hsplit := List.prefix_iff_eq_append.mp hstarts
  rwa [← hwidth, List.drop_succ_cons] at hsplit

theorem flatMap_spelling_of_scan (h : scan text = .ok tokens) :
    (tokens.flatMap fun token => token.spelling.toList) = text.filter fun c => !isBlank c := by
  induction hlength : text.length using Nat.strong_induction_on generalizing text tokens with
  | _ length ih =>
    subst hlength
    cases text with
    | nil =>
      rw [scan] at h
      cases h
      rfl
    | cons c rest =>
      cases hblank : isBlank c with
      | true =>
        rw [scan_of_isBlank hblank] at h
        rw [ih rest.length (by simp) h rfl, List.filter_cons_of_neg (by simp [hblank])]
      | false =>
        obtain ⟨token, others, hfirst, hothers, rfl⟩ := (scan_cons_eq_ok_iff hblank).mp h
        obtain ⟨-, -, hclean⟩ := spelling_isPrefix hfirst hblank
        have hspelling : token.spelling.toList.filter (fun c => !isBlank c) =
            token.spelling.toList :=
          List.filter_eq_self.mpr fun d hd => by simp [hclean d hd]
        rw [List.flatMap_cons, ih _ (by simp only [List.length_cons, List.length_drop]; omega)
          hothers rfl, ← spelling_append_drop hfirst hblank, List.filter_append, hspelling]

/-! ### Texts cut at a blank -/

lemma not_isDigit_of_isBlank (h : isBlank c = true) : isDigit c = false := by
  by_contra hdigit
  rw [not_isBlank_of_isDigit (Bool.not_eq_false _ |>.mp hdigit)] at h
  cases h

lemma ne_of_isBlank {d : Char} (h : isBlank c = true) (hd : isBlank d = false) : c ≠ d := by
  rintro rfl
  rw [h] at hd
  cases hd

variable (hblank : isBlank blank = true)

include hblank

lemma number?_append_blank (text rest : List Char) :
    number? (text ++ blank :: rest) = number? text := by
  have hsigns : blank ∉ ['.', 'e', 'E', '+', '-'] := by
    intro hmem
    have hclean : (['.', 'e', 'E', '+', '-'].all fun c => !isBlank c) = true := by decide
    simpa [hblank] using List.all_eq_true.mp hclean blank hmem
  unfold number?
  rw [Decimal.Literal.scan_append_stop (not_isDigit_of_isBlank hblank) hsigns]
  cases hscan : Decimal.Literal.scan text with
  | none => rfl
  | some literal =>
    have hle : literal.text.length ≤ text.length := (Decimal.Literal.text_isPrefix hscan).length_le
    dsimp only
    rw [List.drop_append_of_le_length hle]
    cases text.drop literal.text.length with
    | nil => simp [continuesWord_of_isBlank hblank]
    | cons d others => rfl

lemma sign_append_blank (c : Char) (rest others : List Char) :
    sign c (rest ++ blank :: others) = sign c rest := by
  have hhead : (rest ++ blank :: others).head? = some '=' ↔ rest.head? = some '=' := by
    cases rest with
    | nil => simpa using ne_of_isBlank hblank (by decide)
    | cons d rest => simp
  unfold sign
  simp only [hhead]

lemma first_append_blank (c : Char) (rest others : List Char) :
    first c (rest ++ blank :: others) = first c rest := by
  unfold first
  rw [← List.cons_append, number?_append_blank hblank, sign_append_blank hblank,
    takeWhile_append_stop (continuesWord_of_isBlank hblank)]

/-- A text that is cut at a blank has the tokens of its parts, or the fault of the first part that has
one. -/
theorem scan_append_blank (text rest : List Char) :
    scan (text ++ blank :: rest) = do
      let tokens ← scan text
      let others ← scan rest
      return tokens ++ others := by
  induction hlength : text.length using Nat.strong_induction_on generalizing text with
  | _ length ih =>
    subst hlength
    cases text with
    | nil =>
      rw [List.nil_append, scan_of_isBlank hblank, scan]
      cases scan rest <;> rfl
    | cons c text =>
      rw [List.cons_append]
      cases hc : isBlank c with
      | true =>
        rw [scan_of_isBlank hc, scan_of_isBlank hc]
        exact ih text.length (by simp) text rfl
      | false =>
        rw [scan, scan, if_neg (by simp [hc]), if_neg (by simp [hc]), first_append_blank hblank]
        cases hfirst : first c text with
        | error fault => rfl
        | ok token =>
          have hle : token.width - 1 ≤ text.length := by
            obtain ⟨hstarts, -, -⟩ := spelling_isPrefix hfirst hc
            have hle := hstarts.length_le
            rw [String.length_toList, List.length_cons] at hle
            unfold width
            omega
          dsimp only
          have hshorter : (text.drop (token.width - 1)).length < (c :: text).length := by
            rw [List.length_drop, List.length_cons]
            omega
          rw [List.drop_append_of_le_length hle, ih _ hshorter _ rfl]
          cases scan (text.drop (token.width - 1)) with
          | error fault => rfl
          | ok tokens => cases scan rest <;> rfl

omit hblank

/-- The lexemes of a text are its tokens and one end of the line behind them, all on the given line, and
the spellings of the tokens make up the text without its blanks. A text of two parts with a blank between
them has the lexemes of the first part without their end, then those of the second part; where a part has
a fault, it is that of the first such part. -/
theorem lex_keeps_text_and_splits_at_blanks :
    (∀ (text file : String) (line : Nat) (lexemes : List Lexeme),
      lex text file line = .ok lexemes →
        ∃ tokens : List Token,
          lexemes = tokens.map (fun token => ⟨some token, line⟩) ++ [⟨none, line⟩] ∧
          String.join (tokens.map spelling) =
            String.ofList (text.toList.filter fun c => !isBlank c)) ∧
    ∀ (text other file : String) (line : Nat) (blank : Char), isBlank blank = true →
      lex (text ++ blank.toString ++ other) file line = do
        let lexemes ← lex text file line
        let others ← lex other file line
        return lexemes.dropLast ++ others := by
  constructor
  · intro text file line lexemes h
    unfold lex at h
    split at h
    · cases h
    · rename_i tokens htokens
      cases h
      refine ⟨tokens, rfl, ?_⟩
      rw [← flatMap_spelling_of_scan htokens, ← String.toList_inj, String.toList_join,
        String.toList_ofList, List.flatMap_map]
  · intro text other file line blank hblank
    have hcut : (text ++ blank.toString ++ other).toList =
        text.toList ++ blank :: other.toList := by
      simp [Char.toString]
    unfold lex
    rw [hcut, scan_append_blank hblank]
    cases scan text.toList with
    | error fault => rfl
    | ok tokens =>
      cases scan other.toList with
      | error fault => rfl
      | ok others => simp [bind, Except.bind, pure, Except.pure]

def sampleTokens : List Token :=
  [.word "p", .leftParenthesis, .word "Pump-1", .rightParenthesis, .equals, .number ".5E-1"]

/-- An assignment with blanks of two kinds, and a definition that is cut before its fault. -/
theorem sample_lexemes_kept_and_split :
    (lex "p(Pump-1) =\t.5E-1" "plant.ft" 4 =
        .ok (sampleTokens.map (fun token => ⟨some token, 4⟩) ++ [⟨none, 4⟩]) ∧
      ∃ tokens : List Token,
        sampleTokens.map (fun token => (⟨some token, 4⟩ : Lexeme)) ++ [⟨none, 4⟩] =
          tokens.map (fun token => ⟨some token, 4⟩) ++ [⟨none, 4⟩] ∧
        String.join (tokens.map spelling) =
          String.ofList ("p(Pump-1) =\t.5E-1".toList.filter fun c => !isBlank c)) ∧
    isBlank '\t' = true ∧
      lex ("Top :=" ++ '\t'.toString ++ "Pump : Valve") "plant.ft" 2 = do
        let lexemes ← lex "Top :=" "plant.ft" 2
        let others ← lex "Pump : Valve" "plant.ft" 2
        return lexemes.dropLast ++ others := by
  obtain ⟨hkept, hsplit⟩ := lex_keeps_text_and_splits_at_blanks
  have hlexed : lex "p(Pump-1) =\t.5E-1" "plant.ft" 4 =
      .ok (sampleTokens.map (fun token => ⟨some token, 4⟩) ++ [⟨none, 4⟩]) := by
    decide +kernel
  exact ⟨⟨hlexed, hkept _ _ _ _ hlexed⟩, by decide, hsplit _ _ _ _ _ (by decide)⟩

end Token
end FaultTreeExchange
