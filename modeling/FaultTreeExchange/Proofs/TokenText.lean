import FaultTreeExchange.Token.Lexer
import Mathlib.Data.List.Infix
import Mathlib.Data.List.TakeWhile

/-!
# Where tokens stand in their text

Every token of a text is the one that a part of the text starts with, so what tokens a text has says
which characters it holds. Number tokens are not empty, and only the sign `:=` gives its token.
-/

namespace FaultTreeExchange

open Text

lemma Name.holdsPair_iff {first second : Char} {text : List Char} :
    Name.holdsPair first second text = true ↔ [first, second] <:+: text := by
  induction text with
  | nil => simp [Name.holdsPair]
  | cons c rest ih =>
    have hstart : [first, second] <+: c :: rest ↔ c = first ∧ rest.head? = some second := by
      simp [List.cons_prefix_iff, List.head?_eq_some_iff, eq_comm]
    rw [Name.holdsPair, Bool.or_eq_true, ih, List.infix_cons_iff, hstart, Bool.and_eq_true,
      decide_eq_true_eq, decide_eq_true_eq]

lemma Name.isAllowed_of_isInitial {c : Char} (h : Name.isInitial c = true) :
    Name.isAllowed c = true := by
  unfold Name.isInitial at h
  unfold Name.isAllowed isAlphanumeric
  rcases Bool.or_eq_true_iff.mp h with hletter | hline
  · rw [hletter]
    rfl
  · rw [hline]
    simp

lemma Name.isAllowed_of_isValid {name : String} (h : Name.isValid name = true) :
    ∀ c ∈ name.toList, Name.isAllowed c = true := by
  unfold Name.isValid at h
  split at h
  · cases h
  · rename_i first rest hname
    simp only [Bool.and_eq_true] at h
    obtain ⟨⟨⟨hfirst, hrest⟩, -⟩, -⟩ := h
    rw [hname, List.forall_mem_cons]
    exact ⟨Name.isAllowed_of_isInitial hfirst, List.all_eq_true.mp hrest⟩

namespace Token

variable {text rest : List Char} {c : Char} {token : Token} {tokens : List Token}

lemma scan_of_isBlank (h : isBlank c = true) : scan (c :: rest) = scan rest := by
  rw [scan, if_pos h]

lemma scan_cons_eq_ok_iff (h : isBlank c = false) :
    scan (c :: rest) = .ok tokens ↔ ∃ token others, first c rest = .ok token ∧
      scan (rest.drop (token.width - 1)) = .ok others ∧ tokens = token :: others := by
  rw [scan, if_neg (by simp [h])]
  cases first c rest with
  | error fault => simp
  | ok token =>
    cases hothers : scan (rest.drop (token.width - 1)) with
    | error fault => simp [hothers]
    | ok others => simp [hothers, eq_comm]

theorem exists_first_of_mem_scan (h : scan text = .ok tokens) (htoken : token ∈ tokens) :
    ∃ c rest, c :: rest <:+ text ∧ first c rest = .ok token := by
  induction hlength : text.length using Nat.strong_induction_on generalizing text tokens with
  | _ length ih =>
    subst hlength
    cases text with
    | nil =>
      rw [scan] at h
      cases h
      cases htoken
    | cons c rest =>
      have hsuffix : ∀ count, rest.drop count <:+ c :: rest := fun count =>
        (List.drop_suffix count rest).trans (List.suffix_cons c rest)
      cases hblank : isBlank c with
      | true =>
        rw [scan_of_isBlank hblank] at h
        obtain ⟨start, left, hleft, hfirst⟩ := ih rest.length (by simp) h htoken rfl
        exact ⟨start, left, hleft.trans (hsuffix 0), hfirst⟩
      | false =>
        obtain ⟨found, others, hfound, hothers, rfl⟩ := (scan_cons_eq_ok_iff hblank).mp h
        rcases List.mem_cons.mp htoken with rfl | htoken
        · exact ⟨c, rest, List.suffix_refl _, hfound⟩
        · obtain ⟨start, left, hleft, hfirst⟩ :=
            ih _ (by simp only [List.length_cons, List.length_drop]; omega) hothers htoken rfl
          exact ⟨start, left, hleft.trans (hsuffix _), hfirst⟩

/-! ### Kinds of tokens -/

lemma first_cases (h : first c rest = .ok token) :
    (∃ literal, number? (c :: rest) = some literal ∧ token = .number literal) ∨
      token = .word (String.ofList (c :: rest.takeWhile continuesWord)) ∨
        sign c rest = .ok token := by
  unfold first at h
  split at h
  · rename_i literal hliteral
    cases h
    exact Or.inl ⟨literal, hliteral, rfl⟩
  · split at h
    · cases h
      exact Or.inr (Or.inl rfl)
    · exact Or.inr (Or.inr h)

lemma number?_eq_none (hdigit : isDigit c = false) (hpoint : c ≠ '.') :
    number? (c :: rest) = none := by
  have hliteral : Decimal.Literal.scan (c :: rest) = none := by
    simp [Decimal.Literal.scan, hdigit, hpoint]
  unfold number?
  rw [hliteral]

lemma first_of_isAlphanumeric (hdigit : isDigit c = false) (hpoint : c ≠ '.')
    (h : (isAlphanumeric c || c = '_') = true) :
    first c rest = .ok (.word (String.ofList (c :: rest.takeWhile continuesWord))) := by
  unfold first
  rw [number?_eq_none hdigit hpoint]
  exact if_pos h

lemma not_covers_of_covers {table other : RangeTable} {code : Nat}
    (hdisjoint : ∀ range ∈ table, ∀ found ∈ other, range.2 < found.1 ∨ found.2 < range.1)
    (h : table.covers code = true) : other.covers code = false := by
  by_contra hother
  obtain ⟨range, hrange, hlow, hhigh⟩ := RangeTable.exists_of_covers h
  obtain ⟨found, hfound, hlow', hhigh'⟩ :=
    RangeTable.exists_of_covers (Bool.not_eq_false _ |>.mp hother)
  have := hdisjoint range hrange found hfound
  omega

lemma continuesWord_of_isBlank (h : isBlank c = true) : continuesWord c = false := by
  have hletter : isLetter c = false := not_covers_of_covers (by decide +kernel) h
  have hnumeral : isNumeral c = false := not_covers_of_covers (by decide +kernel) h
  have hsigns : c ≠ '_' ∧ c ≠ '-' ∧ c ≠ '.' := by
    refine ⟨?_, ?_, ?_⟩
    all_goals
      rintro rfl
      revert h
      decide
  simp [continuesWord, isAlphanumeric, hletter, hnumeral, hsigns]

lemma takeWhile_continuesWord {blanks : List Char} (hblanks : ∀ c ∈ blanks, isBlank c = true)
    (hsign : continuesWord c = false) (rest : List Char) :
    (blanks ++ c :: rest).takeWhile continuesWord = [] := by
  cases blanks with
  | nil => rw [List.nil_append, List.takeWhile_cons_of_neg (by simp [hsign])]
  | cons blank blanks =>
    have hblank := continuesWord_of_isBlank (hblanks blank List.mem_cons_self)
    rw [List.cons_append, List.takeWhile_cons_of_neg (by simp [hblank])]

lemma covers_of_isDigit (h : isDigit c = true) : RangeTable.covers [(0x30, 0x39)] c.toNat = true := by
  unfold isDigit at h
  rw [Bool.and_eq_true, decide_eq_true_eq, decide_eq_true_eq] at h
  have hlow : 0x30 ≤ c.toNat := h.1
  have hhigh : c.toNat ≤ 0x39 := h.2
  simp [RangeTable.covers, hlow, hhigh]

/-! ### Literals -/

lemma mem_exponentText {part : Decimal.Exponent} (h : Decimal.Exponent.scan text = some part) :
    ∀ c ∈ part.text, isDigit c = true ∨ c ∈ ['e', 'E', '+', '-'] := by
  unfold Decimal.Exponent.scan at h
  split at h
  · cases h
  rename_i marker rest
  split_ifs at h with hmarker
  dsimp only at h
  split_ifs at h
  cases h
  intro c hc
  unfold Decimal.Exponent.text at hc
  dsimp only at hc
  rw [List.cons_append, List.mem_cons, List.mem_append] at hc
  rcases hc with rfl | hsign | hdigit
  · rcases hmarker with rfl | rfl <;> simp
  · rw [Option.mem_toList, Option.filter_eq_some_iff] at hsign
    rcases Bool.or_eq_true_iff.mp hsign.2 with hplus | hminus
    · simp [of_decide_eq_true hplus]
    · simp [of_decide_eq_true hminus]
  · exact .inl (List.mem_takeWhile_imp hdigit)

lemma mem_literalText {literal : Decimal.Literal} (h : Decimal.Literal.scan text = some literal) :
    ∀ c ∈ literal.text, isDigit c = true ∨ c ∈ ['.', 'e', 'E', '+', '-'] := by
  unfold Decimal.Literal.scan at h
  dsimp only at h
  split_ifs at h
  cases h
  intro c hc
  unfold Decimal.Literal.text at hc
  dsimp only at hc
  rw [List.mem_append, List.mem_append] at hc
  rcases hc with (hwhole | hfraction) | hexponent
  · exact .inl (List.mem_takeWhile_imp hwhole)
  · split at hfraction
    · cases hfraction
    · rename_i digits hdigits
      split at hdigits
      · cases hdigits
        rcases List.mem_cons.mp hfraction with rfl | hdigit
        · simp
        · exact .inl (List.mem_takeWhile_imp hdigit)
      · cases hdigits
  · split at hexponent
    · cases hexponent
    · rename_i part hpart
      exact (mem_exponentText hpart c hexponent).imp_right (List.mem_cons_of_mem _)

lemma text_ne_nil_of_scan {literal : Decimal.Literal}
    (h : Decimal.Literal.scan text = some literal) : literal.text ≠ [] := by
  unfold Decimal.Literal.scan at h
  dsimp only at h
  split_ifs at h with hdigits
  cases h
  unfold Decimal.Literal.text
  dsimp only
  intro hnil
  rw [List.append_eq_nil_iff, List.append_eq_nil_iff] at hnil
  obtain ⟨⟨hwhole, hfraction⟩, -⟩ := hnil
  split at hfraction
  · rename_i hnone
    rw [hwhole, hnone] at hdigits
    exact hdigits rfl
  · cases hfraction

lemma number?_ne_empty {literal : String} (h : number? text = some literal) :
    literal.toList ≠ [] := by
  unfold number? at h
  split at h
  · cases h
  · rename_i found hfound
    have hne := text_ne_nil_of_scan hfound
    split at h
    · cases h
      simpa using hne
    · split at h
      · cases h
      · cases h
        simpa using hne

lemma sign_eq_ok (h : sign c rest = .ok token) :
    (∀ name, token ≠ .word name) ∧ (∀ literal, token ≠ .number literal) ∧
      (token = .define → c = ':' ∧ rest.head? = some '=') := by
  unfold sign at h
  split at h
  case h_1 =>
    split at h
    · rename_i hequals
      cases h
      exact ⟨by simp, by simp, fun _ => ⟨rfl, hequals⟩⟩
    · cases h
  case h_17 => cases h
  all_goals
    cases h
    exact ⟨by simp, by simp, by simp⟩

theorem number_ne_empty_of_scan (h : scan text = .ok tokens) {literal : String}
    (hliteral : .number literal ∈ tokens) : literal.toList ≠ [] := by
  obtain ⟨c, rest, -, hfirst⟩ := exists_first_of_mem_scan h hliteral
  rcases first_cases hfirst with ⟨found, hfound, heq⟩ | heq | hsign
  · cases heq
    exact number?_ne_empty hfound
  · cases heq
  · exact absurd rfl ((sign_eq_ok hsign).2.1 literal)

theorem infix_of_define_mem_scan (h : scan text = .ok tokens) (hdefine : .define ∈ tokens) :
    [':', '='] <:+: text := by
  obtain ⟨c, rest, hsuffix, hfirst⟩ := exists_first_of_mem_scan h hdefine
  rcases first_cases hfirst with ⟨found, -, heq⟩ | heq | hsign
  · cases heq
  · cases heq
  · obtain ⟨rfl, hequals⟩ := (sign_eq_ok hsign).2.2 rfl
    obtain ⟨others, rfl⟩ := List.head?_eq_some_iff.mp hequals
    exact List.IsInfix.trans ⟨[], others, rfl⟩ hsuffix.isInfix

end Token
end FaultTreeExchange
