import FaultTreeExchange.Formula.Parser
import FaultTreeExchange.Proofs.Occurrence
import Mathlib.Data.List.Infix

/-!
# The grammar of formulas

Which tokens spell a formula, said without a reader. Each part of a formula has a specification: a
reader accepts the tokens that start with a spelling of its part, and leaves those behind it. Together
they accept exactly the spellings of formulas, so a row of tokens spells at most one formula.
-/

namespace FaultTreeExchange

open Text

/-! ### Spellings -/

def Reference.tokens (reference : Reference) : List Token :=
  if reference.complement then [.negation, .word reference.name] else [.word reference.name]

/-- References, each with a sign before it. -/
def Reference.links (sign : Token) (references : List Reference) : List Token :=
  references.flatMap fun reference => sign :: reference.tokens

/-- References with a sign between each two of them. -/
def Reference.joined (sign : Token) (references : List Reference) : List Token :=
  [sign].intercalate (references.map Reference.tokens)

/-- A connective joins two references or more, the exclusive one no more than two. -/
def Connective.Joins (connective : Connective) (count : Nat) : Prop :=
  2 ≤ count ∧ (connective = .xor → count = 2)

/-- The literal is a row of digits and stands for a number that can be a threshold. -/
structure IsThreshold (literal : String) (minimum : Nat) : Prop where
  nonempty : literal.toList ≠ []
  digits : ∀ c ∈ literal.toList, isDigit c = true
  value : Decimal.ofDigits literal.toList = minimum
  bounded : minimum < Nat.pow 2 32

/-- The formulas with the tokens that spell them. -/
inductive Formula.SpelledBy : Formula → List Token → Prop where
  | vote (literal : String) (minimum : Nat) (references : List Reference)
      (hliteral : IsThreshold literal minimum) (hreferences : references ≠ []) :
      SpelledBy ⟨.atLeast minimum, references⟩
        ([.vote, .leftParenthesis, .number literal, .comma, .leftBracket] ++
          Reference.joined .comma references ++ [.rightBracket, .rightParenthesis])
  | negation (reference : Reference) :
      SpelledBy ⟨.not, [reference]⟩
        ([.negation, .leftParenthesis] ++ reference.tokens ++ [.rightParenthesis])
  | group (connective : Connective) (references : List Reference)
      (hcount : connective.Joins references.length) :
      SpelledBy ⟨connective.operator, references⟩
        ([.leftParenthesis] ++ Reference.joined (.connective connective) references ++
          [.rightParenthesis])
  | chain (connective : Connective) (references : List Reference)
      (hcount : connective.Joins references.length) :
      SpelledBy ⟨connective.operator, references⟩
        (Reference.joined (.connective connective) references)
  | single (reference : Reference) :
      SpelledBy ⟨.null, [reference]⟩ reference.tokens

lemma Reference.joined_cons (sign : Token) (first : Reference) (rest : List Reference) :
    joined sign (first :: rest) = first.tokens ++ links sign rest := by
  unfold joined links
  induction rest generalizing first with
  | nil => simp [List.intercalate]
  | cons second rest ih =>
    have hsecond := ih second
    simp only [List.intercalate, List.map_cons, List.intersperse_cons_cons, List.flatten_cons,
      List.flatMap_cons] at hsecond ⊢
    rw [hsecond]
    simp

lemma Reference.joined_pair_append (sign : Token) (first second : Reference)
    (others : List Reference) (rest : List Token) :
    joined sign (first :: second :: others) ++ rest =
      first.tokens ++ sign :: (second.tokens ++ (links sign others ++ rest)) := by
  simp [joined_cons, links]

/-! ### References -/

namespace Reference

variable {tokens rest : List Token} {reference : Reference} {references : List Reference}
  {sign : Token}

lemma length_tokens (reference : Reference) : reference.tokens.length = reference.width := by
  unfold tokens width
  split <;> rfl

lemma drop_tokens (reference : Reference) (rest : List Token) :
    (reference.tokens ++ rest).drop reference.width = rest := by
  rw [← length_tokens, List.drop_left]

lemma tokens_append_ne_cons {first : Token} {others : List Token} (hnegation : first ≠ .negation)
    (hword : ∀ name, first ≠ .word name) : reference.tokens ++ rest ≠ first :: others := by
  obtain ⟨name, complement⟩ := reference
  intro heq
  cases complement with
  | false =>
    cases heq
    exact hword name rfl
  | true =>
    cases heq
    exact hnegation rfl

lemma readName_eq_ok_iff {complement : Bool} :
    readName complement tokens = .ok reference ↔
      ∃ name rest, tokens = .word name :: rest ∧ reference = ⟨name, complement⟩ := by
  unfold readName
  split
  case h_6 hword _ _ _ _ =>
    refine iff_of_false (by simp) ?_
    rintro ⟨name, rest, htokens, -⟩
    exact hword name rest htokens
  all_goals simp [eq_comm]

lemma read_eq_ok_iff :
    read tokens = .ok reference ↔ ∃ rest, tokens = reference.tokens ++ rest := by
  unfold read
  split
  · rename_i rest
    rw [readName_eq_ok_iff]
    constructor
    · rintro ⟨name, rest, rfl, rfl⟩
      exact ⟨rest, rfl⟩
    · rintro ⟨rest', hrest⟩
      obtain ⟨name, complement⟩ := reference
      cases complement with
      | false => cases hrest
      | true =>
        cases hrest
        exact ⟨name, rest', rfl, rfl⟩
  · rename_i hnegation
    rw [readName_eq_ok_iff]
    constructor
    · rintro ⟨name, rest, rfl, rfl⟩
      exact ⟨rest, rfl⟩
    · rintro ⟨rest, rfl⟩
      obtain ⟨name, complement⟩ := reference
      cases complement with
      | false => exact ⟨name, rest, rfl, rfl⟩
      | true => exact absurd rfl (hnegation _)

lemma read_bind_eq_ok_iff {α : Type} {next : Reference → Except ParsingFault α} {result : α} :
    read tokens >>= next = .ok result ↔
      ∃ reference rest, tokens = reference.tokens ++ rest ∧ next reference = .ok result := by
  simp only [bind_eq_ok_iff, read_eq_ok_iff]
  constructor
  · rintro ⟨reference, ⟨rest, htokens⟩, hnext⟩
    exact ⟨reference, rest, htokens, hnext⟩
  · rintro ⟨reference, rest, htokens, hnext⟩
    exact ⟨reference, ⟨rest, htokens⟩, hnext⟩

lemma cons_eq_links_append_iff (hrest : rest.head? ≠ some sign) :
    sign :: tokens = links sign references ++ rest ↔
      ∃ reference others, references = reference :: others ∧
        tokens = reference.tokens ++ (links sign others ++ rest) := by
  unfold links
  cases references with
  | nil =>
    refine iff_of_false (fun heq => ?_) (by simp)
    rw [List.flatMap_nil, List.nil_append] at heq
    exact hrest (heq ▸ rfl)
  | cons reference others => simp [and_assoc]

lemma eq_links_append_iff_of_head? (htokens : tokens.head? ≠ some sign) :
    tokens = links sign references ++ rest ↔ references = [] ∧ tokens = rest := by
  unfold links
  cases references with
  | nil => simp
  | cons reference others =>
    refine iff_of_false (fun heq => ?_) (by simp)
    exact htokens (heq ▸ rfl)

end Reference

namespace Formula

variable {tokens rest : List Token} {formula : Formula} {references : List Reference}

/-! ### Lists and chains -/

lemma readItems_comma_eq_ok_iff :
    readItems (.comma :: tokens) = .ok (references, rest) ↔
      ∃ reference others left, references = reference :: others ∧
        tokens = reference.tokens ++ left ∧ readItems left = .ok (others, rest) := by
  rw [readItems, Reference.read_bind_eq_ok_iff]
  constructor
  · rintro ⟨reference, left, rfl, h⟩
    rw [Reference.drop_tokens] at h
    obtain ⟨⟨others, _⟩, hothers, h⟩ := bind_eq_ok_iff.mp h
    cases h
    exact ⟨reference, others, left, rfl, rfl, hothers⟩
  · rintro ⟨reference, others, left, rfl, rfl, hothers⟩
    rw [← Reference.drop_tokens reference left] at hothers
    exact ⟨reference, left, rfl, bind_eq_ok_iff.mpr ⟨_, hothers, rfl⟩⟩

lemma readItems_of_head? (h : tokens.head? ≠ some .comma) :
    readItems tokens = .ok ([], tokens) := by
  rw [readItems]
  rintro others rfl
  exact h rfl

theorem readItems_eq_ok_iff :
    readItems tokens = .ok (references, rest) ↔
      tokens = Reference.links .comma references ++ rest ∧ rest.head? ≠ some .comma := by
  -- The induction drops the width of whatever was read, and that leaves the rest behind it.
  induction tokens using readItems.induct generalizing references rest with
  | case1 tokens ih =>
    rw [readItems_comma_eq_ok_iff]
    constructor
    · rintro ⟨reference, others, left, rfl, rfl, hothers⟩
      rw [← Reference.drop_tokens reference left, ih reference, Reference.drop_tokens] at hothers
      obtain ⟨rfl, hcomma⟩ := hothers
      exact ⟨(Reference.cons_eq_links_append_iff hcomma).mpr ⟨reference, others, rfl, rfl⟩, hcomma⟩
    · rintro ⟨htokens, hcomma⟩
      obtain ⟨reference, others, rfl, rfl⟩ := (Reference.cons_eq_links_append_iff hcomma).mp htokens
      refine ⟨reference, others, _, rfl, rfl, ?_⟩
      rw [← Reference.drop_tokens reference (_ ++ _), ih reference, Reference.drop_tokens]
      exact ⟨rfl, hcomma⟩
  | case2 tokens hcomma =>
    have hhead : tokens.head? ≠ some .comma := by
      intro hhead
      obtain ⟨others, rfl⟩ := List.head?_eq_some_iff.mp hhead
      exact hcomma others rfl
    rw [readItems_of_head? hhead, Reference.eq_links_append_iff_of_head? hhead]
    constructor
    · intro h
      cases h
      exact ⟨⟨rfl, rfl⟩, hhead⟩
    · rintro ⟨⟨rfl, rfl⟩, -⟩
      rfl

/-- The next token is no connective. -/
def ChainEnds (tokens : List Token) : Prop :=
  ∀ connective, tokens.head? ≠ some (.connective connective)

lemma readLinks_connective_eq_ok_iff {used connective : Option Connective} {next : Connective} :
    readLinks used (.connective next :: tokens) = .ok (references, connective, rest) ↔
      joins used next = .ok () ∧ ∃ reference others left, references = reference :: others ∧
        tokens = reference.tokens ++ left ∧
        readLinks (some next) left = .ok (others, connective, rest) := by
  rw [readLinks, bind_eq_ok_iff]
  simp only [Reference.read_bind_eq_ok_iff]
  constructor
  · rintro ⟨⟨⟩, hjoins, reference, left, rfl, h⟩
    rw [Reference.drop_tokens] at h
    obtain ⟨⟨others, _, _⟩, hothers, h⟩ := bind_eq_ok_iff.mp h
    cases h
    exact ⟨hjoins, reference, others, left, rfl, rfl, hothers⟩
  · rintro ⟨hjoins, reference, others, left, rfl, rfl, hothers⟩
    rw [← Reference.drop_tokens reference left] at hothers
    exact ⟨(), hjoins, reference, left, rfl, bind_eq_ok_iff.mpr ⟨_, hothers, rfl⟩⟩

lemma readLinks_of_chainEnds {used : Option Connective} (h : ChainEnds tokens) :
    readLinks used tokens = .ok ([], used, tokens) := by
  rw [readLinks]
  rintro next others rfl
  exact h next rfl

lemma joins_some_eq_ok_iff {used next : Connective} :
    joins (some used) next = .ok () ↔ next = used ∧ used ≠ .xor := by
  unfold joins
  cases used <;> cases next <;> simp

/-- Behind a first link a chain goes on with the same connective, and not at all with the exclusive
one. -/
theorem readLinks_some_eq_ok_iff {used : Connective} {connective : Option Connective} :
    readLinks (some used) tokens = .ok (references, connective, rest) ↔
      connective = some used ∧ tokens = Reference.links (.connective used) references ++ rest ∧
        ChainEnds rest ∧ (used = .xor → references = []) := by
  generalize hsome : some used = used?
  induction used?, tokens using readLinks.induct generalizing used references connective rest with
  | case1 used? next tokens ih =>
    subst hsome
    rw [readLinks_connective_eq_ok_iff, joins_some_eq_ok_iff]
    constructor
    -- That a further link is allowed rules the exclusive connective out, and so its condition.
    · rintro ⟨⟨rfl, hxor⟩, reference, others, left, rfl, rfl, hothers⟩
      rw [← Reference.drop_tokens reference left, ih reference rfl, Reference.drop_tokens] at hothers
      obtain ⟨rfl, rfl, hends, -⟩ := hothers
      refine ⟨rfl, ?_, hends, fun hused => absurd hused hxor⟩
      exact (Reference.cons_eq_links_append_iff (hends _)).mpr ⟨reference, others, rfl, rfl⟩
    · rintro ⟨rfl, htokens, hends, hxor⟩
      have hnext : next = used := by
        cases references with
        | nil => exact absurd (congrArg List.head? htokens).symm (hends next)
        | cons reference others => cases htokens; rfl
      subst hnext
      obtain ⟨reference, others, rfl, rfl⟩ :=
        (Reference.cons_eq_links_append_iff (hends _)).mp htokens
      have hne : next ≠ .xor := fun hused => absurd (hxor hused) (List.cons_ne_nil _ _)
      refine ⟨⟨rfl, hne⟩, reference, others, _, rfl, rfl, ?_⟩
      rw [← Reference.drop_tokens reference (_ ++ _), ih reference rfl, Reference.drop_tokens]
      exact ⟨rfl, rfl, hends, fun hused => absurd hused hne⟩
  | case2 used? tokens hconnective =>
    subst hsome
    have hends : ChainEnds tokens := by
      intro next hhead
      obtain ⟨others, rfl⟩ := List.head?_eq_some_iff.mp hhead
      exact hconnective next others rfl
    rw [readLinks_of_chainEnds hends, Reference.eq_links_append_iff_of_head? (hends used)]
    constructor
    · intro h
      cases h
      exact ⟨rfl, ⟨rfl, rfl⟩, hends, fun _ => rfl⟩
    · rintro ⟨rfl, ⟨rfl, rfl⟩, -, -⟩
      rfl

/-- A chain is one reference, or as many as its connective joins. -/
inductive ChainSpelledBy : Formula → List Token → Prop where
  | single (reference : Reference) : ChainSpelledBy ⟨.null, [reference]⟩ reference.tokens
  | joined (connective : Connective) (references : List Reference)
      (hcount : connective.Joins references.length) :
      ChainSpelledBy ⟨connective.operator, references⟩
        (Reference.joined (.connective connective) references)

theorem readChain_eq_ok_iff :
    readChain tokens = .ok (formula, rest) ↔
      ∃ spelling, ChainSpelledBy formula spelling ∧ tokens = spelling ++ rest ∧ ChainEnds rest := by
  unfold readChain
  rw [Reference.read_bind_eq_ok_iff]
  constructor
  · rintro ⟨reference, left, rfl, h⟩
    rw [Reference.drop_tokens] at h
    obtain ⟨⟨others, connective, _⟩, hothers, h⟩ := bind_eq_ok_iff.mp h
    cases h
    -- A chain that ends here has no connective; otherwise its first link decides on one.
    by_cases hends : ChainEnds left
    · rw [readLinks_of_chainEnds hends] at hothers
      cases hothers
      exact ⟨_, .single reference, rfl, hends⟩
    · obtain ⟨used, hhead⟩ : ∃ used, left.head? = some (.connective used) := by
        simpa [ChainEnds] using hends
      obtain ⟨tokens, rfl⟩ := List.head?_eq_some_iff.mp hhead
      obtain ⟨-, second, links, left, rfl, rfl, hlinks⟩ :=
        readLinks_connective_eq_ok_iff.mp hothers
      obtain ⟨rfl, rfl, hrest, hxor⟩ := readLinks_some_eq_ok_iff.mp hlinks
      refine ⟨_, .joined used (reference :: second :: links) ⟨by simp, fun hused => ?_⟩, ?_, hrest⟩
      · simp [hxor hused]
      · rw [Reference.joined_pair_append]
  · rintro ⟨spelling, hspelling, rfl, hends⟩
    cases hspelling with
    | single reference =>
      refine ⟨reference, rest, rfl, ?_⟩
      rw [Reference.drop_tokens, readLinks_of_chainEnds hends]
      rfl
    | joined connective references hcount =>
      obtain ⟨htwo, hxor⟩ := hcount
      match references, htwo with
      | reference :: second :: links, _ =>
        rw [Reference.joined_pair_append]
        refine ⟨reference, _, rfl, ?_⟩
        have hlinks := readLinks_some_eq_ok_iff.mpr
          ⟨rfl, rfl, hends, fun hused => by simpa using hxor hused⟩
        rw [Reference.drop_tokens,
          readLinks_connective_eq_ok_iff.mpr ⟨rfl, second, links, _, rfl, rfl, hlinks⟩]
        rfl

/-! ### The other forms -/

lemma readEnd_eq_ok_iff {result : Unit} : readEnd tokens = .ok result ↔ tokens = [] := by
  unfold readEnd
  split <;> simp

lemma readNegation_eq_ok_iff :
    readNegation tokens = .ok (formula, rest) ↔
      ∃ reference, formula = ⟨.not, [reference]⟩ ∧
        tokens = reference.tokens ++ .rightParenthesis :: rest := by
  unfold readNegation
  rw [Reference.read_bind_eq_ok_iff]
  constructor
  · rintro ⟨reference, left, rfl, h⟩
    rw [Reference.drop_tokens] at h
    split at h
    · cases h
      exact ⟨reference, rfl, rfl⟩
    · cases h
    · cases h
  · rintro ⟨reference, rfl, rfl⟩
    refine ⟨reference, _, rfl, ?_⟩
    rw [Reference.drop_tokens]

lemma readGroup_eq_ok_iff :
    readGroup tokens = .ok (formula, rest) ↔
      ∃ connective references, connective.Joins references.length ∧
        formula = ⟨connective.operator, references⟩ ∧
        tokens = Reference.joined (.connective connective) references ++
          .rightParenthesis :: rest := by
  have hends : ChainEnds (.rightParenthesis :: rest) := fun _ hhead => by cases hhead
  unfold readGroup
  split
  · rename_i tokens
    refine iff_of_false (by simp) ?_
    rintro ⟨connective, references, hcount, -, htokens⟩
    obtain ⟨reference, others, rfl⟩ :=
      List.exists_cons_of_length_pos (Nat.lt_of_lt_of_le Nat.zero_lt_two hcount.1)
    rw [Reference.joined_cons, List.append_assoc] at htokens
    exact Reference.tokens_append_ne_cons (by simp) (by simp) htokens.symm
  · rw [bind_eq_ok_iff]
    constructor
    · rintro ⟨⟨chain, left⟩, hchain, h⟩
      obtain ⟨spelling, hspelling, rfl, -⟩ := readChain_eq_ok_iff.mp hchain
      dsimp only at h
      split at h
      · split at h
        · cases h
        · rename_i hoperator
          cases h
          cases hspelling with
          | single reference => exact absurd rfl hoperator
          | joined connective references hcount => exact ⟨connective, references, hcount, rfl, rfl⟩
      · cases h
    · rintro ⟨connective, references, hcount, rfl, rfl⟩
      have hchain := readChain_eq_ok_iff.mpr ⟨_, .joined connective references hcount, rfl, hends⟩
      refine ⟨_, hchain, ?_⟩
      dsimp only
      rw [if_neg]
      cases connective <;> simp [Connective.operator]

lemma expect_eq_ok_iff {wanted : Token} :
    Token.expect wanted tokens = .ok rest ↔ tokens = wanted :: rest := by
  cases tokens with
  | nil => simp [Token.expect]
  | cons found tokens =>
    rw [Token.expect]
    by_cases hfound : found = wanted
    · simp [hfound]
    · simp [hfound]

/-! ### Votes -/

lemma threshold?_eq_some_iff {literal : String} {minimum : Nat} (hnonempty : literal.toList ≠ []) :
    threshold? literal = some minimum ↔ IsThreshold literal minimum := by
  unfold threshold?
  split
  · rename_i h
    simp only [Bool.and_eq_true, List.all_eq_true, decide_eq_true_eq] at h
    constructor
    · intro heq
      cases heq
      exact ⟨hnonempty, h.1, rfl, h.2⟩
    · intro hthreshold
      rw [hthreshold.value]
  · rename_i h
    refine iff_of_false (by simp) fun hthreshold => h ?_
    simp only [Bool.and_eq_true, List.all_eq_true, decide_eq_true_eq]
    exact ⟨hthreshold.digits, hthreshold.value ▸ hthreshold.bounded⟩

lemma readThreshold_eq_ok_iff {minimum : Nat} :
    readThreshold tokens = .ok (minimum, rest) ↔
      ∃ literal, tokens = .number literal :: rest ∧ threshold? literal = some minimum := by
  unfold readThreshold
  split
  · rename_i literal left
    cases hthreshold : threshold? literal with
    | none =>
      refine iff_of_false (by simp) ?_
      rintro ⟨_, heq, hsome⟩
      cases heq
      rw [hthreshold] at hsome
      cases hsome
    | some found =>
      constructor
      · intro h
        cases h
        exact ⟨literal, rfl, hthreshold⟩
      · rintro ⟨_, heq, hsome⟩
        cases heq
        rw [hthreshold] at hsome
        cases hsome
        rfl
  · rename_i hnumber
    refine iff_of_false (by simp) ?_
    rintro ⟨literal, rfl, -⟩
    exact hnumber literal rest rfl

lemma readVote_eq_ok_iff :
    readVote tokens = .ok (formula, rest) ↔
      ∃ literal minimum references, threshold? literal = some minimum ∧ references ≠ [] ∧
        formula = ⟨.atLeast minimum, references⟩ ∧
        tokens = [.leftParenthesis, .number literal, .comma, .leftBracket] ++
          Reference.joined .comma references ++ [.rightBracket, .rightParenthesis] ++ rest := by
  unfold readVote
  constructor
  · intro h
    obtain ⟨_, hparenthesis, h⟩ := bind_eq_ok_iff.mp h
    obtain ⟨⟨minimum, _⟩, hthreshold, h⟩ := bind_eq_ok_iff.mp h
    obtain ⟨_, hcomma, h⟩ := bind_eq_ok_iff.mp h
    obtain ⟨_, hbracket, h⟩ := bind_eq_ok_iff.mp h
    obtain ⟨reference, left, rfl, h⟩ := Reference.read_bind_eq_ok_iff.mp h
    rw [Reference.drop_tokens] at h
    obtain ⟨⟨others, _⟩, hothers, h⟩ := bind_eq_ok_iff.mp h
    obtain ⟨_, hclosing, h⟩ := bind_eq_ok_iff.mp h
    obtain ⟨_, hend, h⟩ := bind_eq_ok_iff.mp h
    cases h
    rw [expect_eq_ok_iff] at hparenthesis hcomma hbracket hclosing hend
    subst hparenthesis hcomma hbracket hclosing hend
    obtain ⟨literal, rfl, hliteral⟩ := readThreshold_eq_ok_iff.mp hthreshold
    obtain ⟨rfl, -⟩ := readItems_eq_ok_iff.mp hothers
    refine ⟨literal, minimum, reference :: others, hliteral, List.cons_ne_nil _ _, rfl, ?_⟩
    simp [Reference.joined_cons]
  · rintro ⟨literal, minimum, references, hthreshold, hreferences, rfl, rfl⟩
    obtain ⟨reference, others, rfl⟩ := List.exists_cons_of_ne_nil hreferences
    have hothers : readItems (Reference.links .comma others ++
        .rightBracket :: .rightParenthesis :: rest) =
        .ok (others, .rightBracket :: .rightParenthesis :: rest) :=
      readItems_eq_ok_iff.mpr ⟨rfl, by simp⟩
    rw [Reference.joined_cons]
    simp only [List.cons_append, List.nil_append, List.append_assoc]
    refine bind_eq_ok_iff.mpr ⟨_, expect_eq_ok_iff.mpr rfl, ?_⟩
    refine bind_eq_ok_iff.mpr ⟨_, readThreshold_eq_ok_iff.mpr ⟨literal, rfl, hthreshold⟩, ?_⟩
    refine bind_eq_ok_iff.mpr ⟨_, expect_eq_ok_iff.mpr rfl, ?_⟩
    refine bind_eq_ok_iff.mpr ⟨_, expect_eq_ok_iff.mpr rfl, ?_⟩
    refine Reference.read_bind_eq_ok_iff.mpr ⟨reference, _, rfl, ?_⟩
    rw [Reference.drop_tokens]
    refine bind_eq_ok_iff.mpr ⟨_, hothers, ?_⟩
    refine bind_eq_ok_iff.mpr ⟨_, expect_eq_ok_iff.mpr rfl, ?_⟩
    exact bind_eq_ok_iff.mpr ⟨_, expect_eq_ok_iff.mpr rfl, rfl⟩

/-! ### Whole formulas -/

lemma read_eq_ok_iff_readFront :
    read tokens = .ok formula ↔ readFront tokens = .ok (formula, []) := by
  unfold read
  rw [bind_eq_ok_iff]
  constructor
  · rintro ⟨⟨found, left⟩, hfront, h⟩
    obtain ⟨_, hend, h⟩ := bind_eq_ok_iff.mp h
    cases h
    rw [hfront, readEnd_eq_ok_iff.mp hend]
  · intro hfront
    exact ⟨_, hfront, rfl⟩

lemma readFront_reference (reference : Reference) :
    readFront (reference.tokens ++ rest) = readChain (reference.tokens ++ rest) := by
  obtain ⟨name, complement⟩ := reference
  cases complement <;> rfl

lemma readFront_chain {spelling : List Token} (h : ChainSpelledBy formula spelling) :
    readFront spelling = .ok (formula, []) := by
  have hends : ChainEnds [] := fun _ hhead => by cases hhead
  have hchain : readChain spelling = .ok (formula, []) :=
    readChain_eq_ok_iff.mpr ⟨spelling, h, (List.append_nil _).symm, hends⟩
  rw [← hchain]
  cases h with
  | single reference =>
    rw [← List.append_nil reference.tokens]
    exact readFront_reference reference
  | joined connective references hcount =>
    obtain ⟨reference, others, rfl⟩ :=
      List.exists_cons_of_length_pos (Nat.lt_of_lt_of_le Nat.zero_lt_two hcount.1)
    rw [Reference.joined_cons]
    exact readFront_reference reference

/-- The number tokens are no empty texts. -/
def LiteralsNonempty (tokens : List Token) : Prop :=
  ∀ literal, .number literal ∈ tokens → literal.toList ≠ []

theorem read_eq_ok_iff (h : LiteralsNonempty tokens) :
    read tokens = .ok formula ↔ formula.SpelledBy tokens := by
  rw [read_eq_ok_iff_readFront]
  constructor
  · intro hfront
    unfold readFront at hfront
    split at hfront
    · cases hfront
    · obtain ⟨literal, minimum, references, hthreshold, hreferences, rfl, rfl⟩ :=
        readVote_eq_ok_iff.mp hfront
      have hliteral := (threshold?_eq_some_iff (h literal (by simp))).mp hthreshold
      simpa using SpelledBy.vote literal minimum references hliteral hreferences
    · obtain ⟨reference, rfl, rfl⟩ := readNegation_eq_ok_iff.mp hfront
      simpa using SpelledBy.negation reference
    · obtain ⟨connective, references, hcount, rfl, rfl⟩ := readGroup_eq_ok_iff.mp hfront
      exact SpelledBy.group connective references hcount
    · obtain ⟨spelling, hspelling, rfl, -⟩ := readChain_eq_ok_iff.mp hfront
      rw [List.append_nil]
      cases hspelling with
      | single reference => exact .single reference
      | joined connective references hcount => exact .chain connective references hcount
  · intro hspelled
    cases hspelled with
    | vote literal minimum references hliteral hreferences =>
      have hthreshold := (threshold?_eq_some_iff hliteral.nonempty).mpr hliteral
      simpa [readFront] using readVote_eq_ok_iff.mpr
        ⟨literal, minimum, references, hthreshold, hreferences, rfl, (List.append_nil _).symm⟩
    | negation reference => exact readNegation_eq_ok_iff.mpr ⟨reference, rfl, rfl⟩
    | group connective references hcount =>
      exact readGroup_eq_ok_iff.mpr ⟨connective, references, hcount, rfl, rfl⟩
    | chain connective references hcount =>
      exact readFront_chain (.joined connective references hcount)
    | single reference => exact readFront_chain (.single reference)

end Formula
end FaultTreeExchange
