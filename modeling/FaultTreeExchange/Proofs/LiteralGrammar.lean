import FaultTreeExchange.Proofs.FloatText
import FaultTreeExchange.Proofs.ScannedText

/-!
# The grammar of decimal literals

Which texts are unsigned decimal literals, said without the scanner. What is scanned at the front of a
text is the longest literal there, and nothing is scanned where there is none. Every literal is read as a
double that is neither negative nor NaN.
-/

namespace FaultTreeExchange

open Text

namespace Decimal

/-! ### The grammar of literals -/

/-- One digit or more. -/
def IsDigits (text : List Char) : Prop :=
  text ≠ [] ∧ ∀ c ∈ text, isDigit c = true

/-- Digits, perhaps with a point and more digits behind them, or a point and digits. -/
inductive IsMantissa : List Char → Prop where
  | whole (digits : List Char) (hdigits : IsDigits digits) : IsMantissa digits
  | point (whole fraction : List Char) (hwhole : IsDigits whole)
      (hfraction : ∀ c ∈ fraction, isDigit c = true) : IsMantissa (whole ++ '.' :: fraction)
  | fraction (digits : List Char) (hdigits : IsDigits digits) : IsMantissa ('.' :: digits)

/-- A marker, perhaps a sign, and digits. -/
inductive IsExponent : List Char → Prop where
  | unsigned (marker : Char) (digits : List Char) (hmarker : marker ∈ ['e', 'E'])
      (hdigits : IsDigits digits) : IsExponent (marker :: digits)
  | signed (marker sign : Char) (digits : List Char) (hmarker : marker ∈ ['e', 'E'])
      (hsign : sign ∈ ['+', '-']) (hdigits : IsDigits digits) : IsExponent (marker :: sign :: digits)

/-- An unsigned decimal literal: a mantissa, perhaps with an exponent behind it. -/
inductive IsLiteral : List Char → Prop where
  | plain (mantissa : List Char) (hmantissa : IsMantissa mantissa) : IsLiteral mantissa
  | scaled (mantissa exponent : List Char) (hmantissa : IsMantissa mantissa)
      (hexponent : IsExponent exponent) : IsLiteral (mantissa ++ exponent)

/-- The text is the longest literal that it starts with and the rest behind it. -/
structure CutsLiteral (text literal after : List Char) : Prop where
  isLiteral : IsLiteral literal
  text_eq : text = literal ++ after
  longest : ∀ other, IsLiteral other → other <+: text → other.length ≤ literal.length

variable {text literal exponent after : List Char}

lemma isDigits_takeWhile (h : text.takeWhile isDigit ≠ []) : IsDigits (text.takeWhile isDigit) :=
  ⟨h, fun _ => List.mem_takeWhile_imp⟩

lemma IsExponent.exists_cons (h : IsExponent exponent) :
    ∃ marker rest, exponent = marker :: rest ∧ isDigit marker = false ∧ marker ≠ '.' := by
  have hmarkers : ∀ marker ∈ ['e', 'E'], isDigit marker = false ∧ marker ≠ '.' :=
    List.forall_mem_cons.mpr ⟨by decide, List.forall_mem_singleton.mpr (by decide)⟩
  cases h with
  | unsigned marker digits hmarker _ => exact ⟨marker, digits, rfl, hmarkers marker hmarker⟩
  | signed marker sign digits hmarker _ _ =>
    exact ⟨marker, sign :: digits, rfl, hmarkers marker hmarker⟩

lemma IsLiteral.exists_cons (h : IsLiteral literal) :
    ∃ first rest, literal = first :: rest ∧ (isDigit first = true ∨ first = '.') := by
  have hdigits : ∀ digits rest : List Char, IsDigits digits →
      ∃ first others, digits ++ rest = first :: others ∧ (isDigit first = true ∨ first = '.') := by
    rintro digits rest ⟨hne, hall⟩
    obtain ⟨first, others, rfl⟩ := List.exists_cons_of_ne_nil hne
    exact ⟨first, others ++ rest, rfl, .inl (hall first List.mem_cons_self)⟩
  have hmantissa : ∀ mantissa rest : List Char, IsMantissa mantissa →
      ∃ first others, mantissa ++ rest = first :: others ∧ (isDigit first = true ∨ first = '.') := by
    intro mantissa rest h
    cases h with
    | whole _ hwhole => exact hdigits _ rest hwhole
    | point whole fraction hwhole _ =>
      rw [List.append_assoc]
      exact hdigits whole _ hwhole
    | fraction digits _ => exact ⟨'.', digits ++ rest, rfl, .inr rfl⟩
  cases h with
  | plain _ h =>
    obtain ⟨first, rest, heq, hfirst⟩ := hmantissa _ [] h
    exact ⟨first, rest, by rw [← heq, List.append_nil], hfirst⟩
  | scaled mantissa exponent h _ => exact hmantissa mantissa exponent h

/-! ### What is scanned is a literal -/

lemma isExponent_of_scan {part : Exponent} (h : Exponent.scan text = some part) :
    IsExponent part.text := by
  unfold Exponent.scan at h
  split at h
  · cases h
  rename_i marker rest
  split_ifs at h with hmarker
  dsimp only at h
  split_ifs at h with hempty
  cases h
  have hmarkers : marker ∈ ['e', 'E'] := by simpa using hmarker
  have hdigits := isDigits_takeWhile (mt List.isEmpty_iff.mpr hempty)
  unfold Exponent.text
  dsimp only at hdigits ⊢
  cases hsign : rest.head?.filter fun c => c = '+' || c = '-' with
  | none =>
    rw [hsign] at hdigits
    exact .unsigned marker _ hmarkers hdigits
  | some sign =>
    rw [hsign] at hdigits
    have hsigns : sign ∈ ['+', '-'] := by simpa using (Option.filter_eq_some_iff.mp hsign).2
    exact .signed marker sign _ hmarkers hsigns hdigits

lemma isLiteral_withExponent {mantissa : List Char} (h : IsMantissa mantissa) (rest : List Char) :
    IsLiteral (mantissa ++ match Exponent.scan rest with
      | none => []
      | some part => part.text) := by
  cases hscan : Exponent.scan rest with
  | none =>
    rw [List.append_nil]
    exact .plain mantissa h
  | some part => exact .scaled mantissa part.text h (isExponent_of_scan hscan)

lemma isLiteral_of_scan {found : Literal} (h : Literal.scan text = some found) :
    IsLiteral found.text := by
  by_cases hpoint : (text.dropWhile isDigit).head? = some '.'
  · obtain ⟨after, hafter⟩ := List.head?_eq_some_iff.mp hpoint
    rw [Literal.scan_of_point hafter] at h
    split_ifs at h with hempty
    cases h
    refine isLiteral_withExponent ?_ _
    by_cases hwhole : text.takeWhile isDigit = []
    · rw [hwhole] at hempty ⊢
      exact .fraction _ (isDigits_takeWhile (mt List.isEmpty_iff.mpr hempty))
    · exact .point _ _ (isDigits_takeWhile hwhole) fun _ => List.mem_takeWhile_imp
  · rw [Literal.scan_of_no_point hpoint] at h
    split_ifs at h with hempty
    cases h
    refine isLiteral_withExponent ?_ _
    rw [List.append_nil]
    exact .whole _ (isDigits_takeWhile (mt List.isEmpty_iff.mpr hempty))

/-! ### No literal is longer than what is scanned -/

lemma not_isSign_of_isDigit {c : Char} (h : isDigit c = true) :
    (decide (c = '+') || decide (c = '-')) = false := by
  rw [Bool.or_eq_false_iff, decide_eq_false_iff_not, decide_eq_false_iff_not]
  constructor
  · rintro rfl
    cases h
  · rintro rfl
    cases h

lemma exists_scan_of_isExponent (h : IsExponent exponent) (rest : List Char) :
    ∃ part, Exponent.scan (exponent ++ rest) = some part ∧ exponent.length ≤ part.text.length := by
  have hrow : ∀ digits : List Char, IsDigits digits →
      (digits ++ rest).takeWhile isDigit = digits ++ rest.takeWhile isDigit :=
    fun digits hdigits => List.takeWhile_append_of_pos hdigits.2
  cases h with
  | unsigned marker digits hmarker hdigits =>
    have hmarkers : marker = 'e' ∨ marker = 'E' := by simpa using hmarker
    have hscan : Exponent.scan (marker :: digits ++ rest) =
        some ⟨marker, none, digits ++ rest.takeWhile isDigit⟩ := by
      obtain ⟨first, others, rfl⟩ := List.exists_cons_of_ne_nil hdigits.1
      have hsign := not_isSign_of_isDigit (hdigits.2 first List.mem_cons_self)
      have hrow := hrow _ hdigits
      rw [List.cons_append] at hrow
      simp [Exponent.scan, hmarkers, Option.filter, hsign, hrow]
    refine ⟨_, hscan, ?_⟩
    simp [Exponent.text]
  | signed marker sign digits hmarker hsign hdigits =>
    have hmarkers : marker = 'e' ∨ marker = 'E' := by simpa using hmarker
    have hsigns : sign = '+' ∨ sign = '-' := by simpa using hsign
    have hscan : Exponent.scan (marker :: sign :: digits ++ rest) =
        some ⟨marker, some sign, digits ++ rest.takeWhile isDigit⟩ := by
      simp [Exponent.scan, hmarkers, Option.filter, hsigns, hrow digits hdigits, hdigits.1]
    refine ⟨_, hscan, ?_⟩
    simp [Exponent.text]

lemma Literal.length_text (found : Literal) :
    found.text.length = found.whole.length +
      (found.fraction.elim 0 fun digits => digits.length + 1) +
      found.exponent.elim 0 fun part => part.text.length := by
  unfold Literal.text
  rw [List.length_append, List.length_append]
  cases found.fraction <;> cases found.exponent <;> rfl

/-- A row of digits and an exponent behind it are scanned at least, whatever follows. -/
lemma length_row_le {digits : List Char} (hdigits : ∀ c ∈ digits, isDigit c = true)
    (hexponent : exponent = [] ∨ IsExponent exponent) (rest : List Char) :
    (digits ++ exponent).length ≤ ((digits ++ (exponent ++ rest)).takeWhile isDigit).length +
      (Exponent.scan ((digits ++ (exponent ++ rest)).dropWhile isDigit)).elim 0
        fun part => part.text.length := by
  rw [List.takeWhile_append_of_pos hdigits, List.dropWhile_append_of_pos hdigits,
    List.length_append, List.length_append]
  rcases hexponent with rfl | hexponent
  · rw [List.length_nil]
    omega
  · obtain ⟨marker, others, rfl, hmarker, -⟩ := hexponent.exists_cons
    obtain ⟨part, hpart, hlength⟩ := exists_scan_of_isExponent hexponent rest
    have hdrop : (marker :: others ++ rest).dropWhile isDigit = marker :: others ++ rest := by
      rw [List.cons_append, List.dropWhile_cons_of_neg (by simp [hmarker])]
    rw [hdrop, hpart, Option.elim_some]
    omega

lemma exists_scan_of_whole {digits : List Char} (hdigits : IsDigits digits)
    (hexponent : exponent = [] ∨ IsExponent exponent) (rest : List Char) :
    ∃ found, Literal.scan (digits ++ (exponent ++ rest)) = some found ∧
      (digits ++ exponent).length ≤ found.text.length := by
  have hrow := length_row_le hdigits.2 hexponent rest
  have hwhole : (digits ++ (exponent ++ rest)).takeWhile isDigit ≠ [] := by
    rw [List.takeWhile_append_of_pos hdigits.2]
    exact List.append_ne_nil_of_left_ne_nil hdigits.1 _
  by_cases hpoint : ((digits ++ (exponent ++ rest)).dropWhile isDigit).head? = some '.'
  · obtain ⟨after, hafter⟩ := List.head?_eq_some_iff.mp hpoint
    rw [Literal.scan_of_point hafter, if_neg (by simp [hwhole])]
    refine ⟨_, rfl, ?_⟩
    rcases hexponent with rfl | hexponent
    · rw [Literal.length_text, List.nil_append, List.append_nil,
        List.takeWhile_append_of_pos hdigits.2, List.length_append]
      omega
    · obtain ⟨marker, others, rfl, hmarker, hne⟩ := hexponent.exists_cons
      rw [List.dropWhile_append_of_pos hdigits.2, List.cons_append,
        List.dropWhile_cons_of_neg (by simp [hmarker])] at hafter
      exact absurd (List.cons.inj hafter).1 hne
  · rw [Literal.scan_of_no_point hpoint, if_neg (by simpa using hwhole)]
    refine ⟨_, rfl, ?_⟩
    rw [Literal.length_text]
    simpa using hrow

lemma exists_scan_of_fraction {whole fraction : List Char}
    (hwhole : ∀ c ∈ whole, isDigit c = true) (hfraction : ∀ c ∈ fraction, isDigit c = true)
    (hne : whole ≠ [] ∨ fraction ≠ []) (hexponent : exponent = [] ∨ IsExponent exponent)
    (rest : List Char) :
    ∃ found, Literal.scan (whole ++ '.' :: (fraction ++ (exponent ++ rest))) = some found ∧
      (whole ++ '.' :: (fraction ++ exponent)).length ≤ found.text.length := by
  obtain ⟨htake, hdrop⟩ := takeWhile_isDigit (List.all_eq_true.mpr hwhole)
    (fraction ++ (exponent ++ rest))
  have hrow := length_row_le hfraction hexponent rest
  have hsome : ¬(whole.isEmpty &&
      ((fraction ++ (exponent ++ rest)).takeWhile isDigit).isEmpty) = true := by
    rw [List.takeWhile_append_of_pos hfraction]
    rcases hne with hne | hne <;> simp [hne]
  rw [Literal.scan_of_point hdrop, htake, if_neg hsome]
  refine ⟨_, rfl, ?_⟩
  rw [Literal.length_text, List.length_append, List.length_cons]
  simp only [Option.elim_some]
  omega

lemma exists_scan_of_isLiteral (h : IsLiteral literal) (rest : List Char) :
    ∃ found, Literal.scan (literal ++ rest) = some found ∧
      literal.length ≤ found.text.length := by
  obtain ⟨mantissa, exponent, hmantissa, hexponent, rfl⟩ : ∃ mantissa exponent,
      IsMantissa mantissa ∧ (exponent = [] ∨ IsExponent exponent) ∧
        literal = mantissa ++ exponent := by
    cases h with
    | plain _ hmantissa => exact ⟨literal, [], hmantissa, .inl rfl, (List.append_nil _).symm⟩
    | scaled mantissa exponent hmantissa hexponent =>
      exact ⟨mantissa, exponent, hmantissa, .inr hexponent, rfl⟩
  rw [List.append_assoc]
  cases hmantissa with
  | whole _ hdigits => exact exists_scan_of_whole hdigits hexponent rest
  | point whole fraction hwhole hfraction =>
    simp only [List.append_assoc, List.cons_append]
    exact exists_scan_of_fraction hwhole.2 hfraction (.inl hwhole.1) hexponent rest
  | fraction digits hdigits =>
    exact exists_scan_of_fraction (by simp : ∀ c ∈ [], isDigit c = true) hdigits.2
      (.inr hdigits.1) hexponent rest

lemma cutsLiteral_iff :
    CutsLiteral text literal after ↔
      ∃ found, Literal.scan text = some found ∧ found.text = literal ∧
        after = text.drop literal.length := by
  constructor
  · rintro ⟨hliteral, rfl, hlongest⟩
    obtain ⟨found, hfound, hlength⟩ := exists_scan_of_isLiteral hliteral after
    have hstarts := Literal.text_isPrefix hfound
    have hle := hlongest found.text (isLiteral_of_scan hfound) hstarts
    have hsame : literal = found.text :=
      (List.prefix_of_prefix_length_le (List.prefix_append literal after) hstarts
        hlength).eq_of_length (Nat.le_antisymm hlength hle)
    exact ⟨found, hfound, hsame.symm, (List.drop_left).symm⟩
  · rintro ⟨found, hfound, rfl, rfl⟩
    refine ⟨isLiteral_of_scan hfound, ?_, ?_⟩
    · exact (List.prefix_iff_eq_append.mp (Literal.text_isPrefix hfound)).symm
    · rintro other hother ⟨rest, rfl⟩
      obtain ⟨found', hfound', hlength⟩ := exists_scan_of_isLiteral hother rest
      rw [hfound] at hfound'
      cases hfound'
      exact hlength

lemma exists_ofText?_of_isLiteral (h : IsLiteral literal) :
    ∃ found, Literal.ofText? literal = some found := by
  obtain ⟨found, hfound, hlength⟩ := exists_scan_of_isLiteral h []
  rw [List.append_nil] at hfound
  have hsame : found.text = literal :=
    (Literal.text_isPrefix hfound).eq_of_length_le hlength
  refine ⟨found, ?_⟩
  unfold Literal.ofText?
  rw [Option.filter_eq_some_iff]
  exact ⟨hfound, decide_eq_true hsame⟩

end Decimal

lemma Binary64.exists_ofText?_of_isLiteral {literal : List Char} (h : Decimal.IsLiteral literal) :
    ∃ rank, ofText? (String.ofList literal) = some (.number false rank) := by
  obtain ⟨found, hfound⟩ := Decimal.exists_ofText?_of_isLiteral h
  obtain ⟨first, rest, rfl, hfirst⟩ := h.exists_cons
  have hsigns : first ≠ '+' ∧ first ≠ '-' := by
    constructor
    · rintro rfl
      simp [isDigit] at hfirst
    · rintro rfl
      simp [isDigit] at hfirst
  unfold ofText?
  rw [String.toList_ofList]
  split
  · rename_i hplus
    exact absurd (List.cons.inj hplus).1 hsigns.1
  · rename_i hminus
    exact absurd (List.cons.inj hminus).1 hsigns.2
  · exact ⟨_, ofUnsigned?_literal false hfirst hfound⟩

end FaultTreeExchange
