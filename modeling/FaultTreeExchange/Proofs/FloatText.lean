import FaultTreeExchange.Proofs.Digits
import FaultTreeExchange.Proofs.Rounding
import Mathlib.Data.List.TakeWhile

/-!
# Doubles written and read

Every double is read back from its text. The text of a positive finite one is a literal of digits
and perhaps a point, whose value lies in the neighbourhood of the rank that was written.
-/

namespace FaultTreeExchange

open Text

namespace Decimal

/-! ### Literals without an exponent -/

lemma takeWhile_isDigit {digits : List Char} (h : digits.all isDigit = true) (rest : List Char) :
    (digits ++ '.' :: rest).takeWhile isDigit = digits ∧
      (digits ++ '.' :: rest).dropWhile isDigit = '.' :: rest := by
  rw [List.all_eq_true] at h
  constructor
  · rw [List.takeWhile_append_of_pos h, List.takeWhile_cons_of_neg (by decide), List.append_nil]
  · rw [List.dropWhile_append_of_pos h, List.dropWhile_cons_of_neg (by decide)]

lemma takeWhile_isDigit_all {digits : List Char} (h : digits.all isDigit = true) :
    digits.takeWhile isDigit = digits ∧ digits.dropWhile isDigit = [] := by
  rw [List.all_eq_true] at h
  exact ⟨List.takeWhile_eq_self_iff.mpr h, List.dropWhile_eq_nil_iff.mpr h⟩

lemma ofText?_whole {whole : List Char} (hne : whole ≠ []) (hwhole : whole.all isDigit = true) :
    Literal.ofText? whole = some ⟨whole, none, none⟩ := by
  obtain ⟨htake, hdrop⟩ := takeWhile_isDigit_all hwhole
  unfold Literal.ofText? Literal.scan
  simp [htake, hdrop, hne, Exponent.scan, Literal.text]

lemma ofText?_point {whole fraction : List Char} (hne : whole ≠ [])
    (hwhole : whole.all isDigit = true) (hfraction : fraction.all isDigit = true) :
    Literal.ofText? (whole ++ '.' :: fraction) = some ⟨whole, some fraction, none⟩ := by
  obtain ⟨htake, hdrop⟩ := takeWhile_isDigit hwhole fraction
  obtain ⟨htake', hdrop'⟩ := takeWhile_isDigit_all hfraction
  unfold Literal.ofText? Literal.scan
  simp [htake, hdrop, htake', hdrop', hne, Exponent.scan, Literal.text]

end Decimal

namespace Binary64

open Decimal

lemma exists_append_trimZeros (digits : List Char) :
    ∃ count, digits = trimZeros digits ++ List.replicate count '0' := by
  have hsplit := List.takeWhile_append_dropWhile (p := (· = '0')) (l := digits.reverse)
  have hzeros : digits.reverse.takeWhile (· = '0') =
      List.replicate (digits.reverse.takeWhile (· = '0')).length '0' := by
    rw [List.eq_replicate_iff]
    exact ⟨rfl, fun c hc => by simpa using List.mem_takeWhile_imp hc⟩
  refine ⟨(digits.reverse.takeWhile (· = '0')).length, ?_⟩
  unfold trimZeros
  rw [← List.reverse_replicate, ← hzeros, ← List.reverse_append, hsplit, List.reverse_reverse]

/-- The digits of a number with a digit for each of its places, and one more before the point. -/
def padded (number : Scaled) : List Char :=
  List.replicate ((-number.exponent).toNat + 1 - (Nat.toDigits 10 number.significand).length) '0' ++
    Nat.toDigits 10 number.significand ++ List.replicate number.exponent.toNat '0'

lemma lt_length_padded (number : Scaled) : (-number.exponent).toNat < (padded number).length := by
  unfold padded
  rw [List.length_append, List.length_append, List.length_replicate]
  omega

lemma isDigit_of_mem_padded (number : Scaled) : ∀ c ∈ padded number, isDigit c = true := by
  have hdigits := List.all_eq_true.mp (all_isDigit_toDigits number.significand)
  have hzeros : ∀ count, ∀ c ∈ List.replicate count '0', isDigit c = true := by
    intro count c hc
    rw [List.eq_of_mem_replicate hc]
    rfl
  unfold padded
  intro c hc
  rcases List.mem_append.mp hc with hc | hc
  · rcases List.mem_append.mp hc with hc | hc
    · exact hzeros _ c hc
    · exact hdigits c hc
  · exact hzeros _ c hc

lemma ofDigits_padded (number : Scaled) :
    ofDigits (padded number) = number.significand * 10 ^ number.exponent.toNat := by
  unfold padded
  rw [ofDigits_append, ofDigits_append, ofDigits_replicate_zero, ofDigits_replicate_zero,
    ofDigits_toDigits, List.length_replicate]
  ring

/-- What `layout` writes: the digits before the point and those behind it. The value of them all
is the significand, up to a power of ten. -/
structure Layout (number : Scaled) (whole fraction : List Char) : Prop where
  whole_ne : whole ≠ []
  whole_digits : whole.all isDigit = true
  fraction_digits : fraction.all isDigit = true
  text_eq : layout number = if fraction = [] then whole else whole ++ '.' :: fraction
  value_eq : ∃ count, (-number.exponent).toNat = fraction.length + count ∧
    number.significand * 10 ^ number.exponent.toNat = ofDigits (whole ++ fraction) * 10 ^ count

lemma exists_layout (number : Scaled) : ∃ whole fraction, Layout number whole fraction := by
  have hlength := lt_length_padded number
  have hdigits := isDigit_of_mem_padded number
  set point := (padded number).length - (-number.exponent).toNat with hpoint
  have hsplit := List.take_append_drop point (padded number)
  obtain ⟨count, hcount⟩ := exists_append_trimZeros ((padded number).drop point)
  have hplaces : ((padded number).drop point).length = (-number.exponent).toNat := by
    rw [List.length_drop]
    omega
  refine ⟨(padded number).take point, trimZeros ((padded number).drop point), ?_, ?_, ?_, ?_, count,
    ?_, ?_⟩
  · intro hnil
    have hzero := congrArg List.length hnil
    rw [List.length_take, List.length_nil] at hzero
    omega
  · exact List.all_eq_true.mpr fun c hc => hdigits c (List.mem_of_mem_take hc)
  · refine List.all_eq_true.mpr fun c hc => hdigits c ?_
    apply List.mem_of_mem_drop (i := point)
    rw [hcount]
    exact List.mem_append_left _ hc
  · unfold layout
    dsimp only
    rw [← padded, ← hpoint]
    cases trimZeros ((padded number).drop point) <;> rfl
  · rw [hcount, List.length_append, List.length_replicate] at hplaces
    exact hplaces.symm
  · rw [← ofDigits_padded, Nat.mul_comm]
    conv_lhs => rw [← hsplit, hcount, ← List.append_assoc, ofDigits_append,
      ofDigits_replicate_zero, List.length_replicate, Nat.add_zero]

lemma toLower_of_isDigit {c : Char} (h : isDigit c = true) : c.toLower = c := by
  unfold isDigit at h
  rw [Bool.and_eq_true, decide_eq_true_eq, decide_eq_true_eq] at h
  have hlow : ¬65 ≤ c.toNat := by
    have hhigh : c.toNat ≤ 57 := h.2
    omega
  unfold Char.toLower
  rw [dif_neg fun hcapital => hlow hcapital.1]

lemma Layout.exists_cons {number : Scaled} {whole fraction : List Char}
    (h : Layout number whole fraction) :
    ∃ first rest, layout number = first :: rest ∧ isDigit first = true := by
  obtain ⟨first, rest, rfl⟩ := List.exists_cons_of_ne_nil h.whole_ne
  have hfirst := h.whole_digits
  rw [List.all_cons, Bool.and_eq_true] at hfirst
  rw [h.text_eq]
  split
  · exact ⟨first, rest, rfl, hfirst.1⟩
  · exact ⟨first, rest ++ '.' :: fraction, rfl, hfirst.1⟩

/-- The literal that is laid out has the value of the number, up to a common factor. -/
lemma Layout.exists_literal {number : Scaled} {whole fraction : List Char}
    (h : Layout number whole fraction) :
    ∃ literal factor, Literal.ofText? (layout number) = some literal ∧ 0 < factor ∧
      numeratorOf number = numeratorOf literal.value * factor ∧
      denominatorOf number = denominatorOf literal.value * factor := by
  obtain ⟨count, hplaces, hvalue⟩ := h.value_eq
  have hliteral : ∃ literal, Literal.ofText? (layout number) = some literal ∧
      literal.value = ⟨ofDigits (whole ++ fraction), -(fraction.length : Int)⟩ := by
    rw [h.text_eq]
    split
    · rename_i hnil
      subst hnil
      exact ⟨_, ofText?_whole h.whole_ne h.whole_digits, rfl⟩
    · refine ⟨_, ofText?_point h.whole_ne h.whole_digits h.fraction_digits, ?_⟩
      simp [Literal.value]
  obtain ⟨literal, htext, hliteral⟩ := hliteral
  refine ⟨literal, 10 ^ count, htext, Nat.pow_pos (by decide), ?_, ?_⟩
  · unfold numeratorOf
    have hzero : (-(fraction.length : Int)).toNat = 0 := by omega
    rw [hvalue, hliteral, hzero]
    ring
  · unfold denominatorOf
    rw [hplaces, hliteral, neg_neg, Int.toNat_natCast, Nat.pow_add]

lemma ofUnsigned?_literal {first : Char} {rest : List Char} {literal : Literal} (negative : Bool)
    (hfirst : isDigit first = true ∨ first = '.')
    (h : Literal.ofText? (first :: rest) = some literal) :
    ofUnsigned? negative (first :: rest) = some (ofDecimal negative literal.value) := by
  have hlower : first.toLower = first := by
    rcases hfirst with hdigit | rfl
    · exact toLower_of_isDigit hdigit
    · rfl
  have hletters : first ≠ 'n' ∧ first ≠ 'i' := by
    constructor
    · rintro rfl
      simp [isDigit] at hfirst
    · rintro rfl
      simp [isDigit] at hfirst
  unfold ofUnsigned? foldAscii
  rw [List.map_cons, hlower, h]
  simp [hletters]

lemma ofUnsigned?_layout {rank : Nat} (negative : Bool) (hpos : 0 < rank)
    (hfinite : rank < infinityRank) :
    ofUnsigned? negative (layout (shortest rank)) = some (ofRank negative rank) := by
  obtain ⟨whole, fraction, h⟩ := exists_layout (shortest rank)
  obtain ⟨first, rest, hcons, hfirst⟩ := h.exists_cons
  obtain ⟨literal, factor, hliteral, hfactor, hnumerator, hdenominator⟩ := h.exists_literal
  have hnear := near_shortest hpos
  rw [hnumerator, hdenominator, near_mul_iff factor hfactor] at hnear
  rw [hcons] at hliteral ⊢
  rw [ofUnsigned?_literal negative (.inl hfirst) hliteral]
  unfold ofDecimal
  rw [rankOfDecimal_eq hpos hfinite hnear]

lemma ofRank_val (negative : Bool) (rank : Fin (0x7FF0000000000000 + 1)) :
    ofRank negative rank.val = .number negative rank := by
  unfold ofRank
  congr 1
  exact Fin.ext (Nat.min_eq_left (Nat.le_of_lt_succ rank.isLt))

/-- Every double is read back from its text. -/
theorem ofText?_render (value : Binary64) : ofText? value.render = some value := by
  cases value with
  | nan => decide
  | number negative rank =>
    rcases Nat.eq_zero_or_pos rank.val with hzero | hpos
    · obtain rfl : rank = 0 := Fin.ext hzero
      cases negative <;> decide
    rcases Nat.lt_or_ge rank.val infinityRank with hfinite | hinfinite
    · have hlayout := ofUnsigned?_layout negative hpos hfinite
      obtain ⟨whole, fraction, h⟩ := exists_layout (shortest rank)
      obtain ⟨first, rest, hcons, hfirst⟩ := h.exists_cons
      have hrender : render (.number negative rank) = String.ofList
          (if negative then '-' :: layout (shortest rank) else layout (shortest rank)) := by
        unfold render
        dsimp only
        rw [if_neg hpos.ne', if_neg hfinite.ne]
      rw [hrender, ← ofRank_val, ← hlayout]
      unfold ofText?
      rw [String.toList_ofList]
      cases negative with
      | true => rfl
      | false =>
        simp only [Bool.false_eq_true, if_false]
        rw [hcons]
        split
        · rename_i hplus
          cases hplus
          cases hfirst
        · rename_i hminus
          cases hminus
          cases hfirst
        · rfl
    · obtain rfl : rank = Fin.last infinityRank :=
        Fin.ext (Nat.le_antisymm (Nat.le_of_lt_succ rank.isLt) hinfinite)
      cases negative <;> decide +kernel

end Binary64
end FaultTreeExchange
