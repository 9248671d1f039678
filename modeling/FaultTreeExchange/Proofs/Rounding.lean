import FaultTreeExchange.Binary64.Shortest
import Mathlib.Tactic.Linarith
import Mathlib.Tactic.NormNum.Pow
import Mathlib.Tactic.Ring

/-!
# Rounding to doubles

A quotient that lies in the neighbourhood of a rank is rounded to that rank. A rank is a count of
whole ranges of `fractionCount` ranks and a significand; within a range the magnitudes are the
multiples of one power of two, and only at the low end of a range is the spacing below it smaller.
-/

namespace FaultTreeExchange.Binary64

open FaultTreeExchange.Decimal

lemma fractionCount_eq : fractionCount = 2 ^ 52 := rfl

/-- A quotient within half of a whole number rounds to it. A half itself rounds to an even number. -/
lemma roundQuotient_eq {numerator denominator n : Nat} (hd : 0 < denominator)
    (hlow : 2 * (n * denominator) ≤ 2 * numerator + denominator)
    (hhigh : 2 * numerator ≤ 2 * (n * denominator) + denominator)
    (hodd : n % 2 = 1 → 2 * (n * denominator) < 2 * numerator + denominator ∧
      2 * numerator < 2 * (n * denominator) + denominator) :
    roundQuotient numerator denominator = n := by
  have hdiv := Nat.div_add_mod' numerator denominator
  have hmod := Nat.mod_lt numerator hd
  unfold roundQuotient
  generalize numerator / denominator = quotient at hdiv ⊢
  generalize numerator % denominator = remainder at hdiv hmod ⊢
  have hle : quotient ≤ n := by
    by_contra hlt
    have hmul := Nat.mul_le_mul_right denominator (show n + 1 ≤ quotient by omega)
    rw [Nat.add_mul] at hmul
    omega
  have hge : n ≤ quotient + 1 := by
    by_contra hlt
    have hmul := Nat.mul_le_mul_right denominator (show quotient + 2 ≤ n by omega)
    rw [Nat.add_mul] at hmul
    omega
  dsimp only
  rcases Nat.lt_or_ge quotient n with hlt | hge'
  · obtain rfl : n = quotient + 1 := by omega
    rw [Nat.add_mul] at hlow hodd
    rw [if_pos]
    simp only [Bool.or_eq_true, Bool.and_eq_true, decide_eq_true_eq]
    omega
  · obtain rfl : n = quotient := by omega
    rw [if_neg]
    simp only [Bool.or_eq_true, Bool.and_eq_true, decide_eq_true_eq]
    omega

/-! ### Magnitudes -/

lemma units_eq {range significand : Nat} (hlow : range = 0 ∨ fractionCount ≤ significand)
    (hhigh : significand ≤ 2 * fractionCount) :
    units (range * fractionCount + significand) = significand * 2 ^ range := by
  have hpos : 0 < fractionCount := by decide
  unfold units
  rw [Nat.pow_eq]
  rcases Nat.lt_or_ge significand fractionCount with hlt | hge
  · obtain rfl : range = 0 := by omega
    rw [if_pos (by omega)]
    omega
  rcases Nat.lt_or_ge significand (2 * fractionCount) with hlt | hge'
  · obtain ⟨rest, rfl⟩ := Nat.exists_eq_add_of_le hge
    have hrank : range * fractionCount + (fractionCount + rest) =
        rest + fractionCount * (range + 1) := by ring
    rw [hrank, if_neg (by rw [Nat.mul_add]; omega), Nat.add_mul_mod_self_left,
      Nat.add_mul_div_left _ _ hpos, Nat.mod_eq_of_lt (by omega), Nat.div_eq_of_lt (by omega)]
    congr 2
    omega
  · obtain rfl : significand = 2 * fractionCount := by omega
    have hrank : range * fractionCount + 2 * fractionCount = fractionCount * (range + 2) := by ring
    rw [hrank, if_neg (by rw [Nat.mul_add]; omega), Nat.mul_mod_right, Nat.mul_div_cancel_left _ hpos]
    rw [show range + 2 - 1 = range + 1 by omega, Nat.pow_succ]
    ring

/-- A rank and its place: the range it belongs to, and the significand of its magnitude. -/
structure Placed (rank range significand : Nat) : Prop where
  rank_eq : rank = range * fractionCount + significand
  low : range = 0 ∨ fractionCount ≤ significand
  high : significand < 2 * fractionCount

lemma exists_placed (rank : Nat) : ∃ range significand, Placed rank range significand := by
  have hpos : 0 < fractionCount := by decide
  have hdiv := Nat.div_add_mod' rank fractionCount
  have hmod := Nat.mod_lt rank hpos
  cases hrange : rank / fractionCount with
  | zero =>
    rw [hrange] at hdiv
    exact ⟨0, rank, by omega, Or.inl rfl, by omega⟩
  | succ range =>
    rw [hrange, Nat.add_mul] at hdiv
    exact ⟨range, fractionCount + rank % fractionCount, by omega, Or.inr (by omega), by omega⟩

variable {rank range significand : Nat}

lemma Placed.units_rank (h : Placed rank range significand) :
    units rank = significand * 2 ^ range := by
  rw [h.rank_eq, units_eq h.low h.high.le]

lemma Placed.units_succ (h : Placed rank range significand) :
    units (rank + 1) = (significand + 1) * 2 ^ range := by
  have hhigh := h.high
  rw [h.rank_eq, Nat.add_assoc, units_eq (h.low.imp id (by omega)) (by omega)]

lemma Placed.parity_eq (h : Placed rank range significand) : rank % 2 = significand % 2 := by
  have hrank := h.rank_eq
  rw [fractionCount_eq] at hrank
  omega

/-- The magnitude below is one step of the range away, or half a step at the low end of a range. -/
lemma Placed.units_pred (h : Placed rank range significand) (hpos : 0 < rank) :
    units (rank - 1) + 2 ^ range = significand * 2 ^ range ∧
        (range = 0 ∨ fractionCount < significand) ∨
      ∃ lower, range = lower + 1 ∧ significand = fractionCount ∧
        units (rank - 1) + 2 ^ lower = 2 * fractionCount * 2 ^ lower := by
  have hrank := h.rank_eq
  have hhigh := h.high
  by_cases hlow : range = 0 ∨ fractionCount < significand
  · left
    obtain ⟨before, rfl⟩ : ∃ before, significand = before + 1 :=
      Nat.exists_eq_succ_of_ne_zero (by
        rintro rfl
        rcases hlow with rfl | hlow
        · omega
        · omega)
    have hpred : rank - 1 = range * fractionCount + before := by omega
    rw [hpred, units_eq (hlow.imp id (by omega)) (by omega), Nat.add_mul, Nat.one_mul]
    exact ⟨rfl, hlow⟩
  · right
    rw [not_or] at hlow
    obtain ⟨lower, rfl⟩ := Nat.exists_eq_succ_of_ne_zero hlow.1
    have hsignificand : significand = fractionCount := by
      have hge := h.low.resolve_left hlow.1
      omega
    subst hsignificand
    have hpos' : 0 < fractionCount := by decide
    have hpred : rank - 1 = lower * fractionCount + (2 * fractionCount - 1) := by
      rw [Nat.succ_mul] at hrank
      omega
    refine ⟨lower, rfl, rfl, ?_⟩
    rw [hpred, units_eq (Or.inr (by omega)) (by omega), Nat.sub_mul, Nat.one_mul,
      Nat.sub_add_cancel]
    exact Nat.le_mul_of_pos_left _ (by omega)

/-! ### Quotients -/

/-- The quotient, in units, lies in the neighbourhood of a rank. -/
structure Near (rank numerator denominator : Nat) : Prop where
  low : (units (rank - 1) + units rank) * denominator ≤ 2 * numerator
  high : 2 * numerator ≤ (units rank + units (rank + 1)) * denominator
  strict : rank % 2 = 1 →
    (units (rank - 1) + units rank) * denominator < 2 * numerator ∧
      2 * numerator < (units rank + units (rank + 1)) * denominator

lemma shift_eq {quotient shift : Nat} (hlow : shift = 0 ∨ fractionCount * 2 ^ shift ≤ quotient)
    (hhigh : quotient < 2 * fractionCount * 2 ^ shift) :
    Nat.log2 quotient - fractionBits = shift := by
  have hbits : fractionBits = 52 := rfl
  have hlow' : shift = 0 ∨ 2 ^ (52 + shift) ≤ quotient := by
    rwa [Nat.pow_add, ← fractionCount_eq]
  have hhigh' : quotient < 2 ^ (53 + shift) := by
    rwa [Nat.pow_add, show (2 : Nat) ^ 53 = 2 * fractionCount from rfl]
  rw [hbits]
  rcases Nat.eq_zero_or_pos quotient with rfl | hpos
  · have hshift : shift = 0 := by
      refine hlow'.resolve_right fun hle => ?_
      have hpow := Nat.pow_pos (n := 52 + shift) (show 0 < 2 by decide)
      omega
    simp [hshift]
  · have hne : quotient ≠ 0 := by omega
    have hlt := (Nat.log2_lt hne).mpr hhigh'
    rcases hlow' with rfl | hle
    · omega
    · have hge := (Nat.le_log2 hne).mpr hle
      omega

variable {numerator denominator : Nat}

lemma rankOfQuotient_of_range (hd : 0 < denominator) {shift n : Nat}
    (hlow : shift = 0 ∨ fractionCount * (denominator * 2 ^ shift) ≤ numerator)
    (hhigh : numerator < 2 * fractionCount * (denominator * 2 ^ shift))
    (hround : roundQuotient numerator (denominator * 2 ^ shift) = n) :
    rankOfQuotient numerator denominator = shift * fractionCount + n := by
  have hshift : Nat.log2 (numerator / denominator) - fractionBits = shift := by
    apply shift_eq
    · refine hlow.imp id fun hle => (Nat.le_div_iff_mul_le hd).mpr ?_
      rwa [Nat.mul_assoc, Nat.mul_comm (2 ^ shift)]
    · rwa [Nat.div_lt_iff_lt_mul hd, Nat.mul_assoc, Nat.mul_comm (2 ^ shift)]
  unfold rankOfQuotient
  rw [hshift]
  dsimp only
  rw [Nat.pow_eq, hround]

lemma Near.upper (h : Near rank numerator denominator) (hplaced : Placed rank range significand) :
    2 * numerator ≤ 2 * (significand * (denominator * 2 ^ range)) + denominator * 2 ^ range ∧
      (significand % 2 = 1 →
        2 * numerator < 2 * (significand * (denominator * 2 ^ range)) + denominator * 2 ^ range) := by
  have hupper : (units rank + units (rank + 1)) * denominator =
      2 * (significand * (denominator * 2 ^ range)) + denominator * 2 ^ range := by
    rw [hplaced.units_rank, hplaced.units_succ]
    ring
  rw [← hupper]
  exact ⟨h.high, fun hodd => (h.strict (hplaced.parity_eq.trans hodd)).2⟩

lemma Placed.lt_end (hplaced : Placed rank range significand) (denominator : Nat) :
    significand * (denominator * 2 ^ range) + denominator * 2 ^ range ≤
      2 * fractionCount * (denominator * 2 ^ range) := by
  rw [← Nat.succ_mul]
  exact Nat.mul_le_mul_right _ hplaced.high

lemma Near.rankOfQuotient_regular (h : Near rank numerator denominator) (hd : 0 < denominator)
    (hplaced : Placed rank range significand) (hregular : range = 0 ∨ fractionCount < significand)
    (hpred : units (rank - 1) + 2 ^ range = significand * 2 ^ range) :
    rankOfQuotient numerator denominator = rank := by
  obtain ⟨hhigh, hodd⟩ := h.upper hplaced
  have hend := hplaced.lt_end denominator
  have hspacing : 0 < denominator * 2 ^ range := Nat.mul_pos hd (Nat.pow_pos (by decide))
  have hlower : (units (rank - 1) + units rank) * denominator + denominator * 2 ^ range =
      2 * (significand * (denominator * 2 ^ range)) := by
    rw [hplaced.units_rank]
    calc (units (rank - 1) + significand * 2 ^ range) * denominator + denominator * 2 ^ range
        = (units (rank - 1) + 2 ^ range + significand * 2 ^ range) * denominator := by ring
      _ = 2 * (significand * (denominator * 2 ^ range)) := by
        rw [hpred]
        ring
  have hlow := h.low
  rw [hplaced.rank_eq]
  apply rankOfQuotient_of_range hd
  · refine hregular.imp id fun hlt => ?_
    have hmul := Nat.mul_le_mul_right (denominator * 2 ^ range) hlt
    rw [Nat.succ_mul] at hmul
    omega
  · omega
  · apply roundQuotient_eq hspacing
    · omega
    · omega
    · intro hsignificand
      have hstrict := (h.strict (hplaced.parity_eq.trans hsignificand)).1
      have hstrict' := hodd hsignificand
      omega

/-- At the low end of a range a quotient is rounded at the spacing of the range when it is not below
the rank, and otherwise at the spacing of the range below, which ends with the rank. -/
lemma Near.rankOfQuotient_lowEnd {lower : Nat} (h : Near rank numerator denominator)
    (hd : 0 < denominator) (hplaced : Placed rank (lower + 1) fractionCount)
    (hpred : units (rank - 1) + 2 ^ lower = 2 * fractionCount * 2 ^ lower) :
    rankOfQuotient numerator denominator = rank := by
  obtain ⟨hhigh, -⟩ := h.upper hplaced
  have hend := hplaced.lt_end denominator
  have hlow := h.low
  have hspacing : 0 < denominator * 2 ^ lower := Nat.mul_pos hd (Nat.pow_pos (by decide))
  have hdouble : denominator * 2 ^ (lower + 1) = 2 * (denominator * 2 ^ lower) := by ring
  -- Below the rank the spacing is half of that above it, and the rank ends the lower range.
  rcases Nat.lt_or_ge numerator (fractionCount * (denominator * 2 ^ (lower + 1))) with hlt | hge
  · have hlower : (units (rank - 1) + units rank) * denominator + denominator * 2 ^ lower =
        4 * (fractionCount * (denominator * 2 ^ lower)) := by
      rw [hplaced.units_rank]
      calc (units (rank - 1) + fractionCount * 2 ^ (lower + 1)) * denominator +
            denominator * 2 ^ lower
          = (units (rank - 1) + 2 ^ lower + 2 * fractionCount * 2 ^ lower) * denominator := by ring
        _ = 4 * (fractionCount * (denominator * 2 ^ lower)) := by
          rw [hpred]
          ring
    rw [hdouble, Nat.mul_left_comm] at hlt
    have hrank : rank = lower * fractionCount + 2 * fractionCount := by
      rw [hplaced.rank_eq]
      ring
    have hproduct : 2 * fractionCount * (denominator * 2 ^ lower) =
        2 * (fractionCount * (denominator * 2 ^ lower)) := by ring
    have hunit := Nat.le_mul_of_pos_left (denominator * 2 ^ lower)
      (show 0 < fractionCount by decide)
    rw [hrank]
    apply rankOfQuotient_of_range hd
    · right
      omega
    · omega
    · apply roundQuotient_eq hspacing
      · omega
      · omega
      · intro hodd
        omega
  · rw [hplaced.rank_eq]
    apply rankOfQuotient_of_range hd
    · exact Or.inr hge
    · omega
    · apply roundQuotient_eq (by omega)
      · omega
      · omega
      · intro hodd
        cases hodd

theorem rankOfQuotient_eq (hd : 0 < denominator) (hpos : 0 < rank)
    (h : Near rank numerator denominator) : rankOfQuotient numerator denominator = rank := by
  obtain ⟨range, significand, hplaced⟩ := exists_placed rank
  rcases hplaced.units_pred hpos with ⟨hpred, hregular⟩ | ⟨lower, rfl, rfl, hpred⟩
  · exact h.rankOfQuotient_regular hd hplaced hregular hpred
  · exact h.rankOfQuotient_lowEnd hd hplaced hpred

/-! ### Decimal numbers -/

lemma units_pos (hpos : 0 < rank) : 0 < units rank := by
  obtain ⟨range, significand, hplaced⟩ := exists_placed rank
  have hsignificand : 0 < significand := by
    have hrank := hplaced.rank_eq
    have hF : 0 < fractionCount := by decide
    rcases hplaced.low with rfl | hlow
    · omega
    · omega
  rw [hplaced.units_rank]
  exact Nat.mul_pos hsignificand (Nat.pow_pos (by decide))

lemma units_lt_succ (rank : Nat) : units rank < units (rank + 1) := by
  obtain ⟨range, significand, hplaced⟩ := exists_placed rank
  rw [hplaced.units_rank, hplaced.units_succ]
  exact Nat.mul_lt_mul_of_pos_right (Nat.lt_succ_self _) (Nat.pow_pos (by decide))

lemma units_le (h : rank ≤ infinityRank) : units rank ≤ 2 ^ 2099 := by
  obtain ⟨range, significand, hplaced⟩ := exists_placed rank
  have hrank := hplaced.rank_eq
  have hinfinity : infinityRank = 2047 * fractionCount := rfl
  have hrange : range ≤ 2046 := by
    by_contra hlt
    have hmul := Nat.mul_le_mul_right fractionCount (show 2047 ≤ range by omega)
    have hlow := hplaced.low
    have hF : 0 < fractionCount := by decide
    omega
  calc units rank = significand * 2 ^ range := hplaced.units_rank
    _ ≤ (2 * fractionCount) * 2 ^ 2046 :=
      Nat.mul_le_mul hplaced.high.le (Nat.pow_le_pow_right (by decide) hrange)
    _ = 2 ^ 2099 := by
      rw [fractionCount_eq, ← Nat.pow_succ', ← Nat.pow_add 2 53 2046]

def numeratorOf (number : Scaled) : Nat :=
  number.significand * 10 ^ number.exponent.toNat * 2 ^ unitExponent

def denominatorOf (number : Scaled) : Nat :=
  10 ^ (-number.exponent).toNat

lemma denominatorOf_pos (number : Scaled) : 0 < denominatorOf number :=
  Nat.pow_pos (by decide)

lemma near_mul_iff (factor : Nat) (hfactor : 0 < factor) :
    Near rank (numerator * factor) (denominator * factor) ↔ Near rank numerator denominator := by
  have hle : ∀ first second : Nat, first * factor ≤ second * factor ↔ first ≤ second :=
    fun first second => Nat.mul_le_mul_right_iff hfactor
  have hlt : ∀ first second : Nat, first * factor < second * factor ↔ first < second :=
    fun first second => Nat.mul_lt_mul_right hfactor
  constructor
  · rintro ⟨hlow, hhigh, hstrict⟩
    simp only [← Nat.mul_assoc, hle, hlt] at hlow hhigh hstrict
    exact ⟨hlow, hhigh, hstrict⟩
  · rintro ⟨hlow, hhigh, hstrict⟩
    constructor <;> simp only [← Nat.mul_assoc, hle, hlt]
    · exact hlow
    · exact hhigh
    · exact hstrict

lemma near_units (hpos : 0 < rank) : Near rank (units rank) 1 := by
  have hsucc := units_lt_succ rank
  have hpred := units_lt_succ (rank - 1)
  rw [Nat.sub_add_cancel hpos] at hpred
  constructor
  · omega
  · omega
  · omega

lemma holds_iff (number : Scaled) :
    (Neighbourhood.ofRank rank).holds number = true ↔
      Near rank (numeratorOf number) (denominatorOf number) := by
  have hpoint : number.significand * Nat.pow 10 number.exponent.toNat * halfUnits =
      2 * numeratorOf number := by
    unfold numeratorOf halfUnits
    rw [Nat.pow_eq, Nat.pow_eq, Nat.pow_succ]
    ring
  have hscale : Nat.pow 10 (-number.exponent).toNat = denominatorOf number := rfl
  unfold Neighbourhood.holds Neighbourhood.ofRank
  dsimp only
  rw [hpoint, hscale]
  constructor
  · intro h
    split at h
    · rename_i heven
      rw [Bool.and_eq_true, decide_eq_true_eq, decide_eq_true_eq] at h
      rw [decide_eq_true_eq] at heven
      exact ⟨h.1, h.2, fun hodd => by omega⟩
    · rw [Bool.and_eq_true, decide_eq_true_eq, decide_eq_true_eq] at h
      exact ⟨h.1.le, h.2.le, fun _ => h⟩
  · rintro ⟨hlow, hhigh, hstrict⟩
    split
    · simp [hlow, hhigh]
    · rename_i hodd
      rw [decide_eq_true_eq] at hodd
      simp [hstrict (by omega)]

lemma significand_lt (number : Scaled) :
    number.significand < 10 ^ digitCount number.significand :=
  (Nat.length_toDigits_le_iff (by decide) Nat.length_toDigits_pos).mp le_rfl

lemma le_significand {number : Scaled} (hne : number.significand ≠ 0) :
    10 ^ (digitCount number.significand - 1) ≤ number.significand := by
  by_contra hlt
  have hdigits : 0 < digitCount number.significand := Nat.length_toDigits_pos
  rcases Nat.eq_zero_or_pos (digitCount number.significand - 1) with hzero | hpos
  · rw [hzero] at hlt
    omega
  · have hle := (Nat.length_toDigits_le_iff (by decide) hpos).mpr (Nat.lt_of_not_le hlt)
    unfold digitCount at hdigits hle
    omega

/-- No finite magnitude starts more than 310 digits before the point. -/
lemma Near.first_le {number : Scaled} (hfinite : rank < infinityRank)
    (hne : number.significand ≠ 0)
    (h : Near rank (numeratorOf number) (denominatorOf number)) :
    (digitCount number.significand : Int) + number.exponent ≤ 310 := by
  by_contra hlt
  have hdigits : 0 < digitCount number.significand := Nat.length_toDigits_pos
  have hle := le_significand hne
  have hhigh := h.high
  have hsum : units rank + units (rank + 1) ≤ 2 * 2 ^ 2099 := by
    have hfirst := units_le hfinite.le
    have hsecond := units_le (show rank + 1 ≤ infinityRank from hfinite)
    omega
  have hbound : 10 ^ 310 * denominatorOf number ≤
      number.significand * 10 ^ number.exponent.toNat := by
    calc 10 ^ 310 * denominatorOf number
        ≤ 10 ^ (digitCount number.significand - 1) * 10 ^ number.exponent.toNat := by
          unfold denominatorOf
          rw [← Nat.pow_add, ← Nat.pow_add]
          exact Nat.pow_le_pow_right (by decide) (by omega)
      _ ≤ number.significand * 10 ^ number.exponent.toNat := Nat.mul_le_mul_right _ hle
  have hlarge : 2 * 2 ^ 2099 * denominatorOf number < 2 * (10 ^ 310 * denominatorOf number *
      2 ^ unitExponent) := by
    have hnumbers : (2 : Nat) ^ 2099 < 10 ^ 310 * 2 ^ unitExponent := by decide +kernel
    calc 2 * 2 ^ 2099 * denominatorOf number
        = 2 ^ 2099 * (2 * denominatorOf number) := by ring
      _ < 10 ^ 310 * 2 ^ unitExponent * (2 * denominatorOf number) :=
        Nat.mul_lt_mul_of_pos_right hnumbers
          (Nat.mul_pos (by decide) (denominatorOf_pos number))
      _ = 2 * (10 ^ 310 * denominatorOf number * 2 ^ unitExponent) := by ring
  have hupper := Nat.mul_le_mul_right (denominatorOf number) hsum
  have hlower := Nat.mul_le_mul_right (2 ^ unitExponent) hbound
  unfold numeratorOf at hhigh
  omega

/-- No magnitude but zero starts more than 330 places behind the point. -/
lemma Near.le_first {number : Scaled} (hpos : 0 < rank)
    (h : Near rank (numeratorOf number) (denominatorOf number)) :
    -330 ≤ (digitCount number.significand : Int) + number.exponent := by
  by_contra hlt
  have hsignificand := significand_lt number
  have hlow := h.low
  have hunits := units_pos hpos
  have hbound : number.significand * 10 ^ number.exponent.toNat * 10 ^ 331 ≤
      denominatorOf number := by
    calc number.significand * 10 ^ number.exponent.toNat * 10 ^ 331
        ≤ 10 ^ digitCount number.significand * 10 ^ number.exponent.toNat * 10 ^ 331 :=
          Nat.mul_le_mul_right _ (Nat.mul_le_mul_right _ hsignificand.le)
      _ ≤ denominatorOf number := by
          unfold denominatorOf
          rw [← Nat.pow_add, ← Nat.pow_add]
          exact Nat.pow_le_pow_right (by decide) (by omega)
  have hone : denominatorOf number ≤ (units (rank - 1) + units rank) * denominatorOf number :=
    Nat.le_mul_of_pos_left _ (by omega)
  have hnumbers : (2 : Nat) * 2 ^ unitExponent < 10 ^ 331 := by decide +kernel
  have hnumerator : 0 < number.significand * 10 ^ number.exponent.toNat := by
    have hdenominator := denominatorOf_pos number
    unfold numeratorOf at hlow
    refine Nat.pos_of_ne_zero fun hzero => ?_
    rw [hzero] at hlow
    omega
  have hsmall := Nat.mul_lt_mul_of_pos_left hnumbers hnumerator
  unfold numeratorOf at hlow
  have hcomm : number.significand * 10 ^ number.exponent.toNat * (2 * 2 ^ unitExponent) =
      2 * (number.significand * 10 ^ number.exponent.toNat * 2 ^ unitExponent) := by ring
  omega

theorem rankOfDecimal_eq {number : Scaled} (hpos : 0 < rank) (hfinite : rank < infinityRank)
    (h : Near rank (numeratorOf number) (denominatorOf number)) : rankOfDecimal number = rank := by
  have hne : number.significand ≠ 0 := by
    intro hzero
    have hlow := h.low
    have hdenominator := denominatorOf_pos number
    have hunits := units_pos hpos
    have hmul := Nat.mul_pos (show 0 < units (rank - 1) + units rank by omega) hdenominator
    unfold numeratorOf at hlow
    rw [hzero, Nat.zero_mul, Nat.zero_mul] at hlow
    omega
  have hhigh := h.first_le hfinite hne
  have hlow := h.le_first hpos
  unfold rankOfDecimal
  rw [if_neg hne, if_neg (by omega), if_neg (by omega)]
  exact rankOfQuotient_eq (denominatorOf_pos number) hpos h

lemma holds_of_onGrid? {around : Neighbourhood} {exponent : Int} {number : Scaled}
    (h : around.onGrid? exponent = some number) : around.holds number = true := by
  unfold Neighbourhood.onGrid? at h
  dsimp only at h
  split at h
  · rename_i hbelow habove
    split at h
    · cases h
      exact hbelow
    · cases h
      exact habove
  · rename_i hbelow _
    cases h
    exact hbelow
  · rename_i _ habove
    cases h
    exact habove
  · cases h

theorem near_shortest (hpos : 0 < rank) :
    Near rank (numeratorOf (shortest rank)) (denominatorOf (shortest rank)) := by
  rw [← holds_iff]
  unfold shortest
  dsimp only
  cases hfound : List.findSome? (Neighbourhood.ofRank rank).onGrid?
      ((List.range 17).map fun places => (Neighbourhood.ofRank rank).magnitude - (places + 1 : Nat)) with
  | some number =>
    obtain ⟨exponent, -, hexponent⟩ := List.exists_of_findSome?_eq_some hfound
    exact holds_of_onGrid? hexponent
  | none =>
    have hexact := (near_mul_iff (10 ^ unitExponent) (Nat.pow_pos (by decide))).mpr
      (near_units hpos)
    have hnumerator : numeratorOf ⟨units rank * Nat.pow 5 unitExponent, -unitExponent⟩ =
        units rank * 10 ^ unitExponent := by
      unfold numeratorOf
      generalize unitExponent = places
      have hzero : (-(places : Int)).toNat = 0 := by omega
      have hten : (10 : Nat) ^ places = 5 ^ places * 2 ^ places := Nat.mul_pow 5 2 places
      dsimp only
      rw [hzero, Nat.pow_zero, Nat.mul_one, hten, Nat.pow_eq, Nat.mul_assoc]
    have hdenominator : denominatorOf ⟨units rank * Nat.pow 5 unitExponent, -unitExponent⟩ =
        1 * 10 ^ unitExponent := by
      unfold denominatorOf
      generalize unitExponent = places
      rw [Nat.one_mul, neg_neg, Int.toNat_natCast]
    rw [Option.getD_none, holds_iff, hnumerator, hdenominator]
    exact hexact

end FaultTreeExchange.Binary64
