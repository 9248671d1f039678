import FaultTreeExchange.Binary64.Basic
import FaultTreeExchange.Decimal.Literal

/-!
# Reading doubles

A decimal number is read as the double nearest to it; of two nearest ones the one with the even
rank is taken, and a number beyond the largest finite double becomes infinity.
-/

namespace FaultTreeExchange.Binary64

open FaultTreeExchange.Decimal FaultTreeExchange.Text

/-- The whole number nearest to a quotient, the even one of two. -/
def roundQuotient (numerator denominator : Nat) : Nat :=
  let quotient := numerator / denominator
  let remainder := numerator % denominator
  if denominator < 2 * remainder || (2 * remainder = denominator && quotient % 2 = 1) then
    quotient + 1
  else quotient

/-- The rank of the magnitude nearest to `numerator / denominator` units. The spacing of the
magnitudes there is two to the power of `shift` units, and the ranks count on where the significand
leaves its range. -/
def rankOfQuotient (numerator denominator : Nat) : Nat :=
  let shift := Nat.log2 (numerator / denominator) - fractionBits
  shift * fractionCount + roundQuotient numerator (denominator * Nat.pow 2 shift)

/-- The count of the decimal digits of a number. -/
def digitCount (n : Nat) : Nat :=
  (Nat.toDigits 10 n).length

/-- The rank of the magnitude nearest to a decimal number. Numbers of more than 310 digits before
the point are infinite and those that start more than 330 places after it are zero; the others are
computed exactly. -/
def rankOfDecimal (number : Scaled) : Nat :=
  let first : Int := digitCount number.significand + number.exponent
  if number.significand = 0 then 0
  else if first > 310 then infinityRank
  else if first < -330 then 0
  else
    rankOfQuotient
      (number.significand * Nat.pow 10 number.exponent.toNat * Nat.pow 2 unitExponent)
      (Nat.pow 10 (-number.exponent).toNat)

/-- The double nearest to a decimal number. -/
def ofDecimal (negative : Bool) (number : Scaled) : Binary64 :=
  ofRank negative (rankOfDecimal number)

/-- Reads an unsigned number: a decimal literal, `inf`, `infinity` or `nan` in any case. -/
def ofUnsigned? (negative : Bool) (text : List Char) : Option Binary64 :=
  if foldAscii text = "nan".toList then some .nan
  else if foldAscii text = "inf".toList || foldAscii text = "infinity".toList then
    some (ofRank negative infinityRank)
  else (Literal.ofText? text).map fun literal => ofDecimal negative literal.value

/-- Reads a number with an optional sign. -/
def ofText? (text : String) : Option Binary64 :=
  match text.toList with
  | '+' :: rest => ofUnsigned? false rest
  | '-' :: rest => ofUnsigned? true rest
  | rest => ofUnsigned? false rest

end FaultTreeExchange.Binary64
