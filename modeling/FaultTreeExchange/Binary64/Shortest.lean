import FaultTreeExchange.Binary64.Reading

/-!
# Writing doubles

A double is written with the fewest decimal digits that read back as the same double; among the
numbers with that many digits the nearest to the double is taken, the larger one of two. The digits
are laid out positionally, never with an exponent, and a whole number has no point.
-/

namespace FaultTreeExchange.Binary64

open FaultTreeExchange.Decimal

/-- The numbers that round to one magnitude, in halves of a unit. The ends belong to it when the
rank is even. -/
structure Neighbourhood where
  low : Nat
  value : Nat
  high : Nat
  closed : Bool

def Neighbourhood.ofRank (rank : Nat) : Neighbourhood where
  low := units (rank - 1) + units rank
  value := 2 * units rank
  high := units rank + units (rank + 1)
  closed := rank % 2 = 0

/-- The count of halves of a unit in one. -/
def halfUnits : Nat := Nat.pow 2 (unitExponent + 1)

/-- The exponent `k` for which the value is below `10 ^ k` and not below `10 ^ (k - 1)`. -/
def Neighbourhood.magnitude (around : Neighbourhood) : Int :=
  if halfUnits ≤ around.value then digitCount (around.value / halfUnits)
  else 1 - (digitCount ((halfUnits - 1) / around.value) : Int)

/-- Whether `significand * 10 ^ exponent` reads as the value of the neighbourhood. -/
def Neighbourhood.holds (around : Neighbourhood) (number : Scaled) : Bool :=
  let point := number.significand * Nat.pow 10 number.exponent.toNat * halfUnits
  let scale := Nat.pow 10 (-number.exponent).toNat
  if around.closed then around.low * scale ≤ point && point ≤ around.high * scale
  else around.low * scale < point && point < around.high * scale

/-- The better of the two neighbours of the value among the multiples of `10 ^ exponent`, if one of
them reads back. -/
def Neighbourhood.onGrid? (around : Neighbourhood) (exponent : Int) : Option Scaled :=
  let numerator := around.value * Nat.pow 10 (-exponent).toNat
  let denominator := Nat.pow 10 exponent.toNat * halfUnits
  let below : Scaled := ⟨numerator / denominator, exponent⟩
  let above : Scaled := ⟨numerator / denominator + 1, exponent⟩
  match around.holds below, around.holds above with
  | true, true =>
    some (if 2 * numerator < (2 * below.significand + 1) * denominator then below else above)
  | true, false => some below
  | false, true => some above
  | false, false => none

/-- The shortest decimal number that reads as the magnitude of a rank: the first grid with a hit.
Seventeen digits are enough for every double; should none hit, all of the magnitude is written. -/
def shortest (rank : Nat) : Scaled :=
  let around := Neighbourhood.ofRank rank
  let grids := (List.range 17).map fun places => around.magnitude - (places + 1 : Nat)
  (grids.findSome? around.onGrid?).getD ⟨units rank * Nat.pow 5 unitExponent, -unitExponent⟩

/-- The digits after the point without the zeros at their end. -/
def trimZeros (digits : List Char) : List Char :=
  (digits.reverse.dropWhile (· = '0')).reverse

/-- A decimal number with its digits in their places. -/
def layout (number : Scaled) : List Char :=
  let digits := Nat.toDigits 10 number.significand
  let places := (-number.exponent).toNat
  let padded := List.replicate (places + 1 - digits.length) '0' ++ digits ++
    List.replicate number.exponent.toNat '0'
  let whole := padded.take (padded.length - places)
  match trimZeros (padded.drop (padded.length - places)) with
  | [] => whole
  | fraction => whole ++ '.' :: fraction

/-- The text of a double. -/
def render : Binary64 → String
  | .nan => "NaN"
  | .number negative rank =>
    let magnitude :=
      if rank.val = 0 then ['0']
      else if rank.val = infinityRank then "inf".toList
      else layout (shortest rank.val)
    String.ofList (if negative then '-' :: magnitude else magnitude)

end FaultTreeExchange.Binary64
