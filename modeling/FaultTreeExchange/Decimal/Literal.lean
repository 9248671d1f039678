import FaultTreeExchange.Text.Numeral

/-!
# Decimal literals

An unsigned decimal literal is `digits [. [digits]]` or `. digits`, optionally followed by an
exponent: `e` or `E`, an optional sign, and digits. This module cuts the longest literal off the
front of a text and gives the number it stands for.
-/

namespace FaultTreeExchange.Decimal

open FaultTreeExchange.Text

/-- The number `significand * 10 ^ exponent`. -/
structure Scaled where
  significand : Nat
  exponent : Int
  deriving DecidableEq, Repr

/-- The exponent part of a literal. -/
structure Exponent where
  marker : Char
  sign : Option Char
  digits : List Char
  deriving DecidableEq, Repr

/-- An unsigned decimal literal, cut at its parts. -/
structure Literal where
  whole : List Char
  /-- The digits after the point, if there is a point. -/
  fraction : Option (List Char)
  exponent : Option Exponent
  deriving DecidableEq, Repr

/-- The number that a row of decimal digits stands for. -/
def ofDigits (digits : List Char) : Nat :=
  digits.foldl (fun value digit => 10 * value + digitValue digit) 0

def Exponent.text (part : Exponent) : List Char :=
  part.marker :: part.sign.toList ++ part.digits

/-- The power of ten of an exponent part. -/
def Exponent.value (part : Exponent) : Int :=
  if part.sign = some '-' then -(ofDigits part.digits : Int) else ofDigits part.digits

def Literal.text (literal : Literal) : List Char :=
  literal.whole ++
    (match literal.fraction with
      | none => []
      | some digits => '.' :: digits) ++
    (match literal.exponent with
      | none => []
      | some part => part.text)

/-- The number that a literal stands for. -/
def Literal.value (literal : Literal) : Scaled :=
  let fraction := literal.fraction.getD []
  let power := match literal.exponent with
    | none => 0
    | some part => part.value
  { significand := ofDigits (literal.whole ++ fraction)
    exponent := power - fraction.length }

/-- Cuts an exponent part off the front of a text. A marker without digits after it is none. -/
def Exponent.scan : List Char → Option Exponent
  | [] => none
  | marker :: rest =>
    if marker = 'e' ∨ marker = 'E' then
      let sign := rest.head?.filter fun c => c = '+' || c = '-'
      let digits := (rest.drop sign.toList.length).takeWhile isDigit
      if digits.isEmpty then none else some { marker, sign, digits }
    else none

/-- Cuts the longest literal off the front of a text. A mantissa needs at least one digit. -/
def Literal.scan (text : List Char) : Option Literal :=
  let whole := text.takeWhile isDigit
  let rest := text.dropWhile isDigit
  let fraction := match rest with
    | '.' :: after => some (after.takeWhile isDigit)
    | _ => none
  if whole.isEmpty && (fraction.getD []).isEmpty then none
  else
    let rest := match rest with
      | '.' :: after => after.dropWhile isDigit
      | _ => rest
    some { whole, fraction, exponent := Exponent.scan rest }

/-- The literal that makes up the whole of a text. -/
def Literal.ofText? (text : List Char) : Option Literal :=
  (Literal.scan text).filter fun literal => literal.text = text

end FaultTreeExchange.Decimal
