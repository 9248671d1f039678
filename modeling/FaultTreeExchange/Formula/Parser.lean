import FaultTreeExchange.Document.Basic
import FaultTreeExchange.Fault.Basic
import FaultTreeExchange.Text.Numeral

/-!
# Reading formulas

A formula is one of

* `@ ( INTEGER , [ reference , … ] )`, a vote;
* `~ ( reference )`, a negation;
* `( reference OP reference … )`, a chain in parentheses;
* `reference OP reference …`, a chain, possibly of one reference only,

where a reference is a name with an optional `~` before it, and the `OP` of a chain are all `&`, all
`|`, or a single `^`. Each reader below takes the tokens that are left of a statement and gives what
it has read with the tokens after it.
-/

namespace FaultTreeExchange

open FaultTreeExchange.Text

def Token.expect (wanted : Token) : List Token → Except ParsingFault (List Token)
  | [] => .error (.expected (some wanted) none)
  | found :: rest =>
    if found = wanted then .ok rest else .error (.expected (some wanted) (some found))

/-- The count of tokens of a reference. -/
def Reference.width (reference : Reference) : Nat :=
  if reference.complement then 2 else 1

/-- The reference that goes on with the given tokens, behind its negation sign if it has one. -/
def Reference.readName (complement : Bool) : List Token → Except ParsingFault Reference
  | .word name :: _ => .ok ⟨name, complement⟩
  | .negation :: _ => .error .doubleNegation
  | .leftParenthesis :: _ => .error (if complement then .negatedGroup else .nestedFormula)
  | .vote :: _ => .error .nestedVote
  | .arithmetic found :: _ => .error (.arithmeticSign found)
  | tokens => .error (.expectedEventName tokens.head?)

/-- The reference that the tokens start with. It takes as many of them as its width says. -/
def Reference.read : List Token → Except ParsingFault Reference
  | .negation :: rest => Reference.readName true rest
  | tokens => Reference.readName false tokens

namespace Formula

/-- Whether a connective may follow the one used before it in a chain. -/
def joins (used : Option Connective) (next : Connective) : Except ParsingFault Unit :=
  match used with
  | none => .ok ()
  | some previous =>
    if previous ≠ next then .error (.mixedConnectives previous next)
    else if next = .xor then .error .longExclusiveOr
    else .ok ()

/-- The references of a chain after its first one, the connective of the chain, and the tokens after
it. -/
def readLinks (used : Option Connective) :
    List Token → Except ParsingFault (List Reference × Option Connective × List Token)
  | .connective next :: rest => do
    joins used next
    let reference ← Reference.read rest
    let (references, connective, rest) ← readLinks (some next) (rest.drop reference.width)
    return (reference :: references, connective, rest)
  | tokens => .ok ([], used, tokens)
termination_by tokens => tokens.length
decreasing_by simp only [List.length_cons, List.length_drop]; omega

def readChain (tokens : List Token) : Except ParsingFault (Formula × List Token) := do
  let reference ← Reference.read tokens
  let (references, connective, rest) ← readLinks none (tokens.drop reference.width)
  let operator := match connective with
    | none => Operator.null
    | some connective => connective.operator
  return (⟨operator, reference :: references⟩, rest)

/-- A chain in parentheses, behind the opening one. -/
def readGroup (tokens : List Token) : Except ParsingFault (Formula × List Token) :=
  match tokens with
  | .leftParenthesis :: _ => .error .nestedParentheses
  | _ => do
    let (chain, rest) ← readChain tokens
    match rest with
    | .rightParenthesis :: rest =>
      if chain.operator = .null then .error .singleInParentheses else .ok (chain, rest)
    | _ => .error (.unclosedParenthesis rest.head?)

/-- A negation, behind its opening parenthesis. -/
def readNegation (tokens : List Token) : Except ParsingFault (Formula × List Token) := do
  let reference ← Reference.read tokens
  match tokens.drop reference.width with
  | .rightParenthesis :: rest => .ok (⟨.not, [reference]⟩, rest)
  | .connective _ :: _ => .error .negatedChain
  | rest => .error (.unclosedParenthesis rest.head?)

/-- The thresholds of votes are below this number. -/
def thresholdBound : Nat := Nat.pow 2 32

/-- The whole number that a literal of digits only stands for, if it can be a threshold. -/
def threshold? (literal : String) : Option Nat :=
  if literal.toList.all isDigit && Decimal.ofDigits literal.toList < thresholdBound then
    some (Decimal.ofDigits literal.toList)
  else none

def readThreshold : List Token → Except ParsingFault (Nat × List Token)
  | .number literal :: rest =>
    match threshold? literal with
    | some minimum => .ok (minimum, rest)
    | none => .error (.fractionalThreshold literal)
  | tokens => .error (.expectedThreshold tokens.head?)

/-- The references of a list after its first one. -/
def readItems : List Token → Except ParsingFault (List Reference × List Token)
  | .comma :: rest => do
    let reference ← Reference.read rest
    let (references, rest) ← readItems (rest.drop reference.width)
    return (reference :: references, rest)
  | tokens => .ok ([], tokens)
termination_by tokens => tokens.length
decreasing_by simp only [List.length_cons, List.length_drop]; omega

/-- A vote, behind its sign. -/
def readVote (tokens : List Token) : Except ParsingFault (Formula × List Token) := do
  let tokens ← Token.expect .leftParenthesis tokens
  let (minimum, tokens) ← readThreshold tokens
  let tokens ← Token.expect .comma tokens
  let tokens ← Token.expect .leftBracket tokens
  let reference ← Reference.read tokens
  let (references, tokens) ← readItems (tokens.drop reference.width)
  let tokens ← Token.expect .rightBracket tokens
  let tokens ← Token.expect .rightParenthesis tokens
  return (⟨.atLeast minimum, reference :: references⟩, tokens)

/-- Nothing may follow a formula. -/
def readEnd : List Token → Except ParsingFault Unit
  | [] => .ok ()
  | .rightParenthesis :: _ => .error .unopenedParenthesis
  | .negation :: _ => .error .adjacentNegation
  | .arithmetic found :: _ => .error (.arithmeticSign found)
  | .word name :: _ => .error (.missingConnective name)
  | .connective found :: _ => .error (.connectiveAfterGroup found)
  | found :: _ => .error (.unexpected (some found))

/-- The formula that the tokens start with, and the tokens after it. -/
def readFront : List Token → Except ParsingFault (Formula × List Token)
  | [] => .error .emptyFormula
  | .vote :: rest => readVote rest
  | .negation :: .leftParenthesis :: rest => readNegation rest
  | .leftParenthesis :: rest => readGroup rest
  | tokens => readChain tokens

/-- The formula that all of the tokens make up. -/
def read (tokens : List Token) : Except ParsingFault Formula := do
  let (formula, rest) ← readFront tokens
  readEnd rest
  return formula

end Formula
end FaultTreeExchange
