import FaultTreeExchange.Formula.Parser
import FaultTreeExchange.Text.Line
import FaultTreeExchange.Token.Lexer

/-!
# Reading statements

The text of a line shows which kind of statement it has to be: a gate definition holds `:=`, and an
assignment starts with `p` or `s` before a parenthesis and holds `=`. Any other line is unlabelled.
-/

namespace FaultTreeExchange

open FaultTreeExchange.Text

inductive LineKind where
  | gate
  | probability
  | state
  | unlabelled
  deriving DecidableEq, Repr

/-- The kind of a line, read off its text. -/
def LineKind.ofText (text : List Char) : LineKind :=
  if Name.holdsPair ':' '=' text then .gate
  else
    match text with
    | [] => .unlabelled
    | first :: rest =>
      if (trimStart rest).head? = some '(' && rest.contains '=' then
        if first = 'p' || first = 'P' then .probability
        else if first = 's' || first = 'S' then .state
        else .unlabelled
      else .unlabelled

namespace Statement

/-- The name that the tokens start with, and the tokens after it. -/
def readName : List Token → Except ParsingFault (String × List Token)
  | .word name :: rest => .ok (name, rest)
  | tokens => .error (.expectedName tokens.head?)

/-- Nothing may follow an assignment. -/
def readEnd : List Token → Except ParsingFault Unit
  | [] => .ok ()
  | found :: _ => .error (.expected none (some found))

def readGate (place : Place) (tokens : List Token) : Except ParsingFault GateDefinition := do
  let (name, tokens) ← readName tokens
  let tokens ← Token.expect .define tokens
  let formula ← Formula.read tokens
  return ⟨name, formula, place⟩

/-- The event of an assignment, `p(name) =` or `s(name) =`. -/
def readTarget (tokens : List Token) : Except ParsingFault (String × List Token) := do
  let (_, tokens) ← readName tokens
  let tokens ← Token.expect .leftParenthesis tokens
  let (name, tokens) ← readName tokens
  let tokens ← Token.expect .rightParenthesis tokens
  let tokens ← Token.expect .equals tokens
  return (name, tokens)

def readNumber : List Token → Except ParsingFault (Binary64 × List Token)
  | .number literal :: rest =>
    match Binary64.ofText? literal with
    | some value => .ok (value, rest)
    | none => .error (.invalidProbability literal)
  | tokens => .error (.expectedProbability tokens.head?)

def readProbability (place : Place) (tokens : List Token) :
    Except ParsingFault ProbabilityAssignment := do
  let (name, tokens) ← readTarget tokens
  let (value, tokens) ← readNumber tokens
  if value.isProbability then
    readEnd tokens
    return ⟨name, value, place⟩
  else .error (.probabilityOutOfRange name value)

/-- The truth value that a word stands for, in any ASCII case. -/
def truth? (word : String) : Option Bool :=
  let folded := foldAscii word.toList
  if folded = "true".toList then some true
  else if folded = "false".toList then some false
  else none

/-- The truth value that the tokens start with. -/
def readTruth : List Token → Except ParsingFault (Bool × List Token)
  | .word word :: rest =>
    match truth? word with
    | some value => .ok (value, rest)
    | none => .error (.expectedState (some (.word word)))
  | tokens => .error (.expectedState tokens.head?)

def readState (place : Place) (tokens : List Token) : Except ParsingFault StateAssignment := do
  let (name, tokens) ← readTarget tokens
  let (value, tokens) ← readTruth tokens
  readEnd tokens
  return ⟨name, value, place⟩

/-- The statement of a labelled line. An unlabelled line holds none. -/
def ofText (place : Place) (text : List Char) : Except ParsingFault Statement := do
  match LineKind.ofText text with
  | .gate => return .gate (← readGate place (← Token.scan text))
  | .probability => return .probability (← readProbability place (← Token.scan text))
  | .state => return .state (← readState place (← Token.scan text))
  | .unlabelled => .error (.unrecognizedStatement (String.ofList text))

end Statement
end FaultTreeExchange
