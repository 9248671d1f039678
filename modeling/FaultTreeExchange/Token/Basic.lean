/-!
# Tokens

The smallest parts of a statement, each with its spelling.
-/

namespace FaultTreeExchange

/-- A sign that joins the references of a formula. -/
inductive Connective where
  | and
  | or
  | xor
  deriving DecidableEq, Repr

def Connective.sign : Connective → Char
  | .and => '&'
  | .or => '|'
  | .xor => '^'

/-- A sign of arithmetic. No statement allows one; they are tokens so that a refusal can name
them. -/
inductive ArithmeticSign where
  | plus
  | minus
  | times
  | over
  deriving DecidableEq, Repr

def ArithmeticSign.sign : ArithmeticSign → Char
  | .plus => '+'
  | .minus => '-'
  | .times => '*'
  | .over => '/'

inductive Token where
  /-- The name of a gate or event, or a keyword. -/
  | word (name : String)
  /-- A decimal literal as it is written. -/
  | number (literal : String)
  /-- The sign `:=` between a gate and its formula. -/
  | define
  | equals
  | leftParenthesis
  | rightParenthesis
  | leftBracket
  | rightBracket
  | comma
  | negation
  | connective (operation : Connective)
  /-- The sign `@` that starts a vote. -/
  | vote
  | arithmetic (operation : ArithmeticSign)
  deriving DecidableEq, Repr

namespace Token

def spelling : Token → String
  | .word name => name
  | .number literal => literal
  | .define => ":="
  | .equals => "="
  | .leftParenthesis => "("
  | .rightParenthesis => ")"
  | .leftBracket => "["
  | .rightBracket => "]"
  | .comma => ","
  | .negation => "~"
  | .connective operation => operation.sign.toString
  | .vote => "@"
  | .arithmetic operation => operation.sign.toString

/-- The count of characters of a token. -/
def width (token : Token) : Nat :=
  token.spelling.length

/-- What stands at a place of a statement, for messages: a quoted token or the end of the line. -/
def describe : Option Token → String
  | some token => s!"'{token.spelling}'"
  | none => "end of line"

end Token

/-- A token, or the end of the line, with the line it stands on. -/
structure Lexeme where
  token? : Option Token
  line : Nat
  deriving DecidableEq, Repr

end FaultTreeExchange
