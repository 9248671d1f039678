import FaultTreeExchange.Decimal.Literal
import FaultTreeExchange.Fault.Diagnostic

/-!
# Splitting a statement into tokens

Blanks separate tokens and are otherwise ignored. A number is a decimal literal that no character of
a name follows; a row of digits and letters is a word.
-/

namespace FaultTreeExchange.Token

open FaultTreeExchange.Text

def continuesWord (c : Char) : Bool :=
  isAlphanumeric c || c = '_' || c = '-' || c = '.'

/-- The decimal literal that a text starts with, unless a word goes on behind it. -/
def number? (text : List Char) : Option String :=
  match Decimal.Literal.scan text with
  | none => none
  | some literal =>
    match text.drop literal.text.length with
    | [] => some (String.ofList literal.text)
    | c :: _ => if continuesWord c then none else some (String.ofList literal.text)

/-- The token that is written with signs only and starts with a given one. -/
def sign (first : Char) (rest : List Char) : Except ParsingFault Token :=
  match first with
  | ':' => if rest.head? = some '=' then .ok .define else .error .loneColon
  | '=' => .ok .equals
  | '(' => .ok .leftParenthesis
  | ')' => .ok .rightParenthesis
  | '[' => .ok .leftBracket
  | ']' => .ok .rightBracket
  | ',' => .ok .comma
  | '~' => .ok .negation
  | '&' => .ok (.connective .and)
  | '|' => .ok (.connective .or)
  | '^' => .ok (.connective .xor)
  | '@' => .ok .vote
  | '+' => .ok (.arithmetic .plus)
  | '-' => .ok (.arithmetic .minus)
  | '*' => .ok (.arithmetic .times)
  | '/' => .ok (.arithmetic .over)
  | _ => .error (.unexpectedCharacter first)

/-- The token that a text starts with, when its first character is no blank. -/
def first (c : Char) (rest : List Char) : Except ParsingFault Token :=
  match number? (c :: rest) with
  | some literal => .ok (.number literal)
  | none =>
    if isAlphanumeric c || c = '_' then
      .ok (.word (String.ofList (c :: rest.takeWhile continuesWord)))
    else sign c rest

/-- The tokens of a text, up to its end or its first fault. -/
def scan : List Char → Except ParsingFault (List Token)
  | [] => .ok []
  | c :: rest =>
    if isBlank c then scan rest
    else
      match first c rest with
      | .error fault => .error fault
      | .ok token =>
        match scan (rest.drop (token.width - 1)) with
        | .error fault => .error fault
        | .ok tokens => .ok (token :: tokens)
termination_by text => text.length
decreasing_by
  all_goals simp only [List.length_cons, List.length_drop]; omega

/-- The tokens of a text that stands on one line, and the end of the line after them. -/
def lex (text file : String) (line : Nat) : Except Diagnostic (List Lexeme) :=
  match scan text.toList with
  | .error fault => .error ⟨.parsing fault, file, line⟩
  | .ok tokens => .ok (tokens.map (fun token => ⟨some token, line⟩) ++ [⟨none, line⟩])

end FaultTreeExchange.Token
