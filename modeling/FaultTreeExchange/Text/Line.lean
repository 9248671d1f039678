import FaultTreeExchange.Text.Blank

/-!
# Lines

A source is cut at its line feeds. A comment runs from a `#` to the end of its line. Lines that hold
nothing but blanks and a comment carry no statement; a carriage return at the end of a line is a
blank.
-/

namespace FaultTreeExchange.Text

/-- The line up to its comment, without the blanks at its ends. -/
def statementText (line : List Char) : List Char :=
  trim (line.takeWhile (· ≠ '#'))

/-- A line that carries a statement. -/
structure Line where
  number : Nat
  text : List Char
  deriving DecidableEq, Repr

/-- Line numbers are counted modulo this number. -/
def lineNumberBound : Nat := Nat.pow 2 32

/-- The lines of a source that carry a statement, with their numbers counted from one. -/
def statementLines (source : String) : List Line :=
  ((source.toList.splitOn '\n').zipIdx 1).filterMap fun (line, number) =>
    let text := statementText line
    if text.isEmpty then none else some ⟨number % lineNumberBound, text⟩

end FaultTreeExchange.Text
