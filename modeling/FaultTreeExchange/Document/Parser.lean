import FaultTreeExchange.Statement.Parser

/-!
# Reading documents

The first line that carries a statement is the name of the fault tree and must be unlabelled; every
later one must be a labelled statement. The first line that breaks the rule is reported.
-/

namespace FaultTreeExchange.Document

open FaultTreeExchange.Text

/-- The statement of a line behind the name line. A second unlabelled line counts as a second name
until a gate has been defined. -/
def readLine (file name : String) (gateSeen : Bool) (line : Line) :
    Except Diagnostic Statement :=
  if LineKind.ofText line.text = .unlabelled && !gateSeen then
    .error ⟨.format (.secondName name), file, line.number⟩
  else
    match Statement.ofText ⟨file, line.number⟩ line.text with
    | .ok statement => .ok statement
    | .error fault => .error ⟨.parsing fault, file, line.number⟩

/-- The statements of the lines behind the name line. -/
def readLines (file name : String) (gateSeen : Bool) :
    List Line → Except Diagnostic (List Statement)
  | [] => .ok []
  | line :: rest => do
    let statement ← readLine file name gateSeen line
    let statements ← readLines file name (gateSeen || statement.gate?.isSome) rest
    return statement :: statements

/-- The document that a source describes. The file is only used to tell where a fault is. -/
def parse (source file : String) : Except Diagnostic Document :=
  match statementLines source with
  | [] => .error ⟨.format .emptyDocument, file, 0⟩
  | first :: rest =>
    if LineKind.ofText first.text = .unlabelled then do
      let name := String.ofList first.text
      let statements ← readLines file name false rest
      return ofStatements name ⟨file, first.number⟩ statements
    else .error ⟨.format .definitionBeforeName, file, first.number⟩

end FaultTreeExchange.Document
