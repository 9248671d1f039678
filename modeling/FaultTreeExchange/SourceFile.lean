import FaultTreeExchange.Document.Parser
import FaultTreeExchange.FaultTree.Build
import FaultTreeExchange.FaultTree.Exchange
import FaultTreeExchange.Path.Basic
import FaultTreeExchange.Validation

/-!
# Sources and their files

From a source, or from the file that holds it, to a validated tree. `FaultTree.exchangeText` writes
the tree.
-/

namespace FaultTreeExchange

/-- The validated tree of a document. -/
def FaultTree.ofDocument (document : Document) (multiTop : Bool) : Except Diagnostic FaultTree := do
  let tree ← FaultTree.build document
  match tree.validate multiTop with
  | (tree, .ok _) => return tree
  | (_, .error diagnostic) => .error diagnostic

/-- The validated tree that a source describes. The file is only used to tell where a fault is. -/
def translate (source file : String) (multiTop : Bool) : Except Diagnostic FaultTree := do
  let document ← Document.parse source file
  FaultTree.ofDocument document multiTop

/-- Why a file has no tree. -/
inductive FileError where
  | unreadable (path : Path) (reason : String)
  | refused (diagnostic : Diagnostic)
  deriving DecidableEq, Repr

def FileError.display : FileError → String
  | .unreadable path reason => s!"cannot read {path.text}: {reason}"
  | .refused diagnostic => diagnostic.report.display

/-- The error as a record, of the same shape for both causes. -/
def FileError.json : FileError → Json
  | .unreadable path reason =>
    .object [("file", .string path.text), ("kind", .string "io"), ("line", .number 0),
      ("message", .string reason)]
  | .refused diagnostic => diagnostic.report.json

/-- The validated tree of a file, given what reading it has yielded: its text, or the reason why it
cannot be read. -/
def translateFile (path : Path) (contents : Except String String) (multiTop : Bool) :
    Except FileError FaultTree :=
  match contents with
  | .error reason => .error (.unreadable path reason)
  | .ok source =>
    match translate source path.text multiTop with
    | .error diagnostic => .error (.refused diagnostic)
    | .ok tree => .ok tree

end FaultTreeExchange
