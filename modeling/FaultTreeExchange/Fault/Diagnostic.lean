import FaultTreeExchange.Fault.Basic
import FaultTreeExchange.Json

/-!
# Diagnostics

A fault with the place where it was found, and the report of it: one line of text, or a record.
-/

namespace FaultTreeExchange

/-- A fault and its place. Line 0 stands for the document as a whole. -/
structure Diagnostic where
  fault : Fault
  file : String
  line : Nat
  deriving DecidableEq, Repr

/-- What is told about a fault. -/
structure Report where
  kind : FaultKind
  file : String
  line : Nat
  message : String
  deriving DecidableEq, Repr

def Report.display (report : Report) : String :=
  s!"{report.file}:{report.line}: {report.kind.label} error: {report.message}"

/-- The report as a record whose entries stand in the order of their names. -/
def Report.json (report : Report) : Json :=
  .object [("file", .string report.file), ("kind", .string report.kind.identifier),
    ("line", .number report.line), ("message", .string report.message)]

/-- The report of a fault at a place. -/
def Diagnostic.report (diagnostic : Diagnostic) : Report where
  kind := diagnostic.fault.kind
  file := diagnostic.file
  line := diagnostic.line
  message := diagnostic.fault.message

end FaultTreeExchange
