import FaultTreeExchange.CommandLine.FileAccess
import FaultTreeExchange.CommandLine.Report

/-!
# The command that checks files

Every file is translated, and a summary of its tree is printed. No file is written.
-/

namespace FaultTreeExchange.CommandLine

/-- What the check of a file has yielded. -/
structure CheckResult where
  file : Path
  result : Except FileError Summary

/-- Whether the file has a tree. -/
def CheckResult.succeeded (result : CheckResult) : Bool :=
  result.result.isOk

/-- The line of the output for a file, if it has a tree. -/
def CheckResult.line? (result : CheckResult) : Option String :=
  match result.result with
  | .error _ => none
  | .ok summary =>
    let roots := ", ".intercalate summary.roots
    some (asLine (s!"{result.file.text}: ok: tree '{summary.name}': {summary.gates} gates, " ++
      s!"{summary.basicEvents} basic events, {summary.houseEvents} house events, " ++
      s!"{summary.undefinedEvents} undefined events; top: {roots}"))

/-- The record of a file, if it has a tree. -/
def CheckResult.record? (result : CheckResult) : Option Json :=
  match result.result with
  | .error _ => none
  | .ok summary =>
    some (.object [("file", .string result.file.text), ("summary", summary.json)])

/-- The report of the error of a file, if it has no tree. -/
def CheckResult.report (settings : Settings) (result : CheckResult) : String :=
  match result.result with
  | .error error => settings.reportFileError error
  | .ok _ => ""

def checkOutput (settings : Settings) (results : List CheckResult) : String :=
  if settings.quiet then ""
  else
    match settings.format with
    | .text => String.join (results.filterMap CheckResult.line?)
    | .json => asLine (Json.array (results.filterMap CheckResult.record?)).pretty

/-- What is left of the check of all files. -/
def checkOutcome (settings : Settings) (results : List CheckResult) : Outcome where
  status := if results.all CheckResult.succeeded then 0 else 1
  output := checkOutput settings results
  errors := String.join (results.map (CheckResult.report settings))

def checkFile {m : Type → Type} [Monad m] (access : FileAccess m) (multiTop : Bool)
    (file : Path) : m CheckResult := do
  let contents ← access.read file
  return ⟨file, (translateFile file contents multiTop).map FaultTree.summary⟩

def runCheck {m : Type → Type} [Monad m] (access : FileAccess m) (settings : Settings)
    (request : CheckRequest) : m Outcome := do
  let results ← request.files.mapM (checkFile access request.multiTop)
  return checkOutcome settings results

end FaultTreeExchange.CommandLine
