import FaultTreeExchange.CommandLine.FileAccess
import FaultTreeExchange.CommandLine.Report

/-!
# The command that translates files

Every input is translated on its own. Its tree goes to a file that is named after the input, or, if
there is one input only, to the standard output. Of several inputs that would go to the same file
the first one has it, even if it turns out to have no tree.
-/

namespace FaultTreeExchange.CommandLine

/-- What has become of an input. -/
inductive TranslateResult where
  /-- No name for its file can be derived. -/
  | nameless (input : Path)
  /-- Its file belongs to an earlier input. -/
  | taken (input output first : Path)
  | failed (error : FileError)
  | unwritten (output : Path) (reason : String)
  | written (input output : Path)
  | printed (text : String)
  deriving DecidableEq, Repr

namespace TranslateResult

/-- Whether the tree of the input has been written or printed. -/
def succeeded : TranslateResult → Bool
  | .written _ _ => true
  | .printed _ => true
  | _ => false

/-- The report of what went wrong with an input. -/
def report (settings : Settings) : TranslateResult → String
  | .nameless input =>
    settings.reportMessage s!"{input.text}: cannot derive an output file name"
  | .taken input output first =>
    settings.reportMessage
      s!"{input.text}: output {output.text} is already taken by {first.text}"
  | .failed error => settings.reportFileError error
  | .unwritten output reason => settings.reportMessage s!"cannot write {output.text}: {reason}"
  | .written _ _ => ""
  | .printed _ => ""

/-- The text that goes to the standard output. -/
def printedText : TranslateResult → String
  | .printed text => text
  | _ => ""

/-- The line of the output for an input whose tree has been written to a file. -/
def line? : TranslateResult → Option String
  | .written input output => some (asLine s!"{input.text} -> {output.text}")
  | _ => none

/-- The record of an input whose tree has been written to a file. -/
def record? : TranslateResult → Option Json
  | .written input output =>
    some (.object [("file", .string input.text), ("output", .string output.text)])
  | _ => none

end TranslateResult

/-- The list of the files that have been written. Nothing is said if there are none. -/
def writtenList (settings : Settings) (results : List TranslateResult) : String :=
  match settings.quiet, results.filterMap TranslateResult.record? with
  | true, _ => ""
  | false, [] => ""
  | false, records =>
    match settings.format with
    | .text => String.join (results.filterMap TranslateResult.line?)
    | .json => asLine (Json.array records).pretty

/-- What the command leaves behind once all inputs have been dealt with. -/
def translateOutcome (settings : Settings) (results : List TranslateResult) : Outcome where
  status := if results.all TranslateResult.succeeded then 0 else 1
  output :=
    String.join (results.map TranslateResult.printedText) ++ writtenList settings results
  errors := String.join (results.map (TranslateResult.report settings))

/-- The outcome when several inputs are to go to the standard output. -/
def severalInputsOutcome (settings : Settings) (count : Nat) : Outcome where
  status := 1
  output := ""
  errors := settings.reportMessage
    (s!"--stdout writes a single XML document; got {count} input files " ++ "(use --out-dir)")

/-- The document of an input, given what reading it has yielded. Undefined events get the default
probability, if there is one. -/
def translatedText (request : TranslateRequest) (input : Path)
    (contents : Except String String) : Except FileError String :=
  (translateFile input contents request.multiTop).map fun tree =>
    match request.defaultProbability with
    | some probability => (tree.setUndefinedProbability probability).exchangeText
    | none => tree.exchangeText

/-- The name of the file for an input. -/
def outputName (stem : String) : String :=
  stem ++ ".xml"

section
variable {m : Type → Type} [Monad m] (access : FileAccess m)

def printInput (request : TranslateRequest) (input : Path) : m TranslateResult := do
  match translatedText request input (← access.read input) with
  | .ok text => return .printed text
  | .error error => return .failed error

/-- Writes the tree of an input to a file, behind making the directory of the file if one is
given. -/
def writeInput (request : TranslateRequest) (directory : Option Path) (output input : Path) :
    m TranslateResult := do
  match translatedText request input (← access.read input) with
  | .error error => return .failed error
  | .ok text =>
    let made ← match directory with
      | none => pure (.ok ())
      | some directory => access.makeDirectories directory
    match made with
    | .error reason => return .unwritten output reason
    | .ok _ =>
      match ← access.write output text with
      | .error reason => return .unwritten output reason
      | .ok _ => return .written input output

/-- Writes the trees of inputs to files. The inputs so far are listed under the stems of their
paths. -/
def writeInputs (request : TranslateRequest) (directory : Option Path)
    (taken : List (String × Path)) : List Path → m (List TranslateResult)
  | [] => return []
  | input :: rest =>
    match input.stem? with
    | none => do
      let results ← writeInputs request directory taken rest
      return .nameless input :: results
    | some stem => do
      let output := (directory.getD ⟨""⟩).join (outputName stem)
      match taken.lookup stem with
      | some first =>
        let results ← writeInputs request directory taken rest
        return .taken input output first :: results
      | none =>
        let result ← writeInput access request directory output input
        let results ← writeInputs request directory ((stem, input) :: taken) rest
        return result :: results

def runTranslate (settings : Settings) (request : TranslateRequest) : m Outcome := do
  match request.destination with
  | .standardOutput =>
    if 1 < request.files.length then
      return severalInputsOutcome settings request.files.length
    else return translateOutcome settings (← request.files.mapM (printInput access request))
  | .workingDirectory =>
    return translateOutcome settings (← writeInputs access request none [] request.files)
  | .directory path =>
    return translateOutcome settings (← writeInputs access request (some path) [] request.files)

end

end FaultTreeExchange.CommandLine
