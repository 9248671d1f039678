import FaultTreeExchange.Proofs.JsonReading
import FaultTreeExchange.Proofs.Runs

/-!
# Errors for other programs

In the JSON form the error output of a run is a row of values, one for each input that has failed, so
that other programs can read it. A quiet run leaves out the errors that are not errors of a file, and
so it may fail without a word.
-/

namespace FaultTreeExchange

open CommandLine

/-! ### Failures -/

/-- What has gone wrong: something that is told by a message, or an error of a file. -/
inductive Failure where
  | message (text : String)
  | file (error : FileError)
  deriving DecidableEq, Repr

namespace Failure

def json : Failure → Json
  | .message text => .object [("error", .string text)]
  | .file error => error.json

/-- A quiet run reports errors of files only. -/
def isReported (settings : Settings) : Failure → Bool
  | .message _ => !settings.quiet
  | .file _ => true

/-- The line of the error output. -/
def line : Failure → String
  | .message text => asLine (json (.message text)).compact
  | .file error => asLine error.json.pretty

lemma isLine (failure : Failure) : Json.IsLine failure.line failure.json := by
  cases failure with
  | message text => exact .inl rfl
  | file error => exact .inr rfl

end Failure

/-- The failure of an input, unless its tree has been written or printed. -/
def CommandLine.TranslateResult.failure? : TranslateResult → Option Failure
  | .nameless input => some (.message s!"{input.text}: cannot derive an output file name")
  | .taken input output first =>
    some (.message s!"{input.text}: output {output.text} is already taken by {first.text}")
  | .failed error => some (.file error)
  | .unwritten output reason => some (.message s!"cannot write {output.text}: {reason}")
  | .written _ _ => none
  | .printed _ => none

/-- The failure of a file that has no tree. -/
def CommandLine.CheckResult.failure? (result : CheckResult) : Option Failure :=
  match result.result with
  | .error error => some (.file error)
  | .ok _ => none

section Reports

variable {settings : Settings}

/-- What the error output holds about a failure. -/
def Failure.report (settings : Settings) (failure : Failure) : String :=
  if failure.isReported settings then failure.line else ""

lemma reportMessage_eq (hformat : settings.format = .json) (text : String) :
    settings.reportMessage text = (Failure.message text).report settings := by
  unfold Settings.reportMessage Failure.report Failure.isReported
  rw [hformat]
  cases settings.quiet <;> rfl

lemma reportFileError_eq (hformat : settings.format = .json) (error : FileError) :
    settings.reportFileError error = (Failure.file error).report settings := by
  unfold Settings.reportFileError
  rw [hformat]
  rfl

lemma CommandLine.TranslateResult.report_eq (hformat : settings.format = .json)
    (result : TranslateResult) :
    result.report settings = (result.failure?.map (Failure.report settings)).getD "" := by
  cases result with
  | nameless | taken | unwritten => exact reportMessage_eq hformat _
  | failed error => exact reportFileError_eq hformat error
  | written | printed => rfl

lemma CommandLine.CheckResult.report_eq (hformat : settings.format = .json) (result : CheckResult) :
    result.report settings = (result.failure?.map (Failure.report settings)).getD "" := by
  unfold report failure?
  cases result.result with
  | error error => exact reportFileError_eq hformat error
  | ok summary => rfl

lemma join_reports (failures : List Failure) :
    String.join (failures.map (Failure.report settings)) =
      String.join ((failures.filter (Failure.isReported settings)).map Failure.line) := by
  induction failures with
  | nil => rfl
  | cons failure rest ih =>
    rw [List.map_cons, String.join_cons, ih, Failure.report, List.filter_cons]
    split
    · rw [List.map_cons, String.join_cons]
    · exact String.empty_append

/-- The failures that are reported, as the values in which other programs find them. -/
def reportedValues (settings : Settings) (failures : List Failure) : List Json :=
  (failures.filter (Failure.isReported settings)).map Failure.json

lemma readAll_join_reports (failures : List Failure) :
    Json.readAll (String.join (failures.map (Failure.report settings))) =
      some (reportedValues settings failures) := by
  rw [join_reports]
  refine Json.readAll_join ?_
  unfold reportedValues
  rw [List.forall₂_map_left_iff, List.forall₂_map_right_iff, List.forall₂_same]
  exact fun failure _ => failure.isLine

lemma readAll_reports {α : Type} {report : α → String} {failure? : α → Option Failure}
    (h : ∀ item, report item = ((failure? item).map (Failure.report settings)).getD "")
    (items : List α) :
    Json.readAll (String.join (items.map report)) =
      some (reportedValues settings (items.filterMap failure?)) := by
  rw [funext h, join_map_getD, ← List.map_filterMap, readAll_join_reports]

lemma CommandLine.TranslateResult.succeeded_eq (result : TranslateResult) :
    result.succeeded = result.failure?.isNone := by
  cases result <;> rfl

lemma CommandLine.CheckResult.succeeded_eq (result : CheckResult) :
    result.succeeded = result.failure?.isNone := by
  unfold succeeded failure?
  cases result.result <;> rfl

lemma all_eq_isEmpty_filterMap {α : Type} {succeeded : α → Bool} {failure? : α → Option Failure}
    (h : ∀ item, succeeded item = (failure? item).isNone) (items : List α) :
    items.all succeeded = (items.filterMap failure?).isEmpty := by
  induction items with
  | nil => rfl
  | cons item rest ih =>
    rw [List.all_cons, ih, h, List.filterMap_cons]
    cases failure? item <;> rfl

/-- The status tells whether there are failures, and the error output holds those that are reported. -/
structure Tells (settings : Settings) (failures : List Failure) (outcome : Outcome) : Prop where
  status : outcome.status = if failures.isEmpty then 0 else 1
  errors : Json.readAll outcome.errors = some (reportedValues settings failures)

lemma tells_translateOutcome (hformat : settings.format = .json) (results : List TranslateResult) :
    Tells settings (results.filterMap TranslateResult.failure?) (translateOutcome settings results) where
  status := by
    unfold translateOutcome
    rw [all_eq_isEmpty_filterMap TranslateResult.succeeded_eq]
  errors := readAll_reports (TranslateResult.report_eq hformat) results

lemma tells_checkOutcome (hformat : settings.format = .json) (results : List CheckResult) :
    Tells settings (results.filterMap CheckResult.failure?) (checkOutcome settings results) where
  status := by
    unfold checkOutcome
    rw [all_eq_isEmpty_filterMap CheckResult.succeeded_eq]
  errors := readAll_reports (CheckResult.report_eq hformat) results

lemma tells_severalInputsOutcome (hformat : settings.format = .json) (count : Nat) :
    Tells settings
      [.message (s!"--stdout writes a single XML document; got {count} input files " ++
        "(use --out-dir)")]
      (severalInputsOutcome settings count) where
  status := rfl
  errors := by
    unfold severalInputsOutcome
    rw [← readAll_join_reports, reportMessage_eq hformat, List.map_singleton, String.join_cons]
    exact congrArg Json.readAll String.append_empty.symm

end Reports

/-! ### Runs -/

/-- The error of a file that has no tree. -/
def fileFailure? (files : FileTree) (multiTop : Bool) (file : Path) : Option Failure :=
  match translateFile file (files.readText file) multiTop with
  | .error error => some (.file error)
  | .ok _ => none

def Turn.failure? (turn : Turn) : Option Failure :=
  turn.result.failure?

/-- What goes wrong when files are checked or translated, one failure for each input that fails. A file
that is checked or printed fails by its own error. Where trees are written, an input fails by what its
turn ends with. -/
inductive Fails (before : FileTree) : Request → List Failure → FileTree → Prop where
  | check (settings : Settings) (request : CheckRequest) :
      Fails before (.check settings request)
        (request.files.filterMap (fileFailure? before request.multiTop)) before
  | printed (settings : Settings) (request : TranslateRequest)
      (hdestination : request.destination = .standardOutput)
      (hsingle : ¬1 < request.files.length) :
      Fails before (.translate settings request)
        (request.files.filterMap (fileFailure? before request.multiTop)) before
  /-- Several trees cannot be printed, so no input is looked at. -/
  | several (settings : Settings) (request : TranslateRequest)
      (hdestination : request.destination = .standardOutput) (hseveral : 1 < request.files.length) :
      Fails before (.translate settings request)
        [.message (s!"--stdout writes a single XML document; got {request.files.length} input files " ++
          "(use --out-dir)")] before
  | written (settings : Settings) (request : TranslateRequest) (turns : List Turn) (after : FileTree)
      (hdestination : request.destination ≠ .standardOutput)
      (hinputs : turns.map Turn.input = request.files) (hturns : Turns request [] before turns after) :
      Fails before (.translate settings request) (turns.filterMap Turn.failure?) after

def CommandLine.Request.settings? : Request → Option Settings
  | .translate settings _ => some settings
  | .check settings _ => some settings
  | .version => none
  | .help _ => none

lemma failure?_checked (files : FileTree) (multiTop : Bool) (file : Path) :
    (checked multiTop files file).failure? = fileFailure? files multiTop file := by
  unfold checked CheckResult.failure? fileFailure?
  cases translateFile file (files.readText file) multiTop <;> rfl

lemma failure?_printed (request : TranslateRequest) (files : FileTree) (input : Path) :
    (printed request files input).failure? = fileFailure? files request.multiTop input := by
  unfold printed fileFailure?
  cases translateFile input (files.readText input) request.multiTop <;> rfl

lemma exists_failures {arguments : List String} {request : Request} {settings : Settings}
    (harguments : readArguments arguments = .ok request) (hsettings : request.settings? = some settings)
    (hformat : settings.format = .json) (before : FileTree) :
    ∃ failures outcome after, run FileTree.access arguments before = (outcome, after) ∧
      Fails before request failures after ∧ Tells settings failures outcome := by
  cases request with
  | version | help => cases hsettings
  | check settings request =>
    cases hsettings
    have htells := tells_checkOutcome hformat (request.files.map (checked request.multiTop before))
    simp only [List.filterMap_map, Function.comp_def, failure?_checked] at htells
    exact ⟨_, _, before, run_check harguments before, .check settings request, htells⟩
  | translate settings request =>
    cases hsettings
    by_cases hdestination : request.destination = .standardOutput
    · by_cases hseveral : 1 < request.files.length
      · exact ⟨_, _, before, run_several harguments hdestination hseveral before,
          .several settings request hdestination hseveral, tells_severalInputsOutcome hformat _⟩
      · have htells := tells_translateOutcome hformat (request.files.map (printed request before))
        simp only [List.filterMap_map, Function.comp_def, failure?_printed] at htells
        exact ⟨_, _, before, run_print harguments hdestination hseveral before,
          .printed settings request hdestination hseveral, htells⟩
    · obtain ⟨turns, after, hinputs, hturns, hrun⟩ := exists_turns_run harguments hdestination before
      have htells := tells_translateOutcome hformat (turns.map Turn.result)
      rw [List.filterMap_map] at htells
      exact ⟨_, _, after, hrun, .written settings request turns after hdestination hinputs hturns,
        htells⟩

/-- In the JSON form the status tells whether an input has failed, and the error output is a row of
values, one for each failure that is reported. All of them are reported unless the run is quiet. -/
theorem json_errors_are_values {arguments : List String} {request : Request} {settings : Settings}
    (harguments : readArguments arguments = .ok request) (hsettings : request.settings? = some settings)
    (hformat : settings.format = .json) (before : FileTree) :
    ∃ failures outcome after, run FileTree.access arguments before = (outcome, after) ∧
      Fails before request failures after ∧
      outcome.status = (if failures.isEmpty then 0 else 1) ∧
      Json.readAll outcome.errors =
        some ((failures.filter (Failure.isReported settings)).map Failure.json) ∧
      (settings.quiet = false → Json.readAll outcome.errors = some (failures.map Failure.json) ∧
        (outcome.status = 1 ↔ failures.map Failure.json ≠ [])) := by
  obtain ⟨failures, outcome, after, hrun, hfails, ⟨hstatus, hread⟩⟩ :=
    exists_failures harguments hsettings hformat before
  refine ⟨failures, outcome, after, hrun, hfails, hstatus, hread, fun hquiet => ?_⟩
  have hall : ∀ failure ∈ failures, failure.isReported settings = true := by
    intro failure _
    cases failure with
    | message text => simp [Failure.isReported, hquiet]
    | file error => rfl
  constructor
  · rw [hread, reportedValues, List.filter_eq_self.mpr hall]
  · rw [hstatus]
    cases failures <;> simp

/-- A quiet run fails without a value when no name can be derived for an input, and when several trees
are to be printed. -/
theorem quiet_failure_without_value :
    (run FileTree.access ["translate", "--output=json", "--quiet", ".."]
        (FileTree.empty ["work"])).1 = ⟨1, "", ""⟩ ∧
      (run FileTree.access ["translate", "--output=json", "--quiet", "--stdout", "a.txt", "b.txt"]
        (FileTree.empty ["work"])).1 = ⟨1, "", ""⟩ ∧
      Json.readAll "" = some [] := by
  refine ⟨?_, ?_, rfl⟩ <;> decide +kernel

/-- A file that is missing and an input without a name are two failures. -/
theorem sample_json_errors :
    readArguments ["translate", "--output=json", "a.txt", ".."] =
      .ok (.translate ⟨.json, false⟩ ⟨[⟨"a.txt"⟩, ⟨".."⟩], false, .workingDirectory, none⟩) ∧
    ∃ (failures : List Failure) (outcome : Outcome) (after : FileTree),
      run FileTree.access ["translate", "--output=json", "a.txt", ".."] (FileTree.empty ["work"]) =
        (outcome, after) ∧
      outcome.status = 1 ∧ failures ≠ [] ∧
      Json.readAll outcome.errors = some (failures.map Failure.json) := by
  have harguments : readArguments ["translate", "--output=json", "a.txt", ".."] =
      .ok (.translate ⟨.json, false⟩ ⟨[⟨"a.txt"⟩, ⟨".."⟩], false, .workingDirectory, none⟩) := by
    decide +kernel
  have hfails : (run FileTree.access ["translate", "--output=json", "a.txt", ".."]
      (FileTree.empty ["work"])).1.status = 1 := by decide +kernel
  obtain ⟨failures, outcome, after, hrun, -, hstatus, -, hread⟩ :=
    json_errors_are_values harguments rfl rfl (FileTree.empty ["work"])
  rw [hrun] at hfails
  refine ⟨harguments, failures, outcome, after, hrun, hfails, ?_, (hread rfl).1⟩
  rintro rfl
  rw [hfails] at hstatus
  cases hstatus

end FaultTreeExchange
