import FaultTreeExchange.Proofs.Batch

/-!
# Runs

A run that writes trees to files is a sequence of turns. The check of files, and the printing of a
tree, read files and leave all of them as they are. What becomes of a file there depends on its own
content only.
-/

namespace FaultTreeExchange.CommandLine

variable {settings : Settings} {files : FileTree} {arguments : List String}

/-! ### Runs that write files -/

lemma exists_turns_serve {request : TranslateRequest} (settings : Settings)
    (hdestination : request.destination ≠ .standardOutput) (before : FileTree) :
    ∃ turns after, turns.map Turn.input = request.files ∧ Turns request [] before turns after ∧
      serve FileTree.access (.translate settings request) before =
        (translateOutcome settings (turns.map Turn.result), after) := by
  have hclaims : Claims [] [] := fun _ => rfl
  obtain ⟨turns, after, hinputs, hturns, hrun⟩ := exists_turns request.files before hclaims
  refine ⟨turns, after, hinputs, hturns, ?_⟩
  rw [serve_eq _ settings hdestination, bind_apply, hrun]
  rfl

lemma exists_turns_run {request : TranslateRequest}
    (harguments : readArguments arguments = .ok (.translate settings request))
    (hdestination : request.destination ≠ .standardOutput) (before : FileTree) :
    ∃ turns after, turns.map Turn.input = request.files ∧ Turns request [] before turns after ∧
      run FileTree.access arguments before =
        (translateOutcome settings (turns.map Turn.result), after) := by
  unfold run
  rw [harguments]
  exact exists_turns_serve settings hdestination before

/-! ### Runs that write no files -/

/-- Steps that leave the files as they are all see the same files. -/
lemma mapM_apply {α β : Type} {step : α → StateM FileTree β} {given : α → β} (items : List α)
    (h : ∀ item, step item files = (given item, files)) :
    items.mapM step files = (items.map given, files) := by
  induction items with
  | nil => rfl
  | cons item rest ih =>
    rw [List.mapM_cons, bind_apply, h, bind_apply, ih]
    rfl

/-- What the check of a file yields. -/
def checked (multiTop : Bool) (files : FileTree) (file : Path) : CheckResult :=
  ⟨file, (translateFile file (files.readText file) multiTop).map FaultTree.summary⟩

/-- What becomes of a file whose tree is to be printed. -/
def printed (request : TranslateRequest) (files : FileTree) (input : Path) : TranslateResult :=
  match translateFile input (files.readText input) request.multiTop with
  | .ok tree => .printed (request.exchangeText tree)
  | .error error => .failed error

lemma printInput_access (request : TranslateRequest) (input : Path) :
    printInput FileTree.access request input files = (printed request files input, files) := by
  have hread : FileTree.access.read input files = (files.readText input, files) := rfl
  unfold printInput printed
  rw [bind_apply, hread, translatedText_eq]
  cases translateFile input (files.readText input) request.multiTop <;> rfl

theorem run_check {request : CheckRequest}
    (harguments : readArguments arguments = .ok (.check settings request)) (files : FileTree) :
    run FileTree.access arguments files =
      (checkOutcome settings (request.files.map (checked request.multiTop files)), files) := by
  have hfile : ∀ file, checkFile FileTree.access request.multiTop file files =
      (checked request.multiTop files file, files) := fun _ => rfl
  unfold run
  rw [harguments]
  dsimp only [serve]
  unfold runCheck
  rw [bind_apply, mapM_apply request.files hfile]
  rfl

lemma run_several {request : TranslateRequest}
    (harguments : readArguments arguments = .ok (.translate settings request))
    (hdestination : request.destination = .standardOutput) (hseveral : 1 < request.files.length)
    (files : FileTree) :
    run FileTree.access arguments files =
      (severalInputsOutcome settings request.files.length, files) := by
  unfold run
  rw [harguments]
  dsimp only [serve]
  unfold runTranslate
  rw [hdestination]
  dsimp only
  rw [if_pos hseveral]
  rfl

theorem run_print {request : TranslateRequest}
    (harguments : readArguments arguments = .ok (.translate settings request))
    (hdestination : request.destination = .standardOutput) (hsingle : ¬1 < request.files.length)
    (files : FileTree) :
    run FileTree.access arguments files =
      (translateOutcome settings (request.files.map (printed request files)), files) := by
  unfold run
  rw [harguments]
  dsimp only [serve]
  unfold runTranslate
  rw [hdestination]
  dsimp only
  rw [if_neg hsingle, bind_apply, mapM_apply request.files (printInput_access request)]
  rfl

end FaultTreeExchange.CommandLine
