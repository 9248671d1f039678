import FaultTreeExchange.CommandLine.Run
import FaultTreeExchange.FileTree.Changes
import FaultTreeExchange.Proofs.Turns

/-!
# Batches

What the command that translates files does with a list of inputs and a file tree: which inputs it
reads, which files it writes, and what it reports.
-/

namespace FaultTreeExchange

namespace CommandLine

variable {request : TranslateRequest} {earlier : List Path} {taken : List (String × Path)}
  {input output : Path} {stem : String} {files : FileTree}

/-! ### Refused inputs -/

/-- The table holds the first of the earlier inputs with each stem. -/
def Claims (taken : List (String × Path)) (earlier : List Path) : Prop :=
  ∀ stem, taken.lookup stem = earlier.find? fun input => input.stem? = some stem

lemma Claims.refused_iff (h : Claims taken earlier) (hstem : input.stem? = some stem) :
    Refused earlier input ↔ ∃ first, taken.lookup stem = some first := by
  unfold Refused
  rw [h stem, ← Option.isSome_iff_exists, List.find?_isSome, hstem]
  simp

lemma Claims.append_of_refused (h : Claims taken earlier) (hrefused : Refused earlier input) :
    Claims taken (earlier ++ [input]) := by
  intro stem
  rw [h stem, List.find?_append]
  cases hfind : earlier.find? fun input => input.stem? = some stem with
  | some first => rfl
  | none =>
    have hne : input.stem? ≠ some stem := by
      intro heq
      rcases hrefused with hnone | ⟨other, hother, hsame⟩
      · rw [heq] at hnone
        cases hnone
      · have hother := List.find?_eq_none.mp hfind other hother
        simp [hsame, heq] at hother
    simp [hne]

lemma Claims.cons (h : Claims taken earlier) (hstem : input.stem? = some stem)
    (haccepted : ¬Refused earlier input) :
    Claims ((stem, input) :: taken) (earlier ++ [input]) := by
  intro other
  rw [List.lookup_cons, List.find?_append, ← h other]
  by_cases heq : other = stem
  · subst heq
    have hnone : taken.lookup other = none := by
      rw [Option.eq_none_iff_forall_ne_some]
      exact fun first hfirst => haccepted ((h.refused_iff hstem).mpr ⟨first, hfirst⟩)
    simp [hnone, hstem]
  · have hne : some stem ≠ some other := fun hsome => heq (Option.some.inj hsome).symm
    simp [beq_eq_false_iff_ne.mpr heq, hstem, Ne.symm heq]

lemma writeInputs_cons (request : TranslateRequest) (input : Path) (rest : List Path)
    (h : Claims taken earlier) :
    (Refused earlier input ∧ ∃ result,
      (∀ files, Turn.Leaves request earlier ⟨input, files, result⟩ files) ∧
      ∀ {m : Type → Type} [Monad m] (access : FileAccess m),
        writeInputs access request request.directory? taken (input :: rest) =
          writeInputs access request request.directory? taken rest >>= fun results =>
            pure (result :: results)) ∨
    (¬Refused earlier input ∧ ∃ stem, input.stem? = some stem ∧
      ∀ {m : Type → Type} [Monad m] (access : FileAccess m),
        writeInputs access request request.directory? taken (input :: rest) =
          writeInput access request request.directory? (request.outputPath stem) input >>=
            fun result =>
              writeInputs access request request.directory? ((stem, input) :: taken) rest >>=
                fun results => pure (result :: results)) := by
  cases hstem : input.stem? with
  | none =>
    refine .inl ⟨.inl hstem, .nameless input, fun files => .nameless input files hstem, ?_⟩
    intro m _ access
    rw [writeInputs, hstem]
  | some stem =>
    cases hlookup : taken.lookup stem with
    | some first =>
      have hfirst := (h stem).symm.trans hlookup
      refine .inl ⟨(h.refused_iff hstem).mpr ⟨first, hlookup⟩,
        .taken input (request.outputPath stem) first,
        fun files => .taken input files stem first hstem hfirst, ?_⟩
      intro m _ access
      rw [writeInputs, hstem]
      dsimp only
      rw [hlookup]
      rfl
    | none =>
      have haccepted : ¬Refused earlier input := by
        rw [h.refused_iff hstem, hlookup]
        simp
      refine .inr ⟨haccepted, stem, rfl, ?_⟩
      intro m _ access
      rw [writeInputs, hstem]
      dsimp only
      rw [hlookup]
      rfl

/-! ### Inputs that are read -/

/-- Access to files that also lists the paths that are read. -/
def FileAccess.recorded {m : Type → Type} [Monad m] (access : FileAccess m) :
    FileAccess (StateT (List Path) m) where
  read path := do
    modify (· ++ [path])
    StateT.lift (access.read path)
  makeDirectories path := StateT.lift (access.makeDirectories path)
  write path text := StateT.lift (access.write path text)

/-- The second program does the same as the first one, and notes the given paths. -/
def Notes {α : Type} (paths : List Path) (program : StateM FileTree α)
    (recorded : StateT (List Path) (StateM FileTree) α) : Prop :=
  ∀ reads files, recorded reads files = (((program files).1, reads ++ paths), (program files).2)

section Notes

variable {α β : Type} {paths later : List Path} {first : StateM FileTree α}
  {first' : StateT (List Path) (StateM FileTree) α} {next : α → StateM FileTree β}
  {next' : α → StateT (List Path) (StateM FileTree) β}

lemma Notes.pure (value : α) : Notes [] (pure value) (pure value) := by
  intro reads files
  rw [List.append_nil]
  rfl

lemma Notes.lift (program : StateM FileTree α) : Notes [] program (StateT.lift program) := by
  intro reads files
  rw [List.append_nil]
  rfl

lemma Notes.bind (hfirst : Notes paths first first')
    (hnext : ∀ value, Notes later (next value) (next' value)) :
    Notes (paths ++ later) (first >>= next) (first' >>= next') := by
  intro reads files
  have hstep := hnext (first files).1 (reads ++ paths) (first files).2
  rw [List.append_assoc] at hstep
  change next' (first' reads files).1.1 (first' reads files).1.2 (first' reads files).2 = _
  rw [hfirst]
  exact hstep

lemma notes_read (path : Path) :
    Notes [path] (FileTree.access.read path) (FileTree.access.recorded.read path) :=
  fun _ _ => rfl

end Notes

lemma notes_writeInput (request : TranslateRequest) (directory : Option Path)
    (output input : Path) :
    Notes [input] (writeInput FileTree.access request directory output input)
      (writeInput FileTree.access.recorded request directory output input) := by
  unfold writeInput
  refine (notes_read input).bind fun contents => ?_
  cases translatedText request input contents with
  | error error => exact .pure _
  | ok text =>
    cases directory
    case' none => refine (Notes.pure _).bind fun made => ?_
    case' some directory => refine (Notes.lift _).bind fun made => ?_
    all_goals
      cases made with
      | error reason => exact .pure _
      | ok =>
        refine (Notes.lift _).bind fun result => ?_
        cases result <;> exact .pure _

instance (earlier : List Path) (input : Path) : Decidable (Refused earlier input) :=
  inferInstanceAs (Decidable (_ ∨ _))

/-- The inputs that are not refused. -/
def accepted (earlier : List Path) : List Path → List Path
  | [] => []
  | input :: rest =>
    if Refused earlier input then accepted (earlier ++ [input]) rest
    else input :: accepted (earlier ++ [input]) rest

lemma notes_writeInputs (request : TranslateRequest) (inputs : List Path)
    (h : Claims taken earlier) :
    Notes (accepted earlier inputs)
      (writeInputs FileTree.access request request.directory? taken inputs)
      (writeInputs FileTree.access.recorded request request.directory? taken inputs) := by
  induction inputs generalizing taken earlier with
  | nil => exact .pure _
  | cons input rest ih =>
    unfold accepted
    rw [← List.append_nil (accepted _ rest)]
    obtain ⟨hrefused, _, -, hrun⟩ | ⟨haccepted, _, hstem, hrun⟩ :=
      writeInputs_cons request input rest h
    · rw [if_pos hrefused, hrun, hrun]
      exact (ih (h.append_of_refused hrefused)).bind fun _ => .pure _
    · rw [if_neg haccepted, hrun, hrun]
      exact (notes_writeInput request _ _ input).bind fun _ =>
        (ih (h.cons hstem haccepted)).bind fun _ => .pure _

/-! ### Turns of a run -/

lemma translateFile_eq_ok_iff {contents : Except String String} {multiTop : Bool}
    {tree : FaultTree} :
    translateFile input contents multiTop = .ok tree ↔
      ∃ source, contents = .ok source ∧ translate source input.text multiTop = .ok tree := by
  unfold translateFile
  cases contents with
  | error reason => simp
  | ok source => cases htranslate : translate source input.text multiTop <;> simp [htranslate]

lemma translatedText_eq (request : TranslateRequest) (input : Path)
    (contents : Except String String) :
    translatedText request input contents =
      (translateFile input contents request.multiTop).map request.exchangeText := by
  unfold translatedText TranslateRequest.exchangeText
  cases request.defaultProbability <;> rfl

/-- What becomes of an input that is not refused, and the files after it. -/
def delivered (request : TranslateRequest) (output input : Path) (files : FileTree) :
    TranslateResult × FileTree :=
  match translateFile input (files.readText input) request.multiTop with
  | .error error => (.failed error, files)
  | .ok tree =>
    match files.deliver request.directory? output (request.exchangeText tree) with
    | (.error reason, next) => (.unwritten output reason, next)
    | (.ok _, next) => (.written input output, next)

lemma leaves_delivered (hstem : input.stem? = some stem) (haccepted : ¬Refused earlier input)
    (files : FileTree) :
    Turn.Leaves request earlier
      ⟨input, files, (delivered request (request.outputPath stem) input files).1⟩
      (delivered request (request.outputPath stem) input files).2 := by
  unfold delivered
  cases htranslate : translateFile input (files.readText input) request.multiTop with
  | error error => exact .failed input files error haccepted htranslate
  | ok tree =>
    dsimp only
    cases hdeliver : files.deliver request.directory? (request.outputPath stem)
        (request.exchangeText tree) with
    | mk result next =>
      cases result with
      | error reason =>
        exact .unwritten input files next stem tree reason hstem haccepted htranslate hdeliver
      | ok => exact .written input files next stem tree hstem haccepted htranslate hdeliver

lemma pure_apply {α : Type} (value : α) :
    (pure value : StateM FileTree α) files = (value, files) := rfl

lemma bind_apply {α β : Type} (first : StateM FileTree α) (next : α → StateM FileTree β) :
    (first >>= next) files = next (first files).1 (first files).2 := rfl

lemma writeInput_access :
    writeInput FileTree.access request request.directory? output input files =
      delivered request output input files := by
  have hread : FileTree.access.read input files = (files.readText input, files) := rfl
  unfold writeInput delivered FileTree.deliver
  rw [bind_apply, hread, translatedText_eq]
  cases translateFile input (files.readText input) request.multiTop with
  | error error => rfl
  | ok tree =>
    have hwrite : ∀ made : FileTree, FileTree.access.write output (request.exchangeText tree) made =
        made.writeOr output (request.exchangeText tree) := fun _ => rfl
    dsimp only [Except.map]
    cases request.directory? with
    | none =>
      dsimp only
      rw [bind_apply, pure_apply]
      dsimp only
      rw [bind_apply, hwrite]
      cases files.writeOr output (request.exchangeText tree) with
      | mk result next => cases result <;> rfl
    | some directory =>
      have hmake : FileTree.access.makeDirectories directory files =
          files.makeDirectoriesOr directory := rfl
      dsimp only
      rw [bind_apply, hmake]
      cases files.makeDirectoriesOr directory with
      | mk result made =>
        cases result with
        | error reason => rfl
        | ok =>
          dsimp only
          rw [bind_apply, hwrite]
          cases made.writeOr output (request.exchangeText tree) with
          | mk result next => cases result <;> rfl

theorem exists_turns (inputs : List Path) (files : FileTree) (h : Claims taken earlier) :
    ∃ turns after, turns.map Turn.input = inputs ∧ Turns request earlier files turns after ∧
      writeInputs FileTree.access request request.directory? taken inputs files =
        (turns.map Turn.result, after) := by
  induction inputs generalizing taken earlier files with
  | nil => exact ⟨[], files, rfl, .nil earlier files, rfl⟩
  | cons input rest ih =>
    obtain ⟨hrefused, result, hleaves, hrun⟩ | ⟨haccepted, stem, hstem, hrun⟩ :=
      writeInputs_cons request input rest h
    · obtain ⟨turns, after, rfl, hturns, hrest⟩ := ih files (h.append_of_refused hrefused)
      refine ⟨⟨input, files, result⟩ :: turns, after, rfl, .cons (hleaves files) hturns, ?_⟩
      rw [hrun, bind_apply, hrest]
      rfl
    · have hleaves : Turn.Leaves request earlier _ _ := leaves_delivered hstem haccepted files
      obtain ⟨turns, after, rfl, hturns, hrest⟩ := ih _ (h.cons hstem haccepted)
      refine ⟨_ :: turns, after, rfl, .cons hleaves hturns, ?_⟩
      rw [hrun, bind_apply, writeInput_access, bind_apply, hrest]
      rfl

end CommandLine

open CommandLine

/-! ### Reports of a run -/

/-- What is reported of the input, if it has got no file. -/
def Turn.diagnostic? (turn : Turn) : Option String :=
  match turn.result with
  | .nameless input => some s!"{input.text}: cannot derive an output file name"
  | .taken input output first =>
    some s!"{input.text}: output {output.text} is already taken by {first.text}"
  | .failed error => some error.display
  | .unwritten output reason => some s!"cannot write {output.text}: {reason}"
  | .written _ _ => none
  | .printed _ => none

/-- The input and its file, if it has got one. -/
def Turn.pair? (turn : Turn) : Option (Path × Path) :=
  turn.output?.map fun output => (turn.input, output)

/-- The list of inputs and their files. -/
def CommandLine.listing (format : OutputFormat) (pairs : List (Path × Path)) : String :=
  match format, pairs with
  | _, [] => ""
  | .text, pairs =>
    String.join (pairs.map fun (input, output) => asLine s!"{input.text} -> {output.text}")
  | .json, pairs =>
    asLine (Json.array (pairs.map fun (input, output) =>
      .object [("file", .string input.text), ("output", .string output.text)])).pretty

lemma join_map_getD {α : Type} (text? : α → Option String) (items : List α) :
    String.join (items.map fun item => (text? item).getD "") =
      String.join (items.filterMap text?) := by
  induction items with
  | nil => rfl
  | cons item rest ih =>
    rw [List.map_cons, String.join_cons, ih, List.filterMap_cons]
    cases text? item with
    | none => exact String.empty_append
    | some text =>
      rw [String.join_cons]
      rfl

section Reports

variable {settings : Settings} {request : TranslateRequest} {earlier : List Path} {turn : Turn}
  {turns : List Turn} {files next after : FileTree}

lemma Turn.report_eq (hquiet : settings.quiet = false) (hformat : settings.format = .text)
    (turn : Turn) :
    turn.result.report settings = (turn.diagnostic?.map asLine).getD "" := by
  unfold TranslateResult.report diagnostic? Settings.reportMessage Settings.reportFileError
  rw [hquiet, hformat]
  cases turn.result <;> rfl

lemma Turn.Leaves.diagnostic?_eq_none_iff (h : turn.Leaves request earlier next) :
    turn.diagnostic? = none ↔ turn.output?.isSome := by
  cases h with
  | nameless => exact iff_of_false nofun nofun
  | taken => exact iff_of_false nofun nofun
  | failed => exact iff_of_false nofun nofun
  | unwritten => exact iff_of_false nofun nofun
  | written => exact iff_of_true rfl rfl

lemma Turn.Leaves.succeeded_eq (h : turn.Leaves request earlier next) :
    turn.result.succeeded = turn.output?.isSome := by
  cases h <;> rfl

lemma Turn.Leaves.printedText_eq (h : turn.Leaves request earlier next) :
    turn.result.printedText = "" := by
  cases h <;> rfl

lemma Turn.Leaves.line?_eq (h : turn.Leaves request earlier next) :
    turn.result.line? =
      turn.pair?.map fun (input, output) => asLine s!"{input.text} -> {output.text}" := by
  cases h <;> rfl

lemma Turn.Leaves.record?_eq (h : turn.Leaves request earlier next) :
    turn.result.record? = turn.pair?.map fun (input, output) =>
      .object [("file", .string input.text), ("output", .string output.text)] := by
  cases h <;> rfl

lemma Turns.exists_leaves_of_mem (h : Turns request earlier files turns after)
    (hturn : turn ∈ turns) : ∃ before next, turn.Leaves request before next := by
  obtain ⟨previous, later, rfl⟩ := List.append_of_mem hturn
  exact ⟨_, h.exists_leaves⟩

lemma Turns.accepted_eq (h : Turns request earlier files turns after) :
    accepted earlier (turns.map Turn.input) =
      (turns.filter fun turn => !turn.refused).map Turn.input := by
  induction h with
  | nil => rfl
  | @cons earlier turn next after turns hturn _ ih =>
    rw [List.map_cons, accepted, ih]
    cases hrefused : turn.refused with
    | true =>
      rw [if_pos (hturn.refused_iff.mp hrefused), List.filter_cons_of_neg (by simp [hrefused])]
    | false =>
      have hnot : ¬Refused earlier turn.input := by
        rw [← hturn.refused_iff, hrefused]
        exact Bool.false_ne_true
      rw [if_neg hnot, List.filter_cons_of_pos (by simp [hrefused]), List.map_cons]

lemma Turns.succeeded_eq (h : Turns request earlier files turns after) :
    (turns.map Turn.result).all TranslateResult.succeeded =
      turns.all fun turn => turn.output?.isSome := by
  induction h with
  | nil => rfl
  | cons hturn _ ih => rw [List.map_cons, List.all_cons, List.all_cons, hturn.succeeded_eq, ih]

lemma Turns.printedTexts_eq (h : Turns request earlier files turns after) :
    String.join ((turns.map Turn.result).map TranslateResult.printedText) = "" := by
  induction h with
  | nil => rfl
  | cons hturn _ ih =>
    rw [List.map_cons, List.map_cons, String.join_cons, hturn.printedText_eq, ih]
    rfl

lemma Turns.writtenList_eq (h : Turns request earlier files turns after)
    (hquiet : settings.quiet = false) :
    writtenList settings (turns.map Turn.result) =
      listing settings.format (turns.filterMap Turn.pair?) := by
  have hlines : (turns.map Turn.result).filterMap TranslateResult.line? =
      (turns.filterMap Turn.pair?).map fun (input, output) =>
        asLine s!"{input.text} -> {output.text}" := by
    rw [List.filterMap_map, List.map_filterMap]
    refine List.filterMap_congr fun turn hturn => ?_
    obtain ⟨_, _, hleaves⟩ := h.exists_leaves_of_mem hturn
    exact hleaves.line?_eq
  have hrecords : (turns.map Turn.result).filterMap TranslateResult.record? =
      (turns.filterMap Turn.pair?).map fun (input, output) =>
        .object [("file", .string input.text), ("output", .string output.text)] := by
    rw [List.filterMap_map, List.map_filterMap]
    refine List.filterMap_congr fun turn hturn => ?_
    obtain ⟨_, _, hleaves⟩ := h.exists_leaves_of_mem hturn
    exact hleaves.record?_eq
  unfold writtenList listing
  rw [hquiet, hlines, hrecords]
  cases turns.filterMap Turn.pair? with
  | nil => cases settings.format <;> rfl
  | cons pair pairs => cases settings.format <;> rfl

lemma reports_eq (hquiet : settings.quiet = false) (hformat : settings.format = .text)
    (turns : List Turn) :
    String.join ((turns.map Turn.result).map (TranslateResult.report settings)) =
      String.join ((turns.filterMap Turn.diagnostic?).map asLine) := by
  rw [List.map_filterMap, ← join_map_getD, List.map_map]
  exact congrArg String.join (List.map_congr_left fun turn _ => turn.report_eq hquiet hformat)

end Reports

/-! ### Batches -/

/-- What a run on a list of inputs does: the inputs have their turns in order, and their files and
the reports are those of their turns. -/
structure Batch (settings : Settings) (request : TranslateRequest) (before : FileTree)
    (turns : List Turn) (outcome : Outcome) (after : FileTree) : Prop where
  inputs : turns.map Turn.input = request.files
  sequence : Turns request [] before turns after
  /-- Only the inputs before it decide whether an input is refused, not what has become of them. -/
  refused : ∀ previous turn later, turns = previous ++ turn :: later →
    (turn.refused ↔ Refused (previous.map Turn.input) turn.input)
  /-- What is written for other inputs does not get into an input that is read. -/
  own : ∀ turn ∈ turns, turn.refused = false →
    ∀ location, turn.files.locate turn.input = .ok location →
      ∀ content, turn.files.node? location = some (.file content) ↔
        before.node? location = some (.file content)
  readable : ∀ turn ∈ turns, turn.refused = false → ∀ content,
    before.readBytes turn.input = .ok content → turn.files.readBytes turn.input = .ok content
  untouched : ∀ location,
    (∀ turn ∈ turns, ∀ output, turn.output? = some output → after.locate output ≠ .ok location) →
      ∀ content, after.node? location = some (.file content) ↔
        before.node? location = some (.file content)
  written : ∀ turn ∈ turns, ∀ output, turn.output? = some output → turn.refused = false ∧
    ∃ stem tree, turn.input.stem? = some stem ∧ output = request.outputPath stem ∧
      translateFile turn.input (turn.files.readText turn.input) request.multiTop = .ok tree ∧
      after.readBytes output = .ok (Bytes.ofText (request.exchangeText tree))
  status : outcome.status = if turns.all fun turn => turn.output?.isSome then 0 else 1
  listed : settings.quiet = false →
    outcome.output = listing settings.format (turns.filterMap Turn.pair?)
  reported : settings.quiet = false → settings.format = .text →
    outcome.errors = String.join ((turns.filterMap Turn.diagnostic?).map asLine)
  failing : ∀ turn ∈ turns, turn.diagnostic? = none ↔ turn.output?.isSome

variable {settings : Settings} {request : TranslateRequest} {before after : FileTree}
  {turns : List Turn}

lemma batch_of_turns (hinputs : turns.map Turn.input = request.files)
    (h : Turns request [] before turns after) :
    Batch settings request before turns
      (translateOutcome settings (turns.map Turn.result)) after where
  inputs := hinputs
  sequence := h
  refused := by
    rintro previous turn later rfl
    obtain ⟨next, hleaves⟩ := h.exists_leaves
    exact hleaves.refused_iff
  own := fun turn hturn haccepted location hlocate content =>
    h.node?_input_iff hturn haccepted hlocate
  readable := fun turn hturn haccepted content => h.readBytes_input hturn haccepted
  untouched := fun location hlocation content => h.node?_file_iff hlocation
  written := by
    intro turn hturn output houtput
    obtain ⟨stem, tree, hstem, hpath, htree⟩ := h.exists_of_output? hturn houtput
    exact ⟨Turn.refused_of_output? houtput, stem, tree, hstem, hpath, htree,
      h.readBytes_output hturn houtput htree⟩
  status := by
    unfold translateOutcome
    rw [h.succeeded_eq]
  listed := by
    intro hquiet
    unfold translateOutcome
    dsimp only
    rw [h.printedTexts_eq, h.writtenList_eq hquiet]
    exact String.empty_append
  reported := fun hquiet hformat => reports_eq hquiet hformat turns
  failing := by
    intro turn hturn
    obtain ⟨_, _, hleaves⟩ := h.exists_leaves_of_mem hturn
    exact hleaves.diagnostic?_eq_none_iff

lemma serve_eq {m : Type → Type} [Monad m] (access : FileAccess m) (settings : Settings)
    (hdestination : request.destination ≠ .standardOutput) :
    serve access (.translate settings request) =
      writeInputs access request request.directory? [] request.files >>= fun results =>
        pure (translateOutcome settings results) := by
  dsimp only [serve]
  unfold runTranslate TranslateRequest.directory?
  cases hcase : request.destination with
  | standardOutput => exact absurd hcase hdestination
  | workingDirectory => rfl
  | directory path => rfl

lemma run_eq {m : Type → Type} [Monad m] (access : FileAccess m) {arguments : List String}
    (harguments : readArguments arguments = .ok (.translate settings request))
    (hdestination : request.destination ≠ .standardOutput) :
    run access arguments =
      writeInputs access request request.directory? [] request.files >>= fun results =>
        pure (translateOutcome settings results) := by
  unfold run
  rw [harguments]
  exact serve_eq access settings hdestination

/-- A run that writes files to a tree of files reads the inputs that are not refused, each in its
turn, and does with every input what its turn says. -/
theorem run_translate_files {arguments : List String}
    (harguments : readArguments arguments = .ok (.translate settings request))
    (hdestination : request.destination ≠ .standardOutput) (before : FileTree) :
    ∃ turns outcome after, run FileTree.access arguments before = (outcome, after) ∧
      run FileTree.access.recorded arguments [] before =
        ((outcome, (turns.filter fun turn => !turn.refused).map Turn.input), after) ∧
      Batch settings request before turns outcome after := by
  have hclaims : Claims [] [] := fun _ => rfl
  obtain ⟨turns, after, hinputs, hturns, hrun⟩ := exists_turns request.files before hclaims
  have hplain : run FileTree.access arguments before =
      (translateOutcome settings (turns.map Turn.result), after) := by
    rw [run_eq _ harguments hdestination, bind_apply, hrun]
    rfl
  have hnotes : Notes (accepted [] request.files ++ []) (run FileTree.access arguments)
      (run FileTree.access.recorded arguments) := by
    rw [run_eq _ harguments hdestination, run_eq _ harguments hdestination]
    exact (notes_writeInputs request request.files hclaims).bind fun _ => .pure _
  refine ⟨turns, _, after, hplain, ?_, batch_of_turns hinputs hturns⟩
  rw [hnotes [] before, hplain, ← hinputs, hturns.accepted_eq, List.append_nil, List.nil_append]

def sampleRequest : TranslateRequest where
  files := [⟨"a.txt"⟩, ⟨"old/a.txt"⟩, ⟨"b.txt"⟩, ⟨".."⟩]
  multiTop := false
  destination := .directory ⟨"out"⟩
  defaultProbability := Binary64.ofText? "0.5"

def sampleFiles : FileTree :=
  (FileTree.empty ["work"]).plantAll
    [(⟨"a.txt"⟩, .file (Bytes.ofText "Pumps\ntop := a\n")),
      (⟨"old/a.txt"⟩, .file (Bytes.ofText "Pumps\ntop := ~a\n")),
      (⟨"b.txt"⟩, .file (Bytes.ofText "Valves\ntop := a &\n"))]

def sampleArguments : List String :=
  ["translate", "a.txt", "old/a.txt", "--out-dir=out", "--default-probability", "0.5", "b.txt", ".."]

/-- The text that is written for the first input. -/
def sampleOutput : String :=
  "<?xml version=\"1.0\" encoding=\"UTF-8\"?>\n<opsa-mef>\n" ++
  "  <define-fault-tree name=\"Pumps\">\n    <define-gate name=\"top\">\n" ++
  "      <basic-event name=\"a\"/>\n    </define-gate>\n  </define-fault-tree>\n" ++
  "  <model-data>\n    <define-basic-event name=\"a\">\n      <float value=\"0.5\"/>\n" ++
  "    </define-basic-event>\n  </model-data>\n</opsa-mef>\n"

/-- Of four inputs two are refused: the second has the stem of the first, and the last has none. The
third is read and has no tree, so one file is written. -/
theorem sample_translate_files :
    readArguments sampleArguments = .ok (.translate ⟨.text, false⟩ sampleRequest) ∧
      sampleRequest.destination ≠ .standardOutput ∧
      ∃ turns outcome after, run FileTree.access sampleArguments sampleFiles = (outcome, after) ∧
        run FileTree.access.recorded sampleArguments [] sampleFiles =
          ((outcome, (turns.filter fun turn => !turn.refused).map Turn.input), after) ∧
        Batch ⟨.text, false⟩ sampleRequest sampleFiles turns outcome after ∧
        (turns.filter fun turn => !turn.refused).map Turn.input = [⟨"a.txt"⟩, ⟨"b.txt"⟩] ∧
        outcome = ⟨1, "a.txt -> out/a.xml\n",
          "old/a.txt: output out/a.xml is already taken by a.txt\n" ++
          "b.txt:2: parsing error: expected event name, got end of line\n" ++
          "..: cannot derive an output file name\n"⟩ ∧
        after.readBytes ⟨"out/a.xml"⟩ = .ok (Bytes.ofText sampleOutput) := by
  have harguments : readArguments sampleArguments =
      .ok (.translate ⟨.text, false⟩ sampleRequest) := by decide +kernel
  have hdestination : sampleRequest.destination ≠ .standardOutput := by decide
  have hresult : ∃ result, run FileTree.access.recorded sampleArguments [] sampleFiles = result ∧
      result.1.2 = [⟨"a.txt"⟩, ⟨"b.txt"⟩] ∧
      result.1.1 = ⟨1, "a.txt -> out/a.xml\n",
        "old/a.txt: output out/a.xml is already taken by a.txt\n" ++
        "b.txt:2: parsing error: expected event name, got end of line\n" ++
        "..: cannot derive an output file name\n"⟩ ∧
      result.2.readBytes ⟨"out/a.xml"⟩ = .ok (Bytes.ofText sampleOutput) :=
    ⟨_, rfl, by decide +kernel⟩
  obtain ⟨turns, outcome, after, hrun, hrecorded, hbatch⟩ :=
    run_translate_files harguments hdestination sampleFiles
  obtain ⟨result, hsame, hfound⟩ := hresult
  rw [hrecorded] at hsame
  subst hsame
  exact ⟨harguments, hdestination, turns, outcome, after, hrun, hrecorded, hbatch, hfound⟩

end FaultTreeExchange
