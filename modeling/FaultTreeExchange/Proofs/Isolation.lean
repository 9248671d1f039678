import FaultTreeExchange.Proofs.Acceptance
import FaultTreeExchange.Proofs.DirectoryMaking
import FaultTreeExchange.Proofs.Runs

/-!
# Inputs on their own

An input of a batch finds other files than it would find on its own: earlier inputs have had their
turns. All that they can leave is the directory for the files, or a part of the way to it, and their
own files in it. So the input is translated as on its own, and it gets the same file, or fails for the
same reason. Only where the directory cannot be made, the second attempt may fail for another reason
than the first one.
-/

namespace FaultTreeExchange

open CommandLine

namespace FileTree

variable {tree made files next : FileTree} {directory output : Path} {name text : String}
  {location : Location}

/-! ### Entries of a directory that exists -/

lemma Enters.walk_append {segments : List (List Char)} (h : tree.Enters location segments)
    (rest : List (List Char)) :
    tree.walk location (segments ++ rest) = tree.walk (segments.foldl enter location) rest := by
  induction segments generalizing location with
  | nil => rfl
  | cons segment segments ih =>
    obtain ⟨hdirectory, hname, hrest⟩ := h
    rw [List.cons_append, walk, checkDirectory_eq_ok_iff.mpr hdirectory, hname]
    exact ih hrest

lemma enters_of_walk_append {segments : List (List Char)} {segment : List Char} {last : Location}
    (h : tree.walk location (segments ++ [segment]) = .ok last) : tree.Enters location segments := by
  induction segments generalizing location with
  | nil => exact (walk_cons_eq_ok_iff.mp h).1
  | cons first rest ih =>
    obtain ⟨hdirectory, hname, hrest⟩ := walk_cons_eq_ok_iff.mp h
    exact ⟨hdirectory, hname, ih hrest⟩

lemma enters_iff_of_front {segments front : List (List Char)}
    (h : segments = front ∨ segments = front ++ [[]]) :
    tree.Enters location segments ↔ tree.Enters location front := by
  have hname : checkName [] = .ok () := by decide
  rcases h with rfl | rfl
  · exact Iff.rfl
  · rw [enters_append_iff]
    exact ⟨And.left, fun h => ⟨h, h.node?_foldl, hname, h.node?_foldl⟩⟩

/-- In a directory that exists, only its length can keep a name from leading to its location. -/
lemma locate_join (h : IsEntry name)
    (henters : tree.Enters (tree.startOf directory) directory.segments) :
    tree.locate (directory.join name) =
      checkPath (directory.join name) >>= fun _ => checkName name.toList >>= fun _ =>
        .ok (tree.directoryLocation directory ++ [name]) := by
  obtain ⟨front, hjoin, hdirectory⟩ := exists_segments_join h directory
  have hfront := (enters_iff_of_front hdirectory).mp henters
  have hnode := henters.node?_foldl
  unfold locate directoryLocation
  rw [startOf_join h, hjoin, hfront.walk_append, ← foldl_enter_of_front hdirectory, walk,
    checkDirectory_eq_ok_iff.mpr hnode, enter_of_isEntry h]
  rfl

lemma enters_of_locate_join (h : IsEntry name)
    (hlocate : tree.locate (directory.join name) = .ok location) :
    tree.Enters (tree.startOf directory) directory.segments := by
  obtain ⟨front, hjoin, hdirectory⟩ := exists_segments_join h directory
  obtain ⟨-, hwalk⟩ := locate_eq_ok_iff.mp hlocate
  rw [startOf_join h, hjoin] at hwalk
  exact (enters_iff_of_front hdirectory).mpr (enters_of_walk_append hwalk)

/-! ### Files in the directory -/

/-- The second tree has the same directories as the first one. If there is any other difference, the
given directory is one of them. -/
structure Filled (directory : Path) (made files : FileTree) : Prop where
  workingDirectory : files.workingDirectory = made.workingDirectory
  directory_iff : ∀ location,
    files.node? location = some .directory ↔ made.node? location = some .directory
  entered : files = made ∨ made.Enters (made.startOf directory) directory.segments

lemma Filled.refl (directory : Path) (made : FileTree) : Filled directory made made :=
  ⟨rfl, fun _ => Iff.rfl, .inl rfl⟩

lemma Filled.keepsDirectories (h : Filled directory made files) : made.KeepsDirectories files :=
  ⟨h.workingDirectory, fun location => (h.directory_iff location).mpr⟩

lemma Filled.keepsDirectories_back (h : Filled directory made files) :
    files.KeepsDirectories made :=
  ⟨h.workingDirectory.symm, fun location => (h.directory_iff location).mp⟩

lemma Filled.put (h : Filled directory made files) (hname : IsEntry name)
    (hlocate : files.locate (directory.join name) = .ok location)
    (hnode : files.node? location ≠ some .directory) (content : Bytes) :
    Filled directory made (files.put location (.file content)) where
  workingDirectory := h.workingDirectory
  directory_iff := by
    intro other
    rw [node?_put]
    split
    · rename_i heq
      rw [heq, ← h.directory_iff]
      exact iff_of_false nofun hnode
    · exact h.directory_iff other
  entered := by
    have henters := h.keepsDirectories_back.enters (enters_of_locate_join hname hlocate)
    rw [← h.keepsDirectories_back.startOf_eq] at henters
    exact .inr henters

lemma Filled.writeOr_snd (h : Filled directory made files) (hname : IsEntry name) (text : String) :
    Filled directory made (files.writeOr (directory.join name) text).2 := by
  rcases files.writeOr_cases (directory.join name) text with
    ⟨reason, hwrite⟩ | ⟨location, hlocate, hnode, hwrite⟩
  · rw [hwrite]
    exact h
  · rw [hwrite]
    exact h.put hname hlocate hnode _

lemma writeOr_fst_of_error {path : Path} {fault : FileFault} (h : tree.locate path = .error fault)
    (text : String) : (tree.writeOr path text).1 = .error fault.message := by
  unfold writeOr write writeBytes
  rw [h]

lemma writeOr_fst_of_ok {path : Path} (h : tree.locate path = .ok location) (text : String) :
    (tree.writeOr path text).1 =
      if tree.node? location = some .directory then .error FileFault.isDirectory.message
      else .ok () := by
  unfold writeOr write writeBytes
  rw [h]
  dsimp only
  cases tree.node? location with
  | none => rfl
  | some node => cases node <;> rfl

/-- Files in the directory do not decide whether another one can be written. -/
lemma Filled.writeOr_fst (h : Filled directory made files) (hname : IsEntry name) (text : String) :
    (files.writeOr (directory.join name) text).1 = (made.writeOr (directory.join name) text).1 := by
  rcases h.entered with heq | henters
  · rw [heq]
  · have hstart := h.keepsDirectories.startOf_eq directory
    have hlocate : files.locate (directory.join name) = made.locate (directory.join name) := by
      rw [locate_join hname henters, locate_join hname (hstart ▸ h.keepsDirectories.enters henters)]
      unfold directoryLocation
      rw [hstart]
    cases hmade : made.locate (directory.join name) with
    | error fault =>
      rw [hmade] at hlocate
      rw [writeOr_fst_of_error hlocate, writeOr_fst_of_error hmade]
    | ok location =>
      rw [hmade] at hlocate
      rw [writeOr_fst_of_ok hlocate, writeOr_fst_of_ok hmade]
      simp only [h.directory_iff]

/-! ### Deliveries -/

/-- The tree with the directory for files, if one is given. -/
def prepare (tree : FileTree) (directory : Option Path) : Except FileFault Unit × FileTree :=
  match directory with
  | none => (.ok (), tree)
  | some directory => tree.makeDirectories directory

lemma deliver_eq (tree : FileTree) (directory : Option Path) (output : Path) (text : String) :
    tree.deliver directory output text =
      match tree.prepare directory with
      | (.error fault, made) => (.error fault.message, made)
      | (.ok _, made) => made.writeOr output text := by
  unfold deliver prepare
  cases directory with
  | none => rfl
  | some directory =>
    dsimp only
    unfold makeDirectoriesOr
    cases tree.makeDirectories directory with
    | mk result made => cases result <;> rfl

lemma prepare_again {directory : Option Path} (h : tree.prepare directory = (.ok (), made))
    (hkeeps : made.KeepsDirectories files) : files.prepare directory = (.ok (), files) := by
  unfold prepare at *
  cases directory with
  | none => rfl
  | some directory => exact makeDirectories_again h hkeeps

lemma prepare_fails_again {directory : Option Path} {fault : FileFault}
    (h : tree.prepare directory = (.error fault, made)) :
    ∃ again, made.prepare directory = (.error again, made) := by
  unfold prepare at *
  cases directory with
  | none => cases h
  | some directory => exact makeDirectories_fails_again h

end FileTree

open FileTree

variable {settings : Settings} {request : TranslateRequest} {earlier : List Path} {turn : Turn}
  {turns : List Turn} {before files next after : FileTree} {input : Path} {stem : String}

/-! ### What an input finds -/

/-- The files that an input of a batch can find: those before the batch, what an attempt to make the
directory has left, or the directory with files in it. -/
inductive Prepared (request : TranslateRequest) (before : FileTree) : FileTree → Prop where
  | untouched : Prepared request before before
  | unmade {fault : FileFault} {made : FileTree}
      (hprepare : before.prepare request.directory? = (.error fault, made)) :
      Prepared request before made
  | filled {made files : FileTree} (hprepare : before.prepare request.directory? = (.ok (), made))
      (hfilled : Filled (request.directory?.getD ⟨""⟩) made files) : Prepared request before files

lemma Prepared.deliver_snd (h : Prepared request before files) (hstem : input.stem? = some stem)
    (text : String) :
    Prepared request before (files.deliver request.directory? (request.outputPath stem) text).2 := by
  have hname := isEntry_outputName hstem
  rw [deliver_eq]
  cases h with
  | untouched =>
    cases hprepare : before.prepare request.directory? with
    | mk result made =>
      cases result with
      | error fault => exact .unmade hprepare
      | ok => exact .filled hprepare ((Filled.refl _ made).writeOr_snd hname text)
  | unmade hprepare =>
    obtain ⟨again, hagain⟩ := prepare_fails_again hprepare
    rw [hagain]
    exact .unmade hprepare
  | filled hprepare hfilled =>
    rw [prepare_again hprepare hfilled.keepsDirectories]
    exact .filled hprepare (hfilled.writeOr_snd hname text)

lemma Prepared.leaves (h : Prepared request before turn.files)
    (hturn : turn.Leaves request earlier next) : Prepared request before next := by
  cases hturn with
  | nameless => exact h
  | taken => exact h
  | failed => exact h
  | unwritten input files next stem tree reason hstem haccepted htranslate hdeliver =>
    have hnext := h.deliver_snd hstem (request.exchangeText tree)
    rwa [hdeliver] at hnext
  | written input files next stem tree hstem haccepted htranslate hdeliver =>
    have hnext := h.deliver_snd hstem (request.exchangeText tree)
    rwa [hdeliver] at hnext

theorem Turns.prepared (h : Turns request earlier files turns after)
    (hfiles : Prepared request before files) : ∀ turn ∈ turns, Prepared request before turn.files := by
  induction h with
  | nil => exact fun _ hturn => nomatch hturn
  | cons hfirst _ ih => exact List.forall_mem_cons.mpr ⟨hfiles, ih (hfiles.leaves hfirst)⟩

/-- A delivery ends as it would before the batch, unless the directory cannot be made. -/
lemma Prepared.deliver_fst (h : Prepared request before files) (hstem : input.stem? = some stem)
    (text : String) :
    (files.deliver request.directory? (request.outputPath stem) text).1 =
      (before.deliver request.directory? (request.outputPath stem) text).1 ∨
    ∃ fault again, before.prepare request.directory? = (.error fault, files) ∧
      files.prepare request.directory? = (.error again, files) := by
  cases h with
  | untouched => exact .inl rfl
  | unmade hprepare =>
    obtain ⟨again, hagain⟩ := prepare_fails_again hprepare
    exact .inr ⟨_, again, hprepare, hagain⟩
  | filled hprepare hfilled =>
    rw [deliver_eq, deliver_eq, hprepare, prepare_again hprepare hfilled.keepsDirectories]
    exact .inl (hfilled.writeOr_fst (isEntry_outputName hstem) text)

/-! ### Results -/

/-- The request for one of the inputs only. -/
def CommandLine.TranslateRequest.only (request : TranslateRequest) (input : Path) : TranslateRequest :=
  { request with files := [input] }

/-- Whether the input is refused because its file belongs to an earlier one. -/
def Turn.collides (turn : Turn) : Bool :=
  match turn.result with
  | .taken _ _ _ => true
  | _ => false

lemma Turn.collides_of_accepted (h : turn.refused = false) : turn.collides = false := by
  unfold refused at h
  unfold collides
  cases hresult : turn.result <;> simp_all

lemma Turn.Leaves.result_of_nameless (h : turn.Leaves request earlier next)
    (hstem : turn.input.stem? = none) : turn.result = .nameless turn.input := by
  have haccepted : ∀ earlier, ¬Refused earlier turn.input → False := fun _ h => h (.inl hstem)
  cases h with
  | nameless => rfl
  | taken input files stem first hsome => cases hstem.symm.trans hsome
  | failed input files error h => exact absurd h (haccepted _)
  | unwritten input files next stem tree reason hsome h => exact absurd h (haccepted _)
  | written input files next stem tree hsome h => exact absurd h (haccepted _)

lemma Turn.Leaves.stem?_of_refused (h : turn.Leaves request earlier next)
    (hrefused : turn.refused = true) (hcollides : turn.collides = false) : turn.input.stem? = none := by
  cases h with
  | nameless input files hstem => exact hstem
  | taken => cases hcollides
  | failed => cases hrefused
  | unwritten => cases hrefused
  | written => cases hrefused

lemma Turn.Leaves.result_of_accepted (h : turn.Leaves request earlier next)
    (haccepted : turn.refused = false) (hstem : turn.input.stem? = some stem) :
    turn.result = (delivered request (request.outputPath stem) turn.input turn.files).1 := by
  unfold delivered
  cases h with
  | nameless => cases haccepted
  | taken => cases haccepted
  | failed input files error _ htranslate => simp only [htranslate]
  | unwritten input files next other tree reason hother _ htranslate hdeliver =>
    cases hother.symm.trans hstem
    simp only [htranslate, hdeliver]
  | written input files next other tree hother _ htranslate hdeliver =>
    cases hother.symm.trans hstem
    simp only [htranslate, hdeliver]

/-- The result of an input depends on the text of the input and on how its delivery ends. -/
lemma fst_delivered (request : TranslateRequest) (output input : Path) (files : FileTree) :
    (delivered request output input files).1 =
      match translateFile input (files.readText input) request.multiTop with
      | .error error => .failed error
      | .ok tree =>
        match (files.deliver request.directory? output (request.exchangeText tree)).1 with
        | .error reason => .unwritten output reason
        | .ok _ => .written input output := by
  unfold delivered
  cases translateFile input (files.readText input) request.multiTop with
  | error error => rfl
  | ok tree =>
    dsimp only
    cases files.deliver request.directory? output (request.exchangeText tree) with
    | mk result next => cases result <;> rfl

lemma Prepared.delivered_fst (h : Prepared request before files) (hstem : input.stem? = some stem)
    (hread : files.readText input = before.readText input) :
    (delivered request (request.outputPath stem) input files).1 =
      (delivered request (request.outputPath stem) input before).1 ∨
    ∃ fault again, before.prepare request.directory? = (.error fault, files) ∧
      files.prepare request.directory? = (.error again, files) ∧
      (delivered request (request.outputPath stem) input files).1 =
        .unwritten (request.outputPath stem) again.message ∧
      (delivered request (request.outputPath stem) input before).1 =
        .unwritten (request.outputPath stem) fault.message := by
  rw [fst_delivered, fst_delivered, hread]
  cases translateFile input (before.readText input) request.multiTop with
  | error error => exact .inl rfl
  | ok tree =>
    dsimp only
    rcases h.deliver_fst hstem (request.exchangeText tree) with hsame | ⟨fault, again, hfirst, hsecond⟩
    · rw [hsame]
      exact .inl rfl
    · rw [deliver_eq, deliver_eq, hfirst, hsecond]
      exact .inr ⟨fault, again, rfl, rfl, rfl, rfl⟩

/-- What becomes of an input in a batch, and what becomes of it on its own. It is the same, and the
file that it gets holds the same. Only where the directory cannot be made, the reason in the batch is
that of an attempt behind the first one. -/
inductive Turn.Alike (request : TranslateRequest) (before after : FileTree) (turn : Turn) :
    TranslateResult → FileTree → Prop where
  | same (alone : FileTree)
      (hcontent : ∀ output, turn.output? = some output →
        ∃ content, after.readBytes output = .ok content ∧ alone.readBytes output = .ok content) :
      Alike request before after turn turn.result alone
  | unmade (alone : FileTree) (directory output : Path) (fault again : FileFault)
      (hdirectory : request.directory? = some directory)
      (hfirst : before.makeDirectories directory = (.error fault, turn.files))
      (hsecond : turn.files.makeDirectories directory = (.error again, turn.files))
      (hresult : turn.result = .unwritten output again.message) :
      Alike request before after turn (.unwritten output fault.message) alone

lemma FileTree.read_eq_ok_iff {tree : FileTree} {path : Path} {text : String} :
    tree.read path = .ok text ↔
      ∃ content, tree.readBytes path = .ok content ∧ Bytes.text? content = some text := by
  unfold read
  cases tree.readBytes path with
  | error fault => simp
  | ok content => cases htext : Bytes.text? content <;> simp [htext]

lemma Turns.read_input (h : Turns request earlier files turns after) (hturn : turn ∈ turns)
    (haccepted : turn.refused = false) {text : String} (hread : files.read turn.input = .ok text) :
    turn.files.read turn.input = .ok text := by
  obtain ⟨content, hcontent, htext⟩ := read_eq_ok_iff.mp hread
  exact read_eq_ok_iff.mpr ⟨content, h.readBytes_input hturn haccepted hcontent, htext⟩

lemma exists_own_turn (settings : Settings) (hdestination : request.destination ≠ .standardOutput)
    (input : Path) (before : FileTree) :
    ∃ own alone, own.input = input ∧ own.files = before ∧
      Turns (request.only input) [] before [own] alone ∧
      serve FileTree.access (.translate settings (request.only input)) before =
        (translateOutcome settings [own.result], alone) := by
  have hsame : (request.only input).destination ≠ .standardOutput := hdestination
  obtain ⟨turns, alone, hinputs, hturns, hserve⟩ := exists_turns_serve settings hsame before
  obtain ⟨own, rfl, hown⟩ := List.map_eq_singleton_iff.mp hinputs
  refine ⟨own, alone, hown, ?_, hturns, hserve⟩
  cases hturns
  rfl

lemma FileTree.readText_of_read {tree : FileTree} {path : Path} {text : String}
    (h : tree.read path = .ok text) : tree.readText path = .ok text := by
  unfold readText
  rw [h]
  rfl

lemma Turns.alike (h : Turns request [] before turns after) (hturn : turn ∈ turns)
    (haccepted : turn.refused = false) {text : String} (hread : before.read turn.input = .ok text)
    {own : Turn} {alone : FileTree} (hinput : own.input = turn.input) (hfiles : own.files = before)
    (hown : Turns (request.only turn.input) [] before [own] alone) :
    turn.Alike request before after own.result alone := by
  obtain ⟨_, _, hleaves⟩ := h.exists_leaves_of_mem hturn
  obtain ⟨stem, hstem, -⟩ := h.exists_stem? hturn haccepted
  have htext := readText_of_read hread
  have htext' := readText_of_read (h.read_input hturn haccepted hread)
  have hownStem : own.input.stem? = some stem := by rw [hinput, hstem]
  have hownFirst : Turns (request.only turn.input) [] before ([] ++ [own]) alone := hown
  obtain ⟨_, hownLeaves⟩ := hownFirst.exists_leaves
  have hownAccepted : own.refused = false := by
    rw [← Bool.not_eq_true, hownLeaves.refused_iff]
    unfold Refused
    simp [hownStem]
  have hresult := hleaves.result_of_accepted haccepted hstem
  have hownResult : own.result =
      (delivered request (request.outputPath stem) turn.input before).1 := by
    rw [hownLeaves.result_of_accepted hownAccepted hownStem, hinput, hfiles]
    rfl
  rcases (h.prepared .untouched turn hturn).delivered_fst hstem (htext'.trans htext.symm) with
    hsame | ⟨fault, again, hfirst, hsecond, hunwritten, hownUnwritten⟩
  · rw [hownResult, ← hsame, ← hresult]
    refine .same alone fun output houtput => ?_
    obtain ⟨_, tree, -, -, htree⟩ := h.exists_of_output? hturn houtput
    have hownOutput : own.output? = some output := by
      unfold Turn.output? at houtput ⊢
      rwa [hownResult, ← hsame, ← hresult]
    have hownTree : translateFile own.input (own.files.readText own.input)
        (request.only turn.input).multiTop = .ok tree := by
      rw [hinput, hfiles, htext, ← htext']
      exact htree
    exact ⟨_, h.readBytes_output hturn houtput htree,
      hown.readBytes_output List.mem_cons_self hownOutput hownTree⟩
  · cases hdirectory : request.directory? with
    | none =>
      rw [hdirectory] at hfirst
      cases hfirst
    | some directory =>
      rw [hdirectory] at hfirst hsecond
      rw [hownResult, hownUnwritten]
      exact .unmade alone directory _ fault again hdirectory hfirst hsecond
        (hresult.trans hunwritten)

/-- Inputs of a batch do not influence each other. -/
theorem inputs_do_not_interfere {arguments : List String}
    (harguments : readArguments arguments = .ok (.translate settings request))
    (hdestination : request.destination ≠ .standardOutput) (before : FileTree) :
    ∃ turns outcome after, run FileTree.access arguments before = (outcome, after) ∧
      outcome = translateOutcome settings (turns.map Turn.result) ∧
      Batch settings request before turns outcome after ∧
      ∀ turn ∈ turns, turn.collides = false → ∀ text, before.read turn.input = .ok text →
        (turn.refused = false → turn.files.read turn.input = .ok text) ∧
        ∃ result alone,
          serve FileTree.access (.translate settings (request.only turn.input)) before =
            (translateOutcome settings [result], alone) ∧
          turn.Alike request before after result alone := by
  obtain ⟨turns, after, hinputs, hturns, hrun⟩ := exists_turns_run harguments hdestination before
  refine ⟨turns, _, after, hrun, rfl, batch_of_turns hinputs hturns, ?_⟩
  intro turn hturn hcollides text hread
  refine ⟨fun haccepted => hturns.read_input hturn haccepted hread, ?_⟩
  obtain ⟨own, alone, hinput, hfiles, hown, hserve⟩ :=
    exists_own_turn settings hdestination turn.input before
  refine ⟨own.result, alone, hserve, ?_⟩
  cases hrefused : turn.refused with
  | false => exact hturns.alike hturn hrefused hread hinput hfiles hown
  | true =>
    obtain ⟨_, _, hleaves⟩ := hturns.exists_leaves_of_mem hturn
    obtain ⟨_, _, hownLeaves⟩ := hown.exists_leaves_of_mem List.mem_cons_self
    have hstem := hleaves.stem?_of_refused hrefused hcollides
    have hresult := hleaves.result_of_nameless hstem
    have hownResult := hownLeaves.result_of_nameless (hinput ▸ hstem)
    rw [hownResult, hinput, ← hresult]
    refine .same alone fun output houtput => ?_
    rw [Turn.refused_of_output? houtput] at hrefused
    cases hrefused

def overlappingRequest : TranslateRequest where
  files := [⟨"a.txt"⟩, ⟨"a.xml"⟩, ⟨"b.txt"⟩]
  multiTop := false
  destination := .workingDirectory
  defaultProbability := none

/-- Three trees. The output for the first one is written over the second one. -/
def overlappingFiles : FileTree :=
  (FileTree.empty ["work"]).plantAll
    [(⟨"a.txt"⟩, .file (Bytes.ofText "A\ng := x & y\n")),
      (⟨"a.xml"⟩, .file (Bytes.ofText "A\ng := x | y\n")),
      (⟨"b.txt"⟩, .file (Bytes.ofText "B\ng := x & y\n"))]

/-- The third input is not refused, and becomes what it becomes on its own. -/
theorem sample_third_input_apart :
    readArguments ["translate", "a.txt", "a.xml", "b.txt"] =
      .ok (.translate ⟨.text, false⟩ overlappingRequest) ∧
    overlappingRequest.destination ≠ .standardOutput ∧
    overlappingFiles.read ⟨"b.txt"⟩ = .ok "B\ng := x & y\n" ∧
    ∃ first second third outcome after result alone,
      run FileTree.access ["translate", "a.txt", "a.xml", "b.txt"] overlappingFiles =
        (outcome, after) ∧
      Batch ⟨.text, false⟩ overlappingRequest overlappingFiles [first, second, third] outcome after ∧
      third.input = ⟨"b.txt"⟩ ∧ third.files.read ⟨"b.txt"⟩ = .ok "B\ng := x & y\n" ∧
      serve FileTree.access (.translate ⟨.text, false⟩ (overlappingRequest.only ⟨"b.txt"⟩))
        overlappingFiles = (translateOutcome ⟨.text, false⟩ [result], alone) ∧
      third.Alike overlappingRequest overlappingFiles after result alone := by
  have harguments : readArguments ["translate", "a.txt", "a.xml", "b.txt"] =
      .ok (.translate ⟨.text, false⟩ overlappingRequest) := by decide +kernel
  have hdestination : overlappingRequest.destination ≠ .standardOutput := by decide
  have hread : overlappingFiles.read ⟨"b.txt"⟩ = .ok "B\ng := x & y\n" := by decide +kernel
  obtain ⟨turns, outcome, after, hrun, -, hbatch, hapart⟩ :=
    inputs_do_not_interfere harguments hdestination overlappingFiles
  obtain ⟨first, rest, rfl, hfirst, hrest⟩ := List.map_eq_cons_iff.mp hbatch.inputs
  obtain ⟨second, rest, rfl, hsecond, hrest⟩ := List.map_eq_cons_iff.mp hrest
  obtain ⟨third, rfl, hthird⟩ := List.map_eq_singleton_iff.mp hrest
  have hrefused := hbatch.refused [first, second] third [] rfl
  simp only [List.map_cons, List.map_nil, hfirst, hsecond, hthird] at hrefused
  have hfresh : ¬Refused [⟨"a.txt"⟩, ⟨"a.xml"⟩] ⟨"b.txt"⟩ := by decide +kernel
  have haccepted : third.refused = false := Bool.not_eq_true _ ▸ mt hrefused.mp hfresh
  obtain ⟨hfound, result, alone, hserve, halike⟩ := hapart third (by simp)
    (Turn.collides_of_accepted haccepted) _ (hthird ▸ hread)
  rw [hthird] at hserve
  exact ⟨harguments, hdestination, hread, first, second, third, outcome, after, result, alone, hrun,
    hbatch, hthird, hthird ▸ hfound haccepted, hserve, halike⟩

/-! ### A directory that cannot be made -/

lemma delivered_of_prepare_error {output : Path} {tree : FaultTree} {fault : FileFault}
    {made : FileTree} (htranslate :
      translateFile input (files.readText input) request.multiTop = .ok tree)
    (hprepare : files.prepare request.directory? = (.error fault, made)) :
    delivered request output input files = (.unwritten output fault.message, made) := by
  unfold delivered
  rw [htranslate]
  dsimp only
  rw [deliver_eq, hprepare]

lemma writeInputs_accepted {taken : List (String × Path)} (hclaims : Claims taken earlier)
    (hstem : input.stem? = some stem) (haccepted : ¬Refused earlier input) (rest : List Path)
    {result : TranslateResult}
    (hdelivered : delivered request (request.outputPath stem) input files = (result, next)) :
    writeInputs FileTree.access request request.directory? taken (input :: rest) files =
      ((result :: (writeInputs FileTree.access request request.directory? ((stem, input) :: taken)
          rest next).1),
        (writeInputs FileTree.access request request.directory? ((stem, input) :: taken) rest
          next).2) := by
  obtain ⟨hrefused, -⟩ | ⟨-, other, hother, hrun⟩ := writeInputs_cons request input rest hclaims
  · exact absurd hrefused haccepted
  · cases hother.symm.trans hstem
    rw [hrun, bind_apply, writeInput_access, hdelivered]
    rfl

/-- A tree with a single gate. -/
def gateDocument (name file : String) : Document where
  name := name
  place := ⟨file, 1⟩
  gates := [⟨"g", ⟨.and, [⟨"x", false⟩, ⟨"y", false⟩]⟩, ⟨file, 2⟩⟩]
  probabilities := []
  states := []

/-- Two trees, and a file where a directory would have to be made. -/
def blockedFiles : FileTree :=
  (FileTree.empty ["work"]).plantAll
    [(⟨"a.txt"⟩, .file (Bytes.ofText "A\ng := x & y\n")),
      (⟨"b.txt"⟩, .file (Bytes.ofText "B\ng := x & y\n")), (⟨"f"⟩, .file (Bytes.ofText "text"))]

def blockedRequest : TranslateRequest where
  files := [⟨"a.txt"⟩, ⟨"b.txt"⟩]
  multiTop := false
  destination := .directory ⟨"new/../f/x"⟩
  defaultProbability := none

/-- What the first attempt to make the directory leaves: it has made one on the way. -/
def blockedRemains : FileTree :=
  (blockedFiles.prepare blockedRequest.directory?).2

lemma prepare_blockedFiles :
    blockedFiles.prepare blockedRequest.directory? = (.error .alreadyExists, blockedRemains) :=
  Prod.ext (by decide +kernel) rfl

lemma exists_prepare_blockedRemains :
    ∃ again, blockedRemains.prepare blockedRequest.directory? = (.error .notDirectory, again) :=
  ⟨_, Prod.ext (by decide +kernel) rfl⟩

lemma translateFile_of_sound {path : Path} {source : String} {document : Document} {multiTop : Bool}
    (hread : files.readText path = .ok source) (hparse : Document.parse source path.text = .ok document)
    (hsound : document.Sound multiTop) :
    translateFile path (files.readText path) multiTop = .ok (FaultTree.ofSound document) := by
  rw [hread, translateFile, translate_of_sound hparse hsound]

lemma delivered_blockedA :
    delivered blockedRequest (blockedRequest.outputPath "a") ⟨"a.txt"⟩ blockedFiles =
      (.unwritten (blockedRequest.outputPath "a") FileFault.alreadyExists.message, blockedRemains) := by
  have hread : blockedFiles.readText ⟨"a.txt"⟩ = .ok "A\ng := x & y\n" := by decide +kernel
  have hparse : Document.parse "A\ng := x & y\n" "a.txt" = .ok (gateDocument "A" "a.txt") := by
    decide +kernel
  have hsound : (gateDocument "A" "a.txt").Sound blockedRequest.multiTop := by decide +kernel
  exact delivered_of_prepare_error (translateFile_of_sound hread hparse hsound) prepare_blockedFiles

lemma delivered_blockedB (hread : files.readText ⟨"b.txt"⟩ = .ok "B\ng := x & y\n")
    {fault : FileFault} (hprepare : files.prepare blockedRequest.directory? = (.error fault, next)) :
    delivered blockedRequest (blockedRequest.outputPath "b") ⟨"b.txt"⟩ files =
      (.unwritten (blockedRequest.outputPath "b") fault.message, next) := by
  have hparse : Document.parse "B\ng := x & y\n" "b.txt" = .ok (gateDocument "B" "b.txt") := by
    decide +kernel
  have hsound : (gateDocument "B" "b.txt").Sound blockedRequest.multiTop := by decide +kernel
  exact delivered_of_prepare_error (translateFile_of_sound hread hparse hsound) hprepare

/-- The first attempt makes a directory before it meets the file that is in the way. The second one
meets the file at once, so the second input fails for another reason than on its own. -/
theorem second_attempt_fails_otherwise :
    blockedFiles.read ⟨"b.txt"⟩ = .ok "B\ng := x & y\n" ∧
    (run FileTree.access ["translate", "a.txt", "b.txt", "--out-dir", "new/../f/x"] blockedFiles).1 =
      ⟨1, "", "cannot write new/../f/x/a.xml: File exists (os error 17)\n" ++
        "cannot write new/../f/x/b.xml: Not a directory (os error 20)\n"⟩ ∧
    (run FileTree.access ["translate", "b.txt", "--out-dir", "new/../f/x"] blockedFiles).1 =
      ⟨1, "", "cannot write new/../f/x/b.xml: File exists (os error 17)\n"⟩ := by
  have hbatch : readArguments ["translate", "a.txt", "b.txt", "--out-dir", "new/../f/x"] =
      .ok (.translate ⟨.text, false⟩ blockedRequest) := by decide +kernel
  have hown : readArguments ["translate", "b.txt", "--out-dir", "new/../f/x"] =
      .ok (.translate ⟨.text, false⟩ (blockedRequest.only ⟨"b.txt"⟩)) := by decide +kernel
  have hread : blockedFiles.read ⟨"b.txt"⟩ = .ok "B\ng := x & y\n" := by decide +kernel
  have hremains : blockedRemains.readText ⟨"b.txt"⟩ = .ok "B\ng := x & y\n" := by decide +kernel
  obtain ⟨again, hagain⟩ := exists_prepare_blockedRemains
  have hstemA : Path.stem? ⟨"a.txt"⟩ = some "a" := by decide +kernel
  have hstemB : Path.stem? ⟨"b.txt"⟩ = some "b" := by decide +kernel
  have hclaims : Claims [] [] := fun _ => rfl
  have haccepted : ¬Refused [] ⟨"a.txt"⟩ := by decide +kernel
  refine ⟨hread, ?_, ?_⟩
  · have hfirst := writeInputs_accepted hclaims hstemA haccepted [⟨"b.txt"⟩] delivered_blockedA
    have hsecond := writeInputs_accepted (hclaims.cons hstemA haccepted) hstemB (by decide +kernel) []
      (delivered_blockedB hremains hagain)
    rw [run_eq _ hbatch (by decide), bind_apply]
    change translateOutcome _ (writeInputs FileTree.access blockedRequest blockedRequest.directory? []
      [⟨"a.txt"⟩, ⟨"b.txt"⟩] blockedFiles).1 = _
    rw [hfirst, hsecond]
    change translateOutcome _ [.unwritten (blockedRequest.outputPath "a") _,
      .unwritten (blockedRequest.outputPath "b") _] = _
    decide +kernel
  · have hdelivered : delivered (blockedRequest.only ⟨"b.txt"⟩)
        ((blockedRequest.only ⟨"b.txt"⟩).outputPath "b") ⟨"b.txt"⟩ blockedFiles = _ :=
      delivered_blockedB (readText_of_read hread) prepare_blockedFiles
    have hfirst := writeInputs_accepted hclaims hstemB (by decide +kernel) [] hdelivered
    rw [run_eq _ hown (by decide), bind_apply]
    change translateOutcome _ (writeInputs FileTree.access (blockedRequest.only ⟨"b.txt"⟩)
      (blockedRequest.only ⟨"b.txt"⟩).directory? [] [⟨"b.txt"⟩] blockedFiles).1 = _
    rw [hfirst]
    change translateOutcome _ [.unwritten (blockedRequest.outputPath "b") _] = _
    decide +kernel

end FaultTreeExchange
