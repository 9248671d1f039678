import FaultTreeExchange.CommandLine.Translate
import FaultTreeExchange.Proofs.FileEffects
import FaultTreeExchange.Proofs.PathParts

/-!
# The turns of a batch

The inputs of a batch have their turns one after the other. A turn ends in one of five ways, and only
one of them changes a file: the one that is named after the input. So a file that no input is written
to stays as it was, and every file that an input is written to keeps what that input has put there.
-/

namespace FaultTreeExchange

open CommandLine

/-! ### Names of files -/

namespace Path

variable {path : Path} {stem : String}

lemma stem?_eq_some_iff :
    path.stem? = some stem ↔
      ∃ text, path.steps.getLast? = some (.name text) ∧
        stem = String.ofList (stemOf text.toList) := by
  have hlast : ∀ text, path.parts.getLast? = some (.name text) ↔
      path.steps.getLast? = some (.name text) := by
    intro text
    rcases path.parts_cases with ⟨-, h⟩ | ⟨-, h⟩ | ⟨-, h⟩
    · rw [h, List.getLast?_cons]
      cases path.steps.getLast? <;> simp
    · rw [h, List.getLast?_cons]
      cases path.steps.getLast? <;> simp
    · rw [h]
  unfold stem?
  constructor
  · intro h
    split at h
    · rename_i text htext
      exact ⟨text, (hlast text).mp htext, (Option.some.inj h).symm⟩
    · cases h
  · rintro ⟨text, htext, rfl⟩
    rw [(hlast text).mpr htext]

lemma stemOf_subset (name : List Char) : stemOf name ⊆ name := by
  unfold stemOf
  split
  · exact List.Subset.refl _
  · intro c hc
    rw [List.mem_reverse] at hc
    exact List.mem_reverse.mp ((List.dropWhile_suffix _).subset (List.mem_of_mem_tail hc))

lemma stemOf_ne_nil {name : List Char} (h : name ≠ []) : stemOf name ≠ [] := by
  unfold stemOf
  split
  · exact h
  · rename_i hne
    exact fun heq => hne heq

lemma slash_notMem_of_stem? (h : path.stem? = some stem) : '/' ∉ stem.toList := by
  obtain ⟨text, hlast, rfl⟩ := stem?_eq_some_iff.mp h
  have hslash : '/' ∉ text.toList := (isStep_of_mem_steps _ (List.mem_of_getLast? hlast)).no_slash
  rw [String.toList_ofList]
  exact fun hmem => hslash (stemOf_subset _ hmem)

lemma toList_ne_nil_of_stem? (h : path.stem? = some stem) : stem.toList ≠ [] := by
  obtain ⟨text, hlast, rfl⟩ := stem?_eq_some_iff.mp h
  rw [String.toList_ofList]
  exact stemOf_ne_nil (isStep_of_mem_steps _ (List.mem_of_getLast? hlast)).text_ne_nil

end Path

lemma isEntry_outputName {input : Path} {stem : String} (h : input.stem? = some stem) :
    FileTree.IsEntry (outputName stem) := by
  have hname : (outputName stem).toList = stem.toList ++ ['.', 'x', 'm', 'l'] :=
    String.toList_append
  have hlength : 4 ≤ (outputName stem).toList.length := by
    rw [hname, List.length_append]
    exact Nat.le_add_left _ _
  refine ⟨?_, ?_, ?_, ?_⟩
  · intro heq
    simp [heq] at hlength
  · intro heq
    simp [heq] at hlength
  · intro heq
    simp [heq] at hlength
  · rw [hname, List.mem_append, not_or]
    exact ⟨Path.slash_notMem_of_stem? h, by decide⟩

lemma outputName_injective {stem other : String} (h : outputName stem = outputName other) :
    stem = other :=
  (String.append_left_inj ".xml").mp h

lemma stemOf_outputName {stem : String} (h : stem.toList ≠ []) :
    Path.stemOf (outputName stem).toList = stem.toList := by
  have hname : (outputName stem).toList = stem.toList ++ ['.', 'x', 'm', 'l'] :=
    String.toList_append
  have hcut : ((outputName stem).toList.reverse.dropWhile (· ≠ '.')).tail.reverse = stem.toList := by
    simp [hname]
  unfold Path.stemOf
  rw [hcut]
  split
  · rename_i hempty
    exact absurd hempty h
  · rfl

lemma FileTree.exists_foldl_enter {segments : List (List Char)} {text : String}
    (h : (segments.filterMap PathPart.ofSegment?).getLast? = some (.name text))
    (location : Location) : ∃ parent, segments.foldl enter location = parent ++ [text] := by
  obtain ⟨parts, hparts⟩ := List.getLast?_eq_some_iff.mp h
  rw [foldl_enter_eq, hparts, List.foldl_append]
  exact ⟨parts.foldl follow location, rfl⟩

/-- A path that leads to an output has the stem of that output. -/
lemma FileTree.eq_stem_of_locate {tree : FileTree} {path : Path} {location : Location}
    {stem other : String} (hlocate : tree.locate path = .ok (location ++ [outputName other]))
    (hother : other.toList ≠ []) (hstem : path.stem? = some stem) : stem = other := by
  obtain ⟨text, hlast, rfl⟩ := Path.stem?_eq_some_iff.mp hstem
  obtain ⟨parent, hparent⟩ := exists_foldl_enter hlast (tree.startOf path)
  have heq := eq_foldl_of_walk (locate_eq_ok_iff.mp hlocate).2
  rw [hparent] at heq
  obtain ⟨-, hname⟩ := List.append_inj' heq rfl
  rw [← List.singleton_inj.mp hname, stemOf_outputName hother, String.ofList_toList]

/-! ### Turns -/

namespace CommandLine.TranslateRequest

/-- The directory that is made for the files, if one is given. -/
def directory? (request : TranslateRequest) : Option Path :=
  match request.destination with
  | .directory path => some path
  | _ => none

/-- The file for inputs with a stem. -/
def outputPath (request : TranslateRequest) (stem : String) : Path :=
  (request.directory?.getD ⟨""⟩).join (outputName stem)

/-- The exchange text of a tree whose undefined events have got the default probability, if there is
one. -/
def exchangeText (request : TranslateRequest) (tree : FaultTree) : String :=
  match request.defaultProbability with
  | some probability => (tree.setUndefinedProbability probability).exchangeText
  | none => tree.exchangeText

end CommandLine.TranslateRequest

/-- Makes a directory, if one is given, and writes a text to a file. -/
def FileTree.deliver (tree : FileTree) (directory : Option Path) (output : Path) (text : String) :
    Except String Unit × FileTree :=
  match directory with
  | none => tree.writeOr output text
  | some directory =>
    match tree.makeDirectoriesOr directory with
    | (.error reason, made) => (.error reason, made)
    | (.ok _, made) => made.writeOr output text

/-- The turn of an input: the files that it finds, and what becomes of it. -/
structure Turn where
  input : Path
  files : FileTree
  result : TranslateResult

/-- The file of the input, if it has got one. -/
def Turn.output? (turn : Turn) : Option Path :=
  match turn.result with
  | .written _ output => some output
  | _ => none

/-- Whether the input is refused without being read. -/
def Turn.refused (turn : Turn) : Bool :=
  match turn.result with
  | .nameless _ => true
  | .taken _ _ _ => true
  | _ => false

lemma Turn.refused_of_output? {turn : Turn} {output : Path} (h : turn.output? = some output) :
    turn.refused = false := by
  unfold Turn.output? at h
  unfold Turn.refused
  split at h
  · rename_i hresult
    rw [hresult]
  · cases h

/-- No name can be derived for the file of an input, or an earlier input has the same one. -/
def Refused (earlier : List Path) (input : Path) : Prop :=
  input.stem? = none ∨ ∃ other ∈ earlier, other.stem? = input.stem?

/-- How the turn of an input can end, and which files it leaves. An input that is not refused has its
file translated as the turn finds it, and the text of its tree is delivered. -/
inductive Turn.Leaves (request : TranslateRequest) (earlier : List Path) :
    Turn → FileTree → Prop where
  | nameless (input : Path) (files : FileTree) (hstem : input.stem? = none) :
      Leaves request earlier ⟨input, files, .nameless input⟩ files
  | taken (input : Path) (files : FileTree) (stem : String) (first : Path)
      (hstem : input.stem? = some stem)
      (hfirst : earlier.find? (fun other => other.stem? = some stem) = some first) :
      Leaves request earlier ⟨input, files, .taken input (request.outputPath stem) first⟩ files
  | failed (input : Path) (files : FileTree) (error : FileError)
      (haccepted : ¬Refused earlier input)
      (htranslate : translateFile input (files.readText input) request.multiTop = .error error) :
      Leaves request earlier ⟨input, files, .failed error⟩ files
  | unwritten (input : Path) (files next : FileTree) (stem : String) (tree : FaultTree)
      (reason : String) (hstem : input.stem? = some stem) (haccepted : ¬Refused earlier input)
      (htranslate : translateFile input (files.readText input) request.multiTop = .ok tree)
      (hdeliver : files.deliver request.directory? (request.outputPath stem)
        (request.exchangeText tree) = (.error reason, next)) :
      Leaves request earlier ⟨input, files, .unwritten (request.outputPath stem) reason⟩ next
  | written (input : Path) (files next : FileTree) (stem : String) (tree : FaultTree)
      (hstem : input.stem? = some stem) (haccepted : ¬Refused earlier input)
      (htranslate : translateFile input (files.readText input) request.multiTop = .ok tree)
      (hdeliver : files.deliver request.directory? (request.outputPath stem)
        (request.exchangeText tree) = (.ok (), next)) :
      Leaves request earlier ⟨input, files, .written input (request.outputPath stem)⟩ next

/-- Turns in sequence behind those of earlier inputs, from the files that the first one finds to those
that the last one leaves. -/
inductive Turns (request : TranslateRequest) :
    List Path → FileTree → List Turn → FileTree → Prop where
  | nil (earlier : List Path) (files : FileTree) : Turns request earlier files [] files
  | cons {earlier : List Path} {turn : Turn} {next after : FileTree} {turns : List Turn}
      (hturn : turn.Leaves request earlier next)
      (hturns : Turns request (earlier ++ [turn.input]) next turns after) :
      Turns request earlier turn.files (turn :: turns) after

variable {request : TranslateRequest} {earlier : List Path} {turn : Turn}
  {files next after : FileTree} {turns : List Turn} {output : Path} {stem : String}

/-! ### What a turn changes -/

lemma FileTree.writeOr_cases (files : FileTree) (output : Path) (text : String) :
    (∃ reason, files.writeOr output text = (.error reason, files)) ∨
      ∃ location, files.locate output = .ok location ∧
        files.node? location ≠ some .directory ∧
        files.writeOr output text = (.ok (), files.put location (.file (Bytes.ofText text))) := by
  unfold writeOr
  cases hwrite : files.write output text with
  | error fault => exact .inl ⟨_, rfl⟩
  | ok next =>
    obtain ⟨location, hlocate, hnode, rfl⟩ := writeBytes_eq_ok_iff.mp hwrite
    exact .inr ⟨location, hlocate, hnode, rfl⟩

/-- A delivery that fails leaves every file alone; one that succeeds changes the file it is for. -/
lemma FileTree.deliver_cases (files : FileTree) (directory : Option Path) (output : Path)
    (text : String) :
    (∃ reason made, files.Grows made ∧
      files.deliver directory output text = (.error reason, made)) ∨
    ∃ made location, files.Grows made ∧ made.locate output = .ok location ∧
      made.node? location ≠ some .directory ∧
      files.deliver directory output text =
        (.ok (), made.put location (.file (Bytes.ofText text))) := by
  have hwrite : ∀ made, files.Grows made →
      (∃ reason made', files.Grows made' ∧ made.writeOr output text = (.error reason, made')) ∨
      ∃ made' location, files.Grows made' ∧ made'.locate output = .ok location ∧
        made'.node? location ≠ some .directory ∧
        made.writeOr output text = (.ok (), made'.put location (.file (Bytes.ofText text))) := by
    intro made hgrows
    rcases made.writeOr_cases output text with ⟨reason, h⟩ | ⟨location, hlocate, hnode, h⟩
    · exact .inl ⟨reason, made, hgrows, h⟩
    · exact .inr ⟨made, location, hgrows, hlocate, hnode, h⟩
  unfold deliver
  cases directory with
  | none => exact hwrite files (Grows.refl files)
  | some directory =>
    have hgrows := grows_makeDirectories files directory
    cases hresult : files.makeDirectories directory with
    | mk result made =>
      have hmade : files.makeDirectoriesOr directory =
          (result.mapError FileFault.message, made) := by
        unfold makeDirectoriesOr
        rw [hresult]
      rw [hresult] at hgrows
      dsimp only
      rw [hmade]
      cases result with
      | error fault => exact .inl ⟨fault.message, made, hgrows, rfl⟩
      | ok => exact hwrite made hgrows

lemma Turn.Leaves.grows (h : turn.Leaves request earlier next) (hnone : turn.output? = none) :
    turn.files.Grows next := by
  cases h with
  | nameless => exact .refl _
  | taken => exact .refl _
  | failed => exact .refl _
  | unwritten input files next stem tree reason hstem haccepted htranslate hdeliver =>
    rcases files.deliver_cases request.directory? (request.outputPath stem)
      (request.exchangeText tree) with ⟨_, made, hgrows, h⟩ | ⟨made, location, -, -, -, h⟩
    · rw [hdeliver] at h
      cases h
      exact hgrows
    · rw [hdeliver] at h
      cases h
  | written => cases hnone

lemma Turn.Leaves.exists_of_output? (h : turn.Leaves request earlier next)
    (hsome : turn.output? = some output) :
    ∃ stem tree made location, turn.input.stem? = some stem ∧ ¬Refused earlier turn.input ∧
      output = request.outputPath stem ∧
      translateFile turn.input (turn.files.readText turn.input) request.multiTop = .ok tree ∧
      turn.files.Grows made ∧ made.locate output = .ok location ∧
      made.node? location ≠ some .directory ∧
      next = made.put location (.file (Bytes.ofText (request.exchangeText tree))) := by
  cases h with
  | nameless => cases hsome
  | taken => cases hsome
  | failed => cases hsome
  | unwritten => cases hsome
  | written input files next stem tree hstem haccepted htranslate hdeliver =>
    cases hsome
    rcases files.deliver_cases request.directory? (request.outputPath stem)
      (request.exchangeText tree) with ⟨_, _, _, h⟩ | ⟨made, location, hgrows, hlocate, hnode, h⟩
    · rw [hdeliver] at h
      cases h
    · rw [hdeliver] at h
      cases h
      exact ⟨stem, tree, made, location, hstem, haccepted, rfl, htranslate, hgrows, hlocate, hnode,
        rfl⟩

lemma Turn.Leaves.keepsDirectories (h : turn.Leaves request earlier next) :
    turn.files.KeepsDirectories next := by
  cases houtput : turn.output? with
  | none => exact (h.grows houtput).keepsDirectories
  | some output =>
    obtain ⟨stem, tree, made, location, -, -, -, -, hgrows, -, hnode, rfl⟩ :=
      h.exists_of_output? houtput
    exact hgrows.keepsDirectories.trans (FileTree.keepsDirectories_put_file hnode)

lemma Turn.Leaves.refused_iff (h : turn.Leaves request earlier next) :
    turn.refused ↔ Refused earlier turn.input := by
  cases h with
  | nameless input files hstem => exact iff_of_true rfl (.inl hstem)
  | taken input files stem first hstem hfirst =>
    have hsame : first.stem? = some stem := by simpa using List.find?_some hfirst
    exact iff_of_true rfl (.inr ⟨first, List.mem_of_find?_eq_some hfirst, hsame.trans hstem.symm⟩)
  | failed input files error haccepted => exact iff_of_false Bool.false_ne_true haccepted
  | unwritten input files next stem tree reason hstem haccepted =>
    exact iff_of_false Bool.false_ne_true haccepted
  | written input files next stem tree hstem haccepted =>
    exact iff_of_false Bool.false_ne_true haccepted

/-- The turn leaves a file alone to which a path with another stem leads. -/
lemma Turn.Leaves.node?_file_iff (h : turn.Leaves request earlier next) {path : Path}
    (hstem : path.stem? = some stem) (hne : turn.input.stem? ≠ some stem) {tree : FileTree}
    {location : Location} (hlocate : tree.locate path = .ok location) {content : Bytes} :
    next.node? location = some (.file content) ↔
      turn.files.node? location = some (.file content) := by
  cases houtput : turn.output? with
  | none => exact (h.grows houtput).node?_file_iff
  | some output =>
    obtain ⟨other, _, made, written, hother, -, rfl, -, hgrows, hwritten, -, rfl⟩ :=
      h.exists_of_output? houtput
    have hlocation : location ≠ written := by
      rintro rfl
      rw [FileTree.eq_of_locate_join (isEntry_outputName hother) hwritten] at hlocate
      rw [FileTree.eq_stem_of_locate hlocate (Path.toList_ne_nil_of_stem? hother) hstem] at hne
      exact hne hother
    rw [FileTree.node?_put, if_neg hlocation]
    exact hgrows.node?_file_iff

/-! ### What a batch changes -/

lemma Turns.keepsDirectories (h : Turns request earlier files turns after) :
    files.KeepsDirectories after := by
  induction h with
  | nil earlier files => exact .refl files
  | cons hturn _ ih => exact hturn.keepsDirectories.trans ih

lemma Turns.exists_leaves {previous later : List Turn}
    (h : Turns request earlier files (previous ++ turn :: later) after) :
    ∃ next, turn.Leaves request (earlier ++ previous.map Turn.input) next := by
  induction previous generalizing earlier files with
  | nil =>
    cases h with
    | cons hturn _ => exact ⟨_, by simpa using hturn⟩
  | cons first previous ih =>
    cases h with
    | cons _ hrest =>
      obtain ⟨next, hturn⟩ := ih hrest
      exact ⟨next, by simpa using hturn⟩

lemma Turns.exists_stem? (h : Turns request earlier files turns after) (hturn : turn ∈ turns)
    (haccepted : turn.refused = false) :
    ∃ stem, turn.input.stem? = some stem ∧ ∀ other ∈ earlier, other.stem? ≠ some stem := by
  obtain ⟨previous, later, rfl⟩ := List.append_of_mem hturn
  obtain ⟨next, hleaves⟩ := h.exists_leaves
  have hrefused : ¬Refused (earlier ++ previous.map Turn.input) turn.input := by
    rw [← hleaves.refused_iff, haccepted]
    exact Bool.false_ne_true
  obtain ⟨hsome, hne⟩ := not_or.mp hrefused
  obtain ⟨stem, hstem⟩ := Option.ne_none_iff_exists'.mp hsome
  refine ⟨stem, hstem, fun other hother heq => hne ⟨other, ?_, heq.trans hstem.symm⟩⟩
  exact List.mem_append_left _ hother

lemma Turns.exists_of_output? (h : Turns request earlier files turns after) (hturn : turn ∈ turns)
    (hsome : turn.output? = some output) :
    ∃ stem tree, turn.input.stem? = some stem ∧ output = request.outputPath stem ∧
      translateFile turn.input (turn.files.readText turn.input) request.multiTop = .ok tree := by
  obtain ⟨previous, later, rfl⟩ := List.append_of_mem hturn
  obtain ⟨next, hleaves⟩ := h.exists_leaves
  obtain ⟨stem, tree, made, location, hstem, -, houtput, htranslate, -⟩ :=
    hleaves.exists_of_output? hsome
  exact ⟨stem, tree, hstem, houtput, htranslate⟩

lemma Turns.keepsDirectories_files (h : Turns request earlier files turns after)
    (hturn : turn ∈ turns) : files.KeepsDirectories turn.files := by
  induction h with
  | nil => cases hturn
  | cons hfirst _ ih =>
    rcases List.mem_cons.mp hturn with rfl | hturn
    · exact .refl _
    · exact hfirst.keepsDirectories.trans (ih hturn)

/-- Where an input that is not refused leads to in its turn, no earlier input has changed a file: the
file there would have the stem of the input. -/
theorem Turns.node?_input_iff (h : Turns request earlier files turns after) (hturn : turn ∈ turns)
    (haccepted : turn.refused = false) {location : Location}
    (hlocate : turn.files.locate turn.input = .ok location) {content : Bytes} :
    turn.files.node? location = some (.file content) ↔
      files.node? location = some (.file content) := by
  induction h with
  | nil => cases hturn
  | @cons earlier first next after turns hfirst hrest ih =>
    rcases List.mem_cons.mp hturn with rfl | hturn
    · rfl
    · obtain ⟨stem, hstem, hne⟩ := hrest.exists_stem? hturn haccepted
      have hother : first.input.stem? ≠ some stem := hne first.input (by simp)
      exact (ih hturn).trans (hfirst.node?_file_iff hstem hother hlocate)

theorem Turns.readBytes_input (h : Turns request earlier files turns after) (hturn : turn ∈ turns)
    (haccepted : turn.refused = false) {content : Bytes}
    (hread : files.readBytes turn.input = .ok content) :
    turn.files.readBytes turn.input = .ok content := by
  obtain ⟨location, hlocate, hnode⟩ := FileTree.readBytes_eq_ok_iff.mp hread
  have hlocate' := (h.keepsDirectories_files hturn).locate hlocate
  exact FileTree.readBytes_eq_ok_iff.mpr
    ⟨location, hlocate', (h.node?_input_iff hturn haccepted hlocate').mpr hnode⟩

theorem Turns.node?_file_iff (h : Turns request earlier files turns after) {location : Location}
    (hlocation : ∀ turn ∈ turns, ∀ output, turn.output? = some output →
      after.locate output ≠ .ok location) {content : Bytes} :
    after.node? location = some (.file content) ↔
      files.node? location = some (.file content) := by
  induction h with
  | nil => rfl
  | @cons earlier turn next after turns hfirst hrest ih =>
    obtain ⟨hhead, htail⟩ := List.forall_mem_cons.mp hlocation
    rw [ih htail]
    cases houtput : turn.output? with
    | none => exact (hfirst.grows houtput).node?_file_iff
    | some output =>
      obtain ⟨stem, tree, made, written, -, -, -, -, hgrows, hlocate, hnode, rfl⟩ :=
        hfirst.exists_of_output? houtput
      have hkeeps := (FileTree.keepsDirectories_put_file hnode).trans hrest.keepsDirectories
      have hne : location ≠ written := by
        rintro rfl
        exact hhead output houtput (hkeeps.locate hlocate)
      rw [FileTree.node?_put, if_neg hne]
      exact hgrows.node?_file_iff

/-- An output holds to the end what its input has put there: the outputs of later inputs have other
names in the same directory. -/
theorem Turns.readBytes_output (h : Turns request earlier files turns after) (hturn : turn ∈ turns)
    (hsome : turn.output? = some output) {tree : FaultTree}
    (htree : translateFile turn.input (turn.files.readText turn.input) request.multiTop = .ok tree) :
    after.readBytes output = .ok (Bytes.ofText (request.exchangeText tree)) := by
  induction h with
  | nil => cases hturn
  | @cons earlier first next after turns hfirst hrest ih =>
    rcases List.mem_cons.mp hturn with rfl | hturn
    · obtain ⟨stem, found, made, location, hstem, -, houtput, hfound, -, hlocate, hnode, rfl⟩ :=
        hfirst.exists_of_output? hsome
      rw [htree, Except.ok.injEq] at hfound
      subst hfound
      have hkeeps := (FileTree.keepsDirectories_put_file hnode).trans hrest.keepsDirectories
      have hlocate' := hkeeps.locate hlocate
      have hother : ∀ later ∈ turns, ∀ output', later.output? = some output' →
          after.locate output' ≠ .ok location := by
        intro later hlater output' hsome' hsame
        obtain ⟨stem', -, hstem', houtput', -⟩ := hrest.exists_of_output? hlater hsome'
        obtain ⟨_, hown, hne⟩ := hrest.exists_stem? hlater (Turn.refused_of_output? hsome')
        rw [houtput] at hlocate'
        rw [houtput'] at hsame
        have hfile := FileTree.eq_of_locate_join (isEntry_outputName hstem) hlocate'
        have hfile' := FileTree.eq_of_locate_join (isEntry_outputName hstem') hsame
        rw [hfile, List.append_cancel_left_eq, List.cons.injEq] at hfile'
        rw [hstem', ← outputName_injective hfile'.1] at hown
        exact hne turn.input (by simp) (hstem.trans hown)
      unfold FileTree.readBytes
      rw [hlocate']
      dsimp only
      rw [(hrest.node?_file_iff hother).mpr (by rw [FileTree.node?_put, if_pos rfl])]
    · exact ih hturn

end FaultTreeExchange
