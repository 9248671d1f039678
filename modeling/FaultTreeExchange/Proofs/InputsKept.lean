import FaultTreeExchange.Proofs.Isolation

/-!
# Inputs that keep their content

A run reads its inputs and writes its files without comparing the ones with the others. So a file that
is an input keeps its content, save where it has the name and the place of a file that is written: it
then holds the exchange text of the first input with its stem, which can be the file itself. Paths go on
leading where they lead, and the path of an input may come to lead to a file only during the run, when
the directory for the outputs is made.
-/

namespace FaultTreeExchange

open CommandLine FileTree

variable {settings : Settings} {request : TranslateRequest} {earlier : List Path} {turn : Turn}
  {turns : List Turn} {before files after : FileTree} {input output : Path} {stem : String}

lemma FileTree.read_of_readText {tree : FileTree} {path : Path} {text : String}
    (h : tree.readText path = .ok text) : tree.read path = .ok text := by
  unfold readText at h
  cases hread : tree.read path with
  | error fault =>
    rw [hread] at h
    cases h
  | ok found =>
    rw [hread] at h
    cases h
    rfl

/-! ### Inputs that get files -/

lemma Turns.keepsDirectories_after (h : Turns request earlier files turns after)
    (hturn : turn ∈ turns) : turn.files.KeepsDirectories after := by
  induction h with
  | nil => cases hturn
  | cons hfirst hrest ih =>
    rcases List.mem_cons.mp hturn with rfl | hturn
    · exact hfirst.keepsDirectories.trans hrest.keepsDirectories
    · exact ih hturn

lemma Turns.find?_stem (h : Turns request [] files turns after) (hturn : turn ∈ turns)
    (haccepted : turn.refused = false) (hstem : turn.input.stem? = some stem) :
    (turns.map Turn.input).find? (fun other => other.stem? = some stem) = some turn.input := by
  obtain ⟨previous, later, rfl⟩ := List.append_of_mem hturn
  obtain ⟨_, hleaves⟩ := h.exists_leaves
  have hrefused : ¬Refused (previous.map Turn.input) turn.input := by
    rw [← List.nil_append (previous.map Turn.input), ← hleaves.refused_iff, haccepted]
    exact Bool.false_ne_true
  have hnone : (previous.map Turn.input).find? (fun other => other.stem? = some stem) = none := by
    rw [List.find?_eq_none]
    intro other hother hsame
    exact hrefused (.inr ⟨other, hother, (decide_eq_true_iff.mp hsame).trans hstem.symm⟩)
  rw [List.map_append, List.map_cons, List.find?_append, hnone, Option.none_or]
  exact List.find?_cons_of_pos (by simp [hstem])

lemma Turns.exists_source (h : Turns request earlier before turns after) (hturn : turn ∈ turns)
    (houtput : turn.output? = some output) :
    ∃ location content source tree, after.locate turn.input = .ok location ∧
      before.node? location = some (.file content) ∧ Bytes.text? content = some source ∧
      translate source turn.input.text request.multiTop = .ok tree ∧
      after.readBytes output = .ok (Bytes.ofText (request.exchangeText tree)) := by
  have haccepted := Turn.refused_of_output? houtput
  obtain ⟨_, tree, -, -, htree⟩ := h.exists_of_output? hturn houtput
  obtain ⟨source, hsource, htranslate⟩ := translateFile_eq_ok_iff.mp htree
  obtain ⟨content, hcontent, htext⟩ := read_eq_ok_iff.mp (read_of_readText hsource)
  obtain ⟨location, hlocate, hnode⟩ := readBytes_eq_ok_iff.mp hcontent
  exact ⟨location, content, source, tree, (h.keepsDirectories_after hturn).locate hlocate,
    (h.node?_input_iff hturn haccepted hlocate).mp hnode, htext, htranslate,
    h.readBytes_output hturn houtput htree⟩

/-! ### Inputs that are written over -/

/-- An input leads to the place of the file for inputs with a stem. The first of these inputs has a
tree, whose text the file holds after the run. -/
structure WrittenOver (request : TranslateRequest) (before after : FileTree) (input : Path)
    (location : Location) (stem : String) (first : Path) : Prop where
  foremost : request.files.find? (fun other => other.stem? = some stem) = some first
  own : ∀ stem', input.stem? = some stem' → stem' = stem
  place : location = before.directoryLocation (request.directory?.getD ⟨""⟩) ++ [outputName stem]
  content : ∃ origin bytes source tree, after.locate first = .ok origin ∧
    before.node? origin = some (.file bytes) ∧ Bytes.text? bytes = some source ∧
    translate source first.text request.multiTop = .ok tree ∧
    after.node? location = some (.file (Bytes.ofText (request.exchangeText tree)))

lemma Turns.writtenOver (h : Turns request [] before turns after)
    (hinputs : turns.map Turn.input = request.files) (hturn : turn ∈ turns)
    (houtput : turn.output? = some output) {location : Location}
    (hlocate : after.locate input = .ok location) (hsame : after.locate output = .ok location) :
    ∃ stem, WrittenOver request before after input location stem turn.input := by
  obtain ⟨stem, _, hstem, rfl, -⟩ := h.exists_of_output? hturn houtput
  have hplace := eq_of_locate_join (isEntry_outputName hstem) hsame
  obtain ⟨origin, bytes, source, tree, hfirst, hbytes, hsource, htree, hread⟩ :=
    h.exists_source hturn houtput
  obtain ⟨written, hwritten, hnode⟩ := readBytes_eq_ok_iff.mp hread
  obtain rfl : location = written := Except.ok.inj (hsame.symm.trans hwritten)
  refine ⟨stem, ?_, ?_, ?_, origin, bytes, source, tree, hfirst, hbytes, hsource, htree, hnode⟩
  · rw [← hinputs]
    exact h.find?_stem hturn (Turn.refused_of_output? houtput) hstem
  · intro stem' hstem'
    exact eq_stem_of_locate (hplace ▸ hlocate) (Path.toList_ne_nil_of_stem? hstem) hstem'
  · unfold directoryLocation at hplace ⊢
    rw [h.keepsDirectories.startOf_eq] at hplace
    exact hplace

theorem Turns.kept_or_writtenOver (h : Turns request [] before turns after)
    (hinputs : turns.map Turn.input = request.files) {location : Location} {content : Bytes}
    (hlocate : after.locate input = .ok location)
    (hnode : before.node? location = some (.file content)) :
    after.node? location = some (.file content) ∨
      ∃ stem first, WrittenOver request before after input location stem first := by
  by_cases hwritten : ∃ turn ∈ turns, ∃ output, turn.output? = some output ∧
      after.locate output = .ok location
  · obtain ⟨turn, hturn, output, houtput, hsame⟩ := hwritten
    obtain ⟨stem, hover⟩ := h.writtenOver hinputs hturn houtput hlocate hsame
    exact .inr ⟨stem, turn.input, hover⟩
  · have huntouched : ∀ turn ∈ turns, ∀ output, turn.output? = some output →
        after.locate output ≠ .ok location :=
      fun turn hturn output houtput hsame => hwritten ⟨turn, hturn, output, houtput, hsame⟩
    exact .inl ((h.node?_file_iff huntouched).mpr hnode)

/-! ### Runs -/

lemma run_toStandardOutput {arguments : List String}
    (harguments : readArguments arguments = .ok (.translate settings request))
    (hdestination : request.destination = .standardOutput) (before : FileTree) :
    ∃ outcome, run FileTree.access arguments before = (outcome, before) := by
  by_cases hseveral : 1 < request.files.length
  · exact ⟨_, run_several harguments hdestination hseveral before⟩
  · exact ⟨_, run_print harguments hdestination hseveral before⟩

/-- Paths lead where they have led, and a file to which an input leads in the end keeps its content,
unless it is written over. -/
theorem translate_keeps_inputs {arguments : List String}
    (harguments : readArguments arguments = .ok (.translate settings request))
    (before : FileTree) :
    ∃ outcome after, run FileTree.access arguments before = (outcome, after) ∧
      (request.destination = .standardOutput → after = before) ∧
      (∀ path location, before.locate path = .ok location → after.locate path = .ok location) ∧
      ∀ input ∈ request.files, ∀ location content, after.locate input = .ok location →
        before.node? location = some (.file content) →
        after.node? location = some (.file content) ∨ request.destination ≠ .standardOutput ∧
          ∃ stem first, WrittenOver request before after input location stem first := by
  by_cases hdestination : request.destination = .standardOutput
  · obtain ⟨outcome, hrun⟩ := run_toStandardOutput harguments hdestination before
    exact ⟨outcome, before, hrun, fun _ => rfl, fun _ _ hlocate => hlocate,
      fun _ _ _ _ _ hnode => .inl hnode⟩
  · obtain ⟨turns, after, hinputs, hturns, hrun⟩ :=
      exists_turns_run harguments hdestination before
    refine ⟨_, after, hrun, fun h => absurd h hdestination,
      fun _ _ hlocate => hturns.keepsDirectories.locate hlocate, ?_⟩
    intro input _ location content hlocate hnode
    rcases hturns.kept_or_writtenOver hinputs hlocate hnode with hkept | hover
    · exact .inl hkept
    · exact .inr ⟨hdestination, hover⟩

def detourRequest : TranslateRequest where
  files := [⟨"a.txt"⟩, ⟨"new/../a.xml"⟩]
  multiTop := false
  destination := .directory ⟨"new/.."⟩
  defaultProbability := none

/-- The second input leads nowhere before the directory is made. Then it leads to the file that the tree
of the first input is written to, which itself is kept. -/
theorem overlapping_inputs_kept_or_writtenOver :
    readArguments ["translate", "a.txt", "new/../a.xml", "--out-dir", "new/.."] =
      .ok (.translate ⟨.text, false⟩ detourRequest) ∧
    overlappingFiles.locate ⟨"new/../a.xml"⟩ = .error .notFound ∧
    ∃ outcome after, run FileTree.access ["translate", "a.txt", "new/../a.xml", "--out-dir", "new/.."]
        overlappingFiles = (outcome, after) ∧
      after.locate ⟨"a.txt"⟩ = .ok ["work", "a.txt"] ∧
      overlappingFiles.node? ["work", "a.txt"] = some (.file (Bytes.ofText "A\ng := x & y\n")) ∧
      after.node? ["work", "a.txt"] = some (.file (Bytes.ofText "A\ng := x & y\n")) ∧
      after.locate ⟨"new/../a.xml"⟩ = .ok ["work", "a.xml"] ∧
      overlappingFiles.node? ["work", "a.xml"] = some (.file (Bytes.ofText "A\ng := x | y\n")) ∧
      WrittenOver detourRequest overlappingFiles after ⟨"new/../a.xml"⟩ ["work", "a.xml"] "a"
        ⟨"a.txt"⟩ := by
  have harguments : readArguments ["translate", "a.txt", "new/../a.xml", "--out-dir", "new/.."] =
      .ok (.translate ⟨.text, false⟩ detourRequest) := by decide +kernel
  have htext : overlappingFiles.node? ["work", "a.txt"] =
      some (.file (Bytes.ofText "A\ng := x & y\n")) := by decide +kernel
  have hxml : overlappingFiles.node? ["work", "a.xml"] =
      some (.file (Bytes.ofText "A\ng := x | y\n")) := by decide +kernel
  have hplaces : (run FileTree.access ["translate", "a.txt", "new/../a.xml", "--out-dir", "new/.."]
        overlappingFiles).2.locate ⟨"new/../a.xml"⟩ = .ok ["work", "a.xml"] ∧
      (run FileTree.access ["translate", "a.txt", "new/../a.xml", "--out-dir", "new/.."]
        overlappingFiles).2.node? ["work", "a.xml"] ≠
          some (.file (Bytes.ofText "A\ng := x | y\n")) := by decide +kernel
  obtain ⟨outcome, after, hrun, -, hpaths, hinputs⟩ :=
    translate_keeps_inputs harguments overlappingFiles
  rw [hrun] at hplaces
  obtain ⟨hdetour, hlost⟩ := hplaces
  have hplace : after.locate ⟨"a.txt"⟩ = .ok ["work", "a.txt"] :=
    hpaths _ _ (by decide +kernel)
  refine ⟨harguments, by decide +kernel, outcome, after, hrun, hplace, htext, ?_, hdetour, hxml, ?_⟩
  · rcases hinputs ⟨"a.txt"⟩ (by decide) _ _ hplace htext with hkept | ⟨-, stem, first, hover⟩
    · exact hkept
    · have hstem : "a" = stem := hover.own "a" (by decide +kernel)
      have hother := hover.place
      rw [← hstem] at hother
      exact absurd hother (by decide +kernel)
  · rcases hinputs ⟨"new/../a.xml"⟩ (by decide) _ _ hdetour hxml with
      hkept | ⟨-, stem, first, hover⟩
    · exact absurd hkept hlost
    · obtain rfl : "a" = stem := hover.own "a" (by decide +kernel)
      have hfirst : detourRequest.files.find? (fun other => other.stem? = some "a") =
          some ⟨"a.txt"⟩ := by decide +kernel
      obtain rfl := Option.some.inj (hfirst.symm.trans hover.foremost)
      exact hover

/-- A tree in a file with the name of an output. -/
def xmlFiles : FileTree :=
  (FileTree.empty ["work"]).plantAll [(⟨"a.xml"⟩, .file (Bytes.ofText "A\ng := x & y\n"))]

/-- The tree of a file that has the name of its own output is written over the file. -/
theorem input_named_like_output_lost :
    xmlFiles.readBytes ⟨"a.xml"⟩ = .ok (Bytes.ofText "A\ng := x & y\n") ∧
    readArguments ["translate", "a.xml"] =
      .ok (.translate ⟨.text, false⟩ ⟨[⟨"a.xml"⟩], false, .workingDirectory, none⟩) ∧
    (run FileTree.access ["translate", "a.xml"] xmlFiles).2.readBytes ⟨"a.xml"⟩ ≠
      xmlFiles.readBytes ⟨"a.xml"⟩ := by
  refine ⟨?_, ?_, ?_⟩ <;> decide +kernel

end FaultTreeExchange
