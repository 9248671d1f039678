import FaultTreeExchange.Proofs.FileEffects
import FaultTreeExchange.Proofs.PathParts
import Mathlib.Data.List.TakeWhile
import Mathlib.Tactic.Tauto

/-!
# Making directories twice

Where the directories of a path have been made, making them again changes nothing. Where they cannot
be made, what has been made on the way stays, and they cannot be made afterwards either, though the
second attempt may fail at another place and for another reason than the first one.
-/

namespace FaultTreeExchange

namespace FileTree

variable {tree next made files : FileTree} {path : Path} {location : Location}

lemma startOf_parent (h : path.parent.parts ≠ []) (tree : FileTree) :
    tree.startOf path.parent = tree.startOf path := by
  have hhead : path.parent.text.toList.head? = some '/' ↔ path.text.toList.head? = some '/' := by
    rw [Path.head?_eq_slash_iff, Path.head?_eq_slash_iff, Path.parts_parent, List.head?_dropLast,
      if_pos]
    rw [Path.parts_parent, ← List.length_pos_iff, List.length_dropLast] at h
    omega
  unfold startOf
  simp only [hhead]

lemma checkPath_eq_ok_iff :
    checkPath path = .ok () ↔ byteCount path.text.toList ≤ pathLimit ∧ path.text ≠ "" := by
  unfold checkPath
  split
  · rename_i hlimit
    exact iff_of_false nofun fun h => Nat.not_le_of_lt hlimit h.1
  · rename_i hlimit
    split
    · rename_i hempty
      exact iff_of_false nofun fun h => h.2 (String.isEmpty_iff.mp hempty)
    · rename_i hempty
      exact iff_of_true rfl
        ⟨Nat.le_of_not_lt hlimit, fun heq => hempty (String.isEmpty_iff.mpr heq)⟩

lemma byteCount_parent_le (h : path.parent.parts ≠ []) :
    byteCount path.parent.text.toList ≤ byteCount path.text.toList := by
  have hparts := path.isParts_parts.dropLast
  by_cases hroot : path.parts.dropLast = [.root]
  · have hhead : path.text.toList.head? = some '/' := by
      rw [Path.head?_eq_slash_iff]
      have hprefix := List.dropLast_prefix path.parts
      rw [hroot] at hprefix
      obtain ⟨rest, hrest⟩ := hprefix
      rw [← hrest]
      rfl
    obtain ⟨rest, hrest⟩ := List.head?_eq_some_iff.mp hhead
    have hparent : path.parent = ⟨"/"⟩ := by
      rw [Path.parent, hroot]
      decide
    have hone : byteCount "/".toList = 1 := by decide
    have hcons : byteCount ('/' :: rest) = 1 + byteCount rest := rfl
    rw [hparent, hrest, hone, hcons]
    exact Nat.le_add_right _ _
  · have hsegments := Path.segments_ofParts hparts (Path.parts_parent path ▸ h) hroot
    have hsublist := ((List.dropLast_sublist path.parts).map fun part => part.text.toList).trans
      path.map_text_sublist_segments
    have hcount := slashedCount_le hsublist
    rw [← hsegments, slashedCount_segments, slashedCount_segments] at hcount
    exact Nat.le_of_succ_le_succ hcount

lemma checkPath_parent (h : path.parent.parts ≠ []) (hpath : checkPath path = .ok ()) :
    checkPath path.parent = .ok () := by
  obtain ⟨hlimit, -⟩ := checkPath_eq_ok_iff.mp hpath
  refine checkPath_eq_ok_iff.mpr ⟨(byteCount_parent_le h).trans hlimit, fun hempty => h ?_⟩
  have hparent : path.parent = ⟨""⟩ := congrArg Path.mk hempty
  rw [hparent]
  decide

/-! ### Directories on the way -/

/-- The texts between slashes lead from directory to directory, and so to a directory. -/
def Enters (tree : FileTree) (location : Location) : List (List Char) → Prop
  | [] => tree.node? location = some .directory
  | segment :: rest =>
    tree.node? location = some .directory ∧ checkName segment = .ok () ∧
      Enters tree (enter location segment) rest

lemma Enters.directory {segments : List (List Char)} (h : tree.Enters location segments) :
    tree.node? location = some .directory := by
  cases segments with
  | nil => exact h
  | cons segment rest => exact h.1

lemma enters_iff {segments : List (List Char)} :
    tree.Enters location segments ↔
      ∃ last, tree.walk location segments = .ok last ∧ tree.node? last = some .directory := by
  induction segments generalizing location with
  | nil => exact ⟨fun h => ⟨location, rfl, h⟩, fun ⟨_, hwalk, h⟩ => by cases hwalk; exact h⟩
  | cons segment rest ih =>
    constructor
    · rintro ⟨hdirectory, hname, hrest⟩
      obtain ⟨last, hwalk, hlast⟩ := ih.mp hrest
      exact ⟨last, walk_cons_eq_ok_iff.mpr ⟨hdirectory, hname, hwalk⟩, hlast⟩
    · rintro ⟨last, hwalk, hlast⟩
      obtain ⟨hdirectory, hname, hrest⟩ := walk_cons_eq_ok_iff.mp hwalk
      exact ⟨hdirectory, hname, ih.mpr ⟨last, hrest, hlast⟩⟩

lemma enters_append_iff {first second : List (List Char)} :
    tree.Enters location (first ++ second) ↔
      tree.Enters location first ∧ tree.Enters (first.foldl enter location) second := by
  induction first generalizing location with
  | nil => exact ⟨fun h => ⟨h.directory, h⟩, And.right⟩
  | cons segment rest ih =>
    rw [List.cons_append, Enters, Enters, ih, List.foldl_cons]
    tauto

lemma KeepsDirectories.enters (h : tree.KeepsDirectories next) {segments : List (List Char)}
    (henters : tree.Enters location segments) : next.Enters location segments := by
  obtain ⟨last, hwalk, hlast⟩ := enters_iff.mp henters
  exact enters_iff.mpr ⟨last, h.walk hwalk, h.directory last hlast⟩

/-- Only the texts that stand for parts decide whether a path leads through directories. -/
lemma enters_steps_iff {segments : List (List Char)} :
    tree.Enters location ((segments.filterMap PathPart.ofSegment?).map fun part => part.text.toList) ↔
      tree.Enters location segments := by
  induction segments generalizing location with
  | nil => exact Iff.rfl
  | cons segment rest ih =>
    rw [List.filterMap_cons]
    cases hsegment : PathPart.ofSegment? segment with
    | none =>
      have hskipped := skipped_of_ofSegment? hsegment
      have hstay := enter_of_skipped hskipped location
      have hname : checkName segment = .ok () := by
        rcases hskipped with rfl | rfl <;> decide
      rw [Enters, hstay]
      dsimp only
      rw [ih]
      exact ⟨fun h => ⟨h.directory, hname, h⟩, fun h => h.2.2⟩
    | some part =>
      dsimp only
      rw [List.map_cons, PathPart.text_of_ofSegment? hsegment, Enters, Enters, ih]

lemma isDirectory_iff :
    tree.isDirectory path = true ↔
      checkPath path = .ok () ∧ tree.Enters (tree.startOf path) path.segments := by
  unfold isDirectory
  rw [enters_iff]
  cases hlocate : tree.locate path with
  | error fault =>
    refine iff_of_false Bool.false_ne_true ?_
    rintro ⟨hpath, last, hwalk, -⟩
    rw [locate_eq_ok_iff.mpr ⟨hpath, hwalk⟩] at hlocate
    cases hlocate
  | ok location =>
    obtain ⟨hpath, hwalk⟩ := locate_eq_ok_iff.mp hlocate
    simp [hpath, hwalk]

lemma KeepsDirectories.isDirectory (h : tree.KeepsDirectories next)
    (hdirectory : tree.isDirectory path = true) : next.isDirectory path = true := by
  obtain ⟨hpath, henters⟩ := isDirectory_iff.mp hdirectory
  rw [isDirectory_iff, h.startOf_eq]
  exact ⟨hpath, h.enters henters⟩

lemma isDirectory_parent (h : path.parent.parts ≠ []) (hpath : checkPath path = .ok ())
    (henters : tree.Enters (tree.startOf path)
      (path.steps.dropLast.map fun part => part.text.toList)) :
    tree.isDirectory path.parent = true := by
  rw [isDirectory_iff, startOf_parent h]
  refine ⟨checkPath_parent h hpath, enters_steps_iff.mp ?_⟩
  rw [← Path.steps_parent] at henters
  exact henters

lemma isDirectory_parent_of_isDirectory (h : path.parent.parts ≠ [])
    (hdirectory : tree.isDirectory path = true) : tree.isDirectory path.parent = true := by
  obtain ⟨hpath, henters⟩ := isDirectory_iff.mp hdirectory
  refine isDirectory_parent h hpath ?_
  have hsteps := enters_steps_iff.mpr henters
  obtain ⟨rest, hrest⟩ := (List.dropLast_prefix path.steps).map fun part => part.text.toList
  rw [← Path.steps, ← hrest] at hsteps
  exact (enters_append_iff.mp hsteps).1

/-! ### Making a directory -/

/-- The text in which a path ends stands behind the others, and nothing but slashes behind it. -/
lemma lastSegment_cases (path : Path) :
    (lastSegment path = ([], []) ∧ ∀ segment ∈ path.segments, segment = []) ∨
    ∃ before last blanks, lastSegment path = (before, last) ∧ last ≠ [] ∧
      path.segments = before ++ last :: blanks ∧ ∀ segment ∈ blanks, segment = [] := by
  unfold lastSegment
  have hparts := List.takeWhile_append_dropWhile
    (p := List.isEmpty) (l := path.segments.reverse)
  have hblank : ∀ segment ∈ path.segments.reverse.takeWhile List.isEmpty, segment = [] :=
    fun segment hsegment => List.isEmpty_iff.mp (List.mem_takeWhile_imp hsegment)
  split
  · rename_i hnil
    refine .inl ⟨rfl, fun segment hsegment => hblank segment ?_⟩
    rw [hnil, List.append_nil] at hparts
    rw [hparts]
    exact List.mem_reverse.mpr hsegment
  · rename_i last before hcons
    refine .inr ⟨before.reverse, last, (path.segments.reverse.takeWhile List.isEmpty).reverse, rfl,
      ?_, ?_, fun segment hsegment => hblank segment (List.mem_reverse.mp hsegment)⟩
    · have hhead := List.head?_dropWhile_not List.isEmpty path.segments.reverse
      rw [hcons] at hhead
      simpa using hhead
    · rw [hcons] at hparts
      have hreverse := congrArg List.reverse hparts
      rw [List.reverse_reverse, List.reverse_append, List.reverse_cons, List.append_assoc,
        List.singleton_append] at hreverse
      exact hreverse.symm

lemma enters_blanks_iff {blanks : List (List Char)} (h : ∀ segment ∈ blanks, segment = []) :
    tree.Enters location blanks ↔ tree.node? location = some .directory := by
  induction blanks with
  | nil => exact Iff.rfl
  | cons segment rest ih =>
    obtain ⟨rfl, hrest⟩ := List.forall_mem_cons.mp h
    have hname : checkName [] = .ok () := by decide
    rw [Enters]
    exact ⟨And.left, fun hnode => ⟨hnode, hname, (ih hrest).mpr hnode⟩⟩

lemma Enters.node?_foldl {segments : List (List Char)} (h : tree.Enters location segments) :
    tree.node? (segments.foldl enter location) = some .directory := by
  obtain ⟨last, hwalk, hlast⟩ := enters_iff.mp h
  rwa [← eq_foldl_of_walk hwalk]

variable {before : List (List Char)} {last : List Char}

/-- From where the last text of a path counts, making a directory depends on that text only. -/
lemma makeDirectory_eq (hpath : checkPath path = .ok ()) (hlast : lastSegment path = (before, last))
    (henters : tree.Enters (tree.startOf path) before) :
    tree.makeDirectory path =
      if last = [] ∨ last = ['.'] ∨ last = ['.', '.'] then .error .alreadyExists
      else checkName last >>= fun _ =>
        match tree.node? (enter (before.foldl enter (tree.startOf path)) last) with
        | some _ => .error .alreadyExists
        | none =>
          .ok (tree.put (enter (before.foldl enter (tree.startOf path)) last) .directory) := by
  obtain ⟨parent, hwalk, hparent⟩ := enters_iff.mp henters
  obtain rfl := eq_foldl_of_walk hwalk
  have hcheck := checkDirectory_eq_ok_iff.mpr hparent
  unfold makeDirectory
  rw [hpath, hlast]
  by_cases hentry : last = [] ∨ last = ['.'] ∨ last = ['.', '.']
  · simp only [bind, Except.bind, hwalk, hcheck, if_pos hentry]
  · cases hname : checkName last with
    | error fault => simp only [bind, Except.bind, hwalk, hcheck, if_neg hentry, hname]
    | ok =>
      cases hnode : tree.node? (enter (before.foldl enter (tree.startOf path)) last) <;>
        simp only [bind, Except.bind, hwalk, hcheck, if_neg hentry, hname, hnode]

lemma exists_of_makeDirectory (h : tree.makeDirectory path = .ok made) :
    ∃ before last, lastSegment path = (before, last) ∧ checkPath path = .ok () ∧
      tree.Enters (tree.startOf path) before := by
  unfold makeDirectory at h
  obtain ⟨⟨⟩, hpath, h⟩ := bind_eq_ok_iff.mp h
  obtain ⟨parent, hwalk, h⟩ := bind_eq_ok_iff.mp h
  obtain ⟨⟨⟩, hparent, -⟩ := bind_eq_ok_iff.mp h
  exact ⟨_, _, rfl, hpath, enters_iff.mpr ⟨parent, hwalk, checkDirectory_eq_ok_iff.mp hparent⟩⟩

lemma makeDirectory_of_isDirectory (h : tree.isDirectory path = true) :
    tree.makeDirectory path = .error .alreadyExists := by
  obtain ⟨hpath, henters⟩ := isDirectory_iff.mp h
  rcases lastSegment_cases path with ⟨hlast, -⟩ | ⟨before, last, blanks, hlast, -, hsegments, hblanks⟩
  · rw [makeDirectory_eq hpath hlast henters.directory, if_pos (.inl rfl)]
  · rw [hsegments] at henters
    obtain ⟨hbefore, -, hname, hblank⟩ := enters_append_iff.mp henters
    rw [makeDirectory_eq hpath hlast hbefore]
    split
    · rfl
    · rw [hname, hblank.directory]
      rfl

lemma isDirectory_of_makeDirectory (h : tree.makeDirectory path = .ok made) :
    made.isDirectory path = true := by
  have hkeeps := (grows_makeDirectory h).keepsDirectories
  obtain ⟨before, last, hlast, hpath, hbefore⟩ := exists_of_makeDirectory h
  rw [makeDirectory_eq hpath hlast hbefore] at h
  split at h
  · cases h
  · rename_i hentry
    obtain ⟨⟨⟩, hname, h⟩ := bind_eq_ok_iff.mp h
    rw [isDirectory_iff, hkeeps.startOf_eq]
    refine ⟨hpath, ?_⟩
    rcases lastSegment_cases path with
      ⟨hnone, -⟩ | ⟨before', last', blanks, hlast', -, hsegments, hblanks⟩
    · rw [hnone] at hlast
      cases hlast
      exact absurd (.inl rfl) hentry
    · rw [hlast] at hlast'
      cases hlast'
      have hbefore' := hkeeps.enters hbefore
      rw [hsegments, enters_append_iff]
      refine ⟨hbefore', hbefore'.node?_foldl, hname, (enters_blanks_iff hblanks).mpr ?_⟩
      split at h
      · cases h
      · cases h
        rw [node?_put, if_pos rfl]

lemma isDirectory_parent_of_makeDirectory (h : path.parent.parts ≠ [])
    (hmake : tree.makeDirectory path = .ok made) : tree.isDirectory path.parent = true := by
  obtain ⟨before, last, hlast, hpath, hbefore⟩ := exists_of_makeDirectory hmake
  refine isDirectory_parent h hpath ?_
  rw [makeDirectory_eq hpath hlast hbefore] at hmake
  split at hmake
  · cases hmake
  · rename_i hentry
    rcases lastSegment_cases path with
      ⟨hnone, -⟩ | ⟨before', last', blanks, hlast', -, hsegments, hblanks⟩
    · rw [hnone] at hlast
      cases hlast
      exact absurd (.inl rfl) hentry
    · rw [hlast] at hlast'
      cases hlast'
      rw [not_or, not_or] at hentry
      have hblank : blanks.filterMap PathPart.ofSegment? = [] :=
        List.filterMap_eq_nil_iff.mpr fun segment hsegment => by rw [hblanks segment hsegment]; rfl
      have hpart : PathPart.ofSegment? last = some (.name (String.ofList last)) := by
        unfold PathPart.ofSegment?
        rw [if_neg (by simp [hentry.1, hentry.2.1]), if_neg hentry.2.2]
      have hsteps : path.steps.dropLast = before.filterMap PathPart.ofSegment? := by
        rw [Path.steps, hsegments, List.filterMap_append, List.filterMap_cons, hpart, hblank]
        exact List.dropLast_concat
      rw [hsteps]
      exact enters_steps_iff.mpr hbefore

/-! ### Making all directories of a path -/

lemma makeDirectories_of_parts_eq_nil (h : path.parts = []) (tree : FileTree) :
    tree.makeDirectories path = (.ok (), tree) := by
  have hancestors : path.ancestors = [] := by
    unfold Path.ancestors
    rw [h]
    rfl
  unfold makeDirectories
  rw [hancestors]
  rfl

/-- The directory of a path is made at once, or behind those around it if something on the way to it
is missing. -/
lemma makeDirectories_eq (h : path.parts ≠ []) (tree : FileTree) :
    tree.makeDirectories path =
      match tree.makeDirectory path with
      | .error .notFound =>
        match tree.makeDirectories path.parent with
        | (.error fault, made) => (.error fault, made)
        | (.ok _, made) => made.allowExisting path (made.makeDirectory path)
      | result => tree.allowExisting path result := by
  unfold makeDirectories
  rw [Path.ancestors_eq h]
  cases hmake : tree.makeDirectory path with
  | ok made => simp only [makeAll, hmake]
  | error fault =>
    cases hparent : tree.makeAll path.parent path.parent.ancestors with
    | mk result made => cases fault <;> cases result <;> simp only [makeAll, hmake, hparent]

lemma makeDirectories_of_isDirectory (h : tree.isDirectory path = true) :
    tree.makeDirectories path = (.ok (), tree) := by
  by_cases hparts : path.parts = []
  · exact makeDirectories_of_parts_eq_nil hparts tree
  · rw [makeDirectories_eq hparts, makeDirectory_of_isDirectory h]
    dsimp only [allowExisting]
    rw [if_pos h]

lemma isDirectory_of_allowExisting {result : Except FileFault FileTree}
    (hresult : ∀ next, result = .ok next → next.isDirectory path = true)
    (h : tree.allowExisting path result = (.ok (), made)) : made.isDirectory path = true := by
  cases result with
  | ok next =>
    cases h
    exact hresult _ rfl
  | error fault =>
    dsimp only [allowExisting] at h
    by_cases hdirectory : tree.isDirectory path = true
    · rw [if_pos hdirectory] at h
      cases h
      exact hdirectory
    · rw [if_neg hdirectory] at h
      cases h

lemma isDirectory_of_makeDirectories (hparts : path.parts ≠ [])
    (h : tree.makeDirectories path = (.ok (), made)) : made.isDirectory path = true := by
  have hmake : ∀ tree : FileTree, ∀ next, tree.makeDirectory path = .ok next →
      next.isDirectory path = true := fun _ _ => isDirectory_of_makeDirectory
  rw [makeDirectories_eq hparts] at h
  split at h
  · split at h
    · cases h
    · exact isDirectory_of_allowExisting (hmake _) h
  · exact isDirectory_of_allowExisting (hmake _) h

/-- Making directories once more changes nothing, also after other changes that keep them. -/
theorem makeDirectories_again (h : tree.makeDirectories path = (.ok (), made))
    (hkeeps : made.KeepsDirectories files) : files.makeDirectories path = (.ok (), files) := by
  by_cases hparts : path.parts = []
  · exact makeDirectories_of_parts_eq_nil hparts files
  · exact makeDirectories_of_isDirectory (hkeeps.isDirectory (isDirectory_of_makeDirectories hparts h))

lemma makeDirectories_parent_of_isDirectory (h : tree.isDirectory path = true) :
    tree.makeDirectories path.parent = (.ok (), tree) := by
  by_cases hparent : path.parent.parts = []
  · exact makeDirectories_of_parts_eq_nil hparent tree
  · exact makeDirectories_of_isDirectory (isDirectory_parent_of_isDirectory hparent h)

lemma makeDirectories_parent_of_makeDirectory (h : tree.makeDirectory path = .ok made) :
    tree.makeDirectories path.parent = (.ok (), tree) := by
  by_cases hparent : path.parent.parts = []
  · exact makeDirectories_of_parts_eq_nil hparent tree
  · exact makeDirectories_of_isDirectory (isDirectory_parent_of_makeDirectory hparent h)

lemma allowExisting_error {fault : FileFault} (h : tree.isDirectory path = false) :
    tree.allowExisting path (.error fault) = (.error fault, tree) := by
  dsimp only [allowExisting]
  rw [if_neg (by simp [h])]

lemma eq_of_allowExisting_error {fault : FileFault} {result : Except FileFault FileTree}
    (h : tree.allowExisting path result = (.error fault, made)) :
    result = .error fault ∧ tree.isDirectory path = false ∧ made = tree := by
  cases result with
  | ok next => cases h
  | error other =>
    dsimp only [allowExisting] at h
    cases hdirectory : tree.isDirectory path with
    | true =>
      rw [if_pos hdirectory] at h
      cases h
    | false =>
      rw [if_neg (by simp [hdirectory])] at h
      cases h
      exact ⟨rfl, rfl, rfl⟩

lemma makeDirectories_fails {fault : FileFault} (hparts : path.parts ≠ [])
    (hmake : tree.makeDirectory path = .error fault) (hdirectory : tree.isDirectory path = false)
    (hparent : fault = .notFound → ∃ result, tree.makeDirectories path.parent = (result, tree)) :
    ∃ again, tree.makeDirectories path = (.error again, tree) := by
  rw [makeDirectories_eq hparts, hmake]
  cases fault with
  | notFound =>
    obtain ⟨result, hresult⟩ := hparent rfl
    dsimp only
    rw [hresult]
    cases result with
    | error again => exact ⟨again, rfl⟩
    | ok =>
      dsimp only
      rw [hmake]
      exact ⟨_, allowExisting_error hdirectory⟩
  | alreadyExists | notDirectory | isDirectory | nameTooLong | invalidText =>
    exact ⟨_, allowExisting_error hdirectory⟩

/-- Directories that could not be made cannot be made afterwards either. -/
theorem makeDirectories_fails_again {fault : FileFault}
    (h : tree.makeDirectories path = (.error fault, made)) :
    ∃ again, made.makeDirectories path = (.error again, made) := by
  induction hcount : path.parts.length generalizing path fault with
  | zero =>
    rw [makeDirectories_of_parts_eq_nil (List.length_eq_zero_iff.mp hcount)] at h
    cases h
  | succ count ih =>
    have hparts : path.parts ≠ [] := List.ne_nil_of_length_eq_add_one hcount
    have hlength : path.parent.parts.length = count := by
      rw [Path.parts_parent, List.length_dropLast, hcount]
      rfl
    have h' := h
    rw [makeDirectories_eq hparts] at h
    split at h
    · rename_i hmissing
      cases hparent : tree.makeDirectories path.parent with
      | mk result next =>
        rw [hparent] at h
        cases result with
        | error other =>
          -- A directory at the path, or a place for one, would make the parent a directory.
          cases h
          obtain ⟨again, hagain⟩ := ih hparent hlength
          cases hdirectory : made.isDirectory path with
          | true =>
            rw [makeDirectories_parent_of_isDirectory hdirectory] at hagain
            cases hagain
          | false =>
            cases hmake : made.makeDirectory path with
            | ok next =>
              rw [makeDirectories_parent_of_makeDirectory hmake] at hagain
              cases hagain
            | error third => exact makeDirectories_fails hparts hmake hdirectory fun _ => ⟨_, hagain⟩
        | ok =>
          obtain ⟨hmake, hdirectory, rfl⟩ := eq_of_allowExisting_error h
          have hagain := makeDirectories_again hparent (KeepsDirectories.refl made)
          exact makeDirectories_fails hparts hmake hdirectory fun _ => ⟨_, hagain⟩
    · obtain ⟨-, -, rfl⟩ := eq_of_allowExisting_error h
      exact ⟨fault, h'⟩

end FileTree
end FaultTreeExchange
