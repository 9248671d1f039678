import FaultTreeExchange.FileTree.Directories
import FaultTreeExchange.Proofs.Occurrence

/-!
# What operations on files change

Making directories adds directories and touches no file. Writing changes the one location that the
path leads to, and a path that leads somewhere keeps leading there afterwards. Two entries of one
directory have different locations when their names differ.
-/

namespace FaultTreeExchange.FileTree

variable {tree next last : FileTree} {path directory : Path} {location other : Location}
  {node : FileNode} {content : Bytes}

/-! ### Nodes -/

lemma lookup_filter_ne {nodes : List (Location × FileNode)} (h : other ≠ location) :
    (nodes.filter fun entry => entry.1 ≠ location).lookup other = nodes.lookup other := by
  induction nodes with
  | nil => rfl
  | cons entry rest ih =>
    obtain ⟨key, value⟩ := entry
    by_cases hkey : key = location
    · have hother : (other == key) = false := beq_eq_false_iff_ne.mpr (hkey ▸ h)
      rw [List.filter_cons_of_neg (by simp [hkey]), List.lookup_cons, hother]
      exact ih
    · rw [List.filter_cons_of_pos (by simp [hkey]), List.lookup_cons, List.lookup_cons, ih]

lemma node?_put (tree : FileTree) (location : Location) (node : FileNode) (other : Location) :
    (tree.put location node).node? other =
      if other = location then some node else tree.node? other := by
  unfold put node?
  by_cases h : other = location
  · simp [h]
  · rw [List.lookup_cons, beq_eq_false_iff_ne.mpr h, if_neg h]
    exact lookup_filter_ne h

/-! ### Paths and locations -/

lemma checkDirectory_eq_ok_iff :
    tree.checkDirectory location = .ok () ↔ tree.node? location = some .directory := by
  unfold checkDirectory
  cases tree.node? location with
  | none => simp
  | some node => cases node <;> simp

/-- All directories of the first tree are directories of the second one. -/
structure KeepsDirectories (tree next : FileTree) : Prop where
  workingDirectory : next.workingDirectory = tree.workingDirectory
  directory : ∀ location, tree.node? location = some .directory →
    next.node? location = some .directory

lemma KeepsDirectories.refl (tree : FileTree) : tree.KeepsDirectories tree :=
  ⟨rfl, fun _ h => h⟩

lemma KeepsDirectories.trans (h : tree.KeepsDirectories next) (hnext : next.KeepsDirectories last) :
    tree.KeepsDirectories last :=
  ⟨hnext.workingDirectory.trans h.workingDirectory,
    fun location hlocation => hnext.directory location (h.directory location hlocation)⟩

lemma walk_cons_eq_ok_iff {segment : List Char} {rest : List (List Char)} :
    tree.walk other (segment :: rest) = .ok location ↔
      tree.node? other = some .directory ∧ checkName segment = .ok () ∧
        tree.walk (enter other segment) rest = .ok location := by
  rw [walk]
  constructor
  · intro h
    obtain ⟨⟨⟩, hdirectory, h⟩ := bind_eq_ok_iff.mp h
    obtain ⟨⟨⟩, hname, hrest⟩ := bind_eq_ok_iff.mp h
    exact ⟨checkDirectory_eq_ok_iff.mp hdirectory, hname, hrest⟩
  · rintro ⟨hdirectory, hname, hrest⟩
    refine bind_eq_ok_iff.mpr ⟨(), checkDirectory_eq_ok_iff.mpr hdirectory, ?_⟩
    exact bind_eq_ok_iff.mpr ⟨(), hname, hrest⟩

/-- Where a path leads does not depend on what stands there. -/
lemma eq_foldl_of_walk {segments : List (List Char)} (h : tree.walk other segments = .ok location) :
    location = segments.foldl enter other := by
  induction segments generalizing other with
  | nil =>
    rw [walk] at h
    cases h
    rfl
  | cons segment rest ih => exact ih (walk_cons_eq_ok_iff.mp h).2.2

lemma KeepsDirectories.walk (h : tree.KeepsDirectories next) {segments : List (List Char)}
    (hwalk : tree.walk other segments = .ok location) : next.walk other segments = .ok location := by
  induction segments generalizing other with
  | nil => exact hwalk
  | cons segment rest ih =>
    obtain ⟨hdirectory, hname, hrest⟩ := walk_cons_eq_ok_iff.mp hwalk
    exact walk_cons_eq_ok_iff.mpr ⟨h.directory _ hdirectory, hname, ih hrest⟩

lemma locate_eq_ok_iff :
    tree.locate path = .ok location ↔
      checkPath path = .ok () ∧ tree.walk (tree.startOf path) path.segments = .ok location := by
  unfold locate
  constructor
  · intro h
    obtain ⟨⟨⟩, hpath, hwalk⟩ := bind_eq_ok_iff.mp h
    exact ⟨hpath, hwalk⟩
  · rintro ⟨hpath, hwalk⟩
    exact bind_eq_ok_iff.mpr ⟨(), hpath, hwalk⟩

lemma KeepsDirectories.startOf_eq (h : tree.KeepsDirectories next) (path : Path) :
    next.startOf path = tree.startOf path := by
  unfold startOf
  rw [h.workingDirectory]

theorem KeepsDirectories.locate (h : tree.KeepsDirectories next)
    (hlocate : tree.locate path = .ok location) : next.locate path = .ok location := by
  obtain ⟨hpath, hwalk⟩ := locate_eq_ok_iff.mp hlocate
  rw [locate_eq_ok_iff, h.startOf_eq]
  exact ⟨hpath, h.walk hwalk⟩

/-! ### Entries of a directory -/

/-- A name that stands for an entry of a directory. -/
structure IsEntry (name : String) : Prop where
  ne_empty : name.toList ≠ []
  ne_point : name.toList ≠ ['.']
  ne_points : name.toList ≠ ['.', '.']
  no_slash : '/' ∉ name.toList

lemma enter_of_isEntry {name : String} (h : IsEntry name) (location : Location) :
    enter location name.toList = location ++ [name] := by
  unfold enter
  rw [if_neg (by simp [h.ne_empty, h.ne_point]), if_neg h.ne_points, String.ofList_toList]

/-- The location of the directory itself. The empty path stands for the working directory. -/
def directoryLocation (tree : FileTree) (directory : Path) : Location :=
  directory.segments.foldl enter (tree.startOf directory)

/-- The name of an entry stands behind the texts of its directory, save an empty text at their end. -/
lemma exists_segments_join {name : String} (h : IsEntry name) (directory : Path) :
    ∃ front, (directory.join name).segments = front ++ [name.toList] ∧
      (directory.segments = front ∨ directory.segments = front ++ [[]]) := by
  have hname := List.splitOn_eq_singleton h.no_slash
  have hbehind : ∀ text : List Char,
      (text ++ '/' :: name.toList).splitOn '/' = text.splitOn '/' ++ [name.toList] := by
    intro text
    rw [List.splitOn_append_cons_self, hname]
  unfold Path.join Path.segments
  split
  · rename_i hlast
    refine ⟨[], hname, .inr ?_⟩
    rw [List.getLast?_eq_none_iff.mp hlast]
    rfl
  · rename_i hlast
    obtain ⟨before, htext⟩ := List.getLast?_eq_some_iff.mp hlast
    refine ⟨before.splitOn '/', ?_, .inr ?_⟩
    · rw [String.toList_append, htext, List.append_assoc, List.singleton_append, hbehind]
    · rw [htext, List.splitOn_append_cons_self, List.splitOn_nil]
  · refine ⟨directory.text.toList.splitOn '/', ?_, .inl rfl⟩
    rw [String.toList_append, String.toList_append, List.append_assoc]
    exact hbehind directory.text.toList

lemma foldl_enter_of_front {segments front : List (List Char)}
    (h : segments = front ∨ segments = front ++ [[]]) (location : Location) :
    segments.foldl enter location = front.foldl enter location := by
  rcases h with rfl | rfl
  · rfl
  · rw [List.foldl_append]
    rfl

lemma foldl_enter_segments_join {name : String} (h : IsEntry name) (directory : Path)
    (location : Location) :
    (directory.join name).segments.foldl enter location =
      directory.segments.foldl enter location ++ [name] := by
  obtain ⟨front, hjoin, hdirectory⟩ := exists_segments_join h directory
  rw [hjoin, List.foldl_append, foldl_enter_of_front hdirectory]
  exact enter_of_isEntry h _

lemma startOf_join {name : String} (h : IsEntry name) (tree : FileTree) (directory : Path) :
    tree.startOf (directory.join name) = tree.startOf directory := by
  have hhead : (directory.join name).text.toList.head? = some '/' ↔
      directory.text.toList.head? = some '/' := by
    unfold Path.join
    cases htext : directory.text.toList with
    | nil =>
      have hname : name.toList.head? ≠ some '/' := fun hslash => h.no_slash (List.mem_of_head? hslash)
      simpa using hname
    | cons c rest =>
      split
      · rename_i hlast
        cases hlast
      · simp [htext]
      · simp [htext]
  unfold startOf
  simp only [hhead]

theorem eq_of_locate_join {name : String} (h : IsEntry name)
    (hlocate : tree.locate (directory.join name) = .ok location) :
    location = tree.directoryLocation directory ++ [name] := by
  rw [eq_foldl_of_walk (locate_eq_ok_iff.mp hlocate).2, startOf_join h, foldl_enter_segments_join h]
  rfl

/-! ### Making directories, reading and writing files -/

/-- The second tree has more directories than the first one, and is the same otherwise. -/
structure Grows (tree next : FileTree) : Prop where
  workingDirectory : next.workingDirectory = tree.workingDirectory
  kept : ∀ location node, tree.node? location = some node → next.node? location = some node
  added : ∀ location node, next.node? location = some node →
    tree.node? location = some node ∨ node = .directory

lemma Grows.refl (tree : FileTree) : tree.Grows tree :=
  ⟨rfl, fun _ _ h => h, fun _ _ h => .inl h⟩

lemma Grows.trans (h : tree.Grows next) (hnext : next.Grows last) : tree.Grows last where
  workingDirectory := hnext.workingDirectory.trans h.workingDirectory
  kept := fun location node hnode => hnext.kept location node (h.kept location node hnode)
  added := by
    intro location node hnode
    rcases hnext.added location node hnode with hnode | hdirectory
    · exact h.added location node hnode
    · exact .inr hdirectory

lemma Grows.keepsDirectories (h : tree.Grows next) : tree.KeepsDirectories next :=
  ⟨h.workingDirectory, fun location => h.kept location .directory⟩

lemma Grows.node?_file_iff (h : tree.Grows next) :
    next.node? location = some (.file content) ↔ tree.node? location = some (.file content) := by
  constructor
  · intro hnode
    rcases h.added location _ hnode with hnode | hdirectory
    · exact hnode
    · cases hdirectory
  · exact h.kept location _

lemma grows_put_directory (h : tree.node? location = none) :
    tree.Grows (tree.put location .directory) where
  workingDirectory := rfl
  kept := by
    intro other node hnode
    rw [node?_put, if_neg]
    · exact hnode
    · rintro rfl
      rw [h] at hnode
      cases hnode
  added := by
    intro other node hnode
    rw [node?_put] at hnode
    split at hnode
    · exact .inr (Option.some.inj hnode).symm
    · exact .inl hnode

lemma grows_makeDirectory (h : tree.makeDirectory path = .ok next) : tree.Grows next := by
  unfold makeDirectory at h
  generalize lastSegment path = parts at h
  obtain ⟨before, last⟩ := parts
  obtain ⟨-, -, h⟩ := bind_eq_ok_iff.mp h
  obtain ⟨parent, -, h⟩ := bind_eq_ok_iff.mp h
  obtain ⟨-, -, h⟩ := bind_eq_ok_iff.mp h
  dsimp only at h
  split at h
  · cases h
  · obtain ⟨-, -, h⟩ := bind_eq_ok_iff.mp h
    split at h
    · cases h
    · rename_i hnode
      cases h
      exact grows_put_directory hnode

lemma grows_allowExisting {result : Except FileFault FileTree}
    (h : ∀ made, result = .ok made → tree.Grows made) :
    tree.Grows (tree.allowExisting path result).2 := by
  unfold allowExisting
  cases result with
  | ok made => exact h made rfl
  | error fault => exact Grows.refl tree

lemma grows_makeAll (tree : FileTree) (path : Path) (ancestors : List Path) :
    tree.Grows (tree.makeAll path ancestors).2 := by
  induction ancestors generalizing tree path with
  | nil => exact Grows.refl tree
  | cons parent ancestors ih =>
    unfold makeAll
    split
    · have hparent := ih tree parent
      split
      · rename_i hresult
        rw [hresult] at hparent
        exact hparent
      · rename_i hresult
        rw [hresult] at hparent
        exact hparent.trans (grows_allowExisting fun _ => grows_makeDirectory)
    · exact grows_allowExisting fun _ => grows_makeDirectory

theorem grows_makeDirectories (tree : FileTree) (path : Path) :
    tree.Grows (tree.makeDirectories path).2 :=
  grows_makeAll tree path path.ancestors

lemma readBytes_eq_ok_iff :
    tree.readBytes path = .ok content ↔
      ∃ location, tree.locate path = .ok location ∧ tree.node? location = some (.file content) := by
  unfold readBytes
  cases tree.locate path with
  | error fault => simp
  | ok location =>
    cases hnode : tree.node? location with
    | none => simp [hnode]
    | some node => cases node <;> simp [hnode]

theorem writeBytes_eq_ok_iff :
    tree.writeBytes path content = .ok next ↔
      ∃ location, tree.locate path = .ok location ∧ tree.node? location ≠ some .directory ∧
        next = tree.put location (.file content) := by
  unfold writeBytes
  cases tree.locate path with
  | error fault => simp
  | ok location =>
    cases hnode : tree.node? location with
    | none => simp [hnode, eq_comm]
    | some node => cases node <;> simp [hnode, eq_comm]

lemma keepsDirectories_put_file (h : tree.node? location ≠ some .directory) :
    tree.KeepsDirectories (tree.put location (.file content)) where
  workingDirectory := rfl
  directory := by
    intro other hother
    rw [node?_put, if_neg]
    · exact hother
    · rintro rfl
      exact h hother

end FaultTreeExchange.FileTree
