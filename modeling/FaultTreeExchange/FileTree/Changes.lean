import FaultTreeExchange.FileTree.Directories

/-!
# Changes of file trees

A tree is filled from a list of files and directories, and two trees are compared by the files that
are new or changed in the second one.
-/

namespace FaultTreeExchange.FileTree

/-- The tree with a file or directory at a path, and the directories around it. -/
def plant (tree : FileTree) (path : Path) : FileNode → FileTree
  | .directory => (tree.makeDirectories path).2
  | .file content =>
    let tree := (tree.makeDirectories (Path.ofParts path.parts.dropLast)).2
    (tree.writeBytes path content).toOption.getD tree

/-- The tree with files and directories at several paths. -/
def plantAll (tree : FileTree) (entries : List (Path × FileNode)) : FileTree :=
  entries.foldl (fun tree (path, node) => tree.plant path node) tree

/-- The way from one location to another: out of the directories they do not share, and into
others. -/
def wayTo : Location → Location → List String
  | here :: above, there :: below =>
    if here = there then wayTo above below
    else (here :: above).map (fun _ => "..") ++ there :: below
  | above, below => above.map (fun _ => "..") ++ below

/-- The path of a location relative to the working directory. -/
def relativePath (tree : FileTree) (location : Location) : String :=
  "/".intercalate (wayTo tree.workingDirectory location)

/-- The files of a tree that are not the same in an earlier one, by their relative paths and in the
order of these. -/
def changesSince (tree earlier : FileTree) : List (String × Bytes) :=
  let changed := tree.nodes.filterMap fun (location, node) =>
    match node with
    | .directory => none
    | .file content =>
      if earlier.node? location = some (.file content) then none
      else some (tree.relativePath location, content)
  changed.mergeSort fun first second => first.1 ≤ second.1

end FaultTreeExchange.FileTree
