import FaultTreeExchange.FileTree.Basic

/-!
# Making directories

A directory can be made inside one that exists. To make a directory with all directories around it,
it is made at once if possible; if something on the way to it is missing, the directories around it
are made first.
-/

namespace FaultTreeExchange

/-- The paths around a path, the nearest one first and the empty one last. -/
def Path.ancestors (path : Path) : List Path :=
  (List.range path.parts.length).reverse.map fun count => Path.ofParts (path.parts.take count)

namespace FileTree

/-- The text between slashes in which a path ends, behind those before it. Slashes at the end do not
count. -/
def lastSegment (path : Path) : List (List Char) × List Char :=
  match path.segments.reverse.dropWhile List.isEmpty with
  | [] => ([], [])
  | last :: before => (before.reverse, last)

/-- The tree with a new directory at a path. -/
def makeDirectory (tree : FileTree) (path : Path) : Except FileFault FileTree := do
  checkPath path
  let (before, last) := lastSegment path
  let parent ← tree.walk (tree.startOf path) before
  tree.checkDirectory parent
  if last = [] ∨ last = ['.'] ∨ last = ['.', '.'] then .error .alreadyExists
  checkName last
  let location := enter parent last
  match tree.node? location with
  | some _ => .error .alreadyExists
  | none => .ok (tree.put location .directory)

def isDirectory (tree : FileTree) (path : Path) : Bool :=
  match tree.locate path with
  | .error _ => false
  | .ok location => tree.node? location = some .directory

/-- A directory that cannot be made is no fault if there is one already. -/
def allowExisting (tree : FileTree) (path : Path) :
    Except FileFault FileTree → Except FileFault Unit × FileTree
  | .ok made => (.ok (), made)
  | .error fault => (if tree.isDirectory path then .ok () else .error fault, tree)

/-- The tree with a directory at a path and, where they are missing, at the paths around it. What
has been made before a fault stays. -/
def makeAll (tree : FileTree) (path : Path) : List Path → Except FileFault Unit × FileTree
  | [] => (.ok (), tree)
  | parent :: ancestors =>
    match tree.makeDirectory path with
    | .error .notFound =>
      match makeAll tree parent ancestors with
      | (.error fault, tree) => (.error fault, tree)
      | (.ok _, tree) => tree.allowExisting path (tree.makeDirectory path)
    | result => tree.allowExisting path result

/-- The tree with a directory at a path and, where they are missing, at the paths around it. -/
def makeDirectories (tree : FileTree) (path : Path) : Except FileFault Unit × FileTree :=
  tree.makeAll path path.ancestors

end FileTree
end FaultTreeExchange
