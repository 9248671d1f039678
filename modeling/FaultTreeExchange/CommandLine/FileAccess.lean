import FaultTreeExchange.FileTree.Directories

/-!
# Access to files

What the commands need of the place where their files are. They run on a file tree, and in the same
way on the files of a machine. A failure is given by its description.
-/

namespace FaultTreeExchange.CommandLine

/-- The operations on files, in the order of whose effects the commands run. -/
structure FileAccess (m : Type → Type) where
  /-- The text of a file. -/
  read : Path → m (Except String String)
  /-- Makes a directory and the directories around it, where they are missing. -/
  makeDirectories : Path → m (Except String Unit)
  /-- Puts a text into a file in place of what it holds. -/
  write : Path → String → m (Except String Unit)

end FaultTreeExchange.CommandLine

namespace FaultTreeExchange.FileTree

open FaultTreeExchange.CommandLine

/-- The text of the file at a path, or the description of what is wrong. -/
def readText (tree : FileTree) (path : Path) : Except String String :=
  (tree.read path).mapError FileFault.message

/-- The description of what was wrong with an operation, and the tree after it. -/
def makeDirectoriesOr (tree : FileTree) (path : Path) : Except String Unit × FileTree :=
  let (result, tree) := tree.makeDirectories path
  (result.mapError FileFault.message, tree)

/-- The description of what was wrong with writing a text, and the tree after it. -/
def writeOr (tree : FileTree) (path : Path) (text : String) : Except String Unit × FileTree :=
  match tree.write path text with
  | .ok tree => (.ok (), tree)
  | .error fault => (.error fault.message, tree)

def access : FileAccess (StateM FileTree) where
  read path := fun tree => (tree.readText path, tree)
  makeDirectories path := fun tree => tree.makeDirectoriesOr path
  write path text := fun tree => tree.writeOr path text

end FaultTreeExchange.FileTree
