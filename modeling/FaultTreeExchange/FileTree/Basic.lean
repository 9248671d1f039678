import FaultTreeExchange.Path.Basic

/-!
# File trees

Directories and files under a root directory, without links and permissions, and a working directory
from which relative paths start. Every part of a path but its last has to lead into a directory that
exists; a path that ends with a slash or a point has to lead to a directory. Names and paths have a
greatest length, counted in bytes.
-/

namespace FaultTreeExchange

/-- The names on the way from the root directory to a file or directory. -/
abbrev Location := List String

/-- The content of a file. -/
abbrev Bytes := List UInt8

def Bytes.ofText (text : String) : Bytes :=
  text.toUTF8.data.toList

/-- The text of bytes that stand for one. -/
def Bytes.text? (bytes : Bytes) : Option String :=
  String.fromUTF8? ⟨bytes.toArray⟩

def byteCount (text : List Char) : Nat :=
  text.foldr (fun c count => c.utf8Size + count) 0

/-- The greatest count of bytes of the name of a file or directory. -/
def nameLimit : Nat := 255

/-- The greatest count of bytes of a path. -/
def pathLimit : Nat := 4095

/-- What stands at a location. -/
inductive FileNode where
  | file (content : Bytes)
  | directory
  deriving DecidableEq, Repr

/-- Why an operation on files fails. -/
inductive FileFault where
  | notFound
  | alreadyExists
  | notDirectory
  | isDirectory
  | nameTooLong
  | invalidText
  deriving DecidableEq, Repr

def FileFault.message : FileFault → String
  | .notFound => "No such file or directory (os error 2)"
  | .alreadyExists => "File exists (os error 17)"
  | .notDirectory => "Not a directory (os error 20)"
  | .isDirectory => "Is a directory (os error 21)"
  | .nameTooLong => "File name too long (os error 36)"
  | .invalidText => "stream did not contain valid UTF-8"

/-- Files and directories by location, and the working directory. -/
structure FileTree where
  nodes : List (Location × FileNode)
  workingDirectory : Location
  deriving DecidableEq, Repr

namespace FileTree

/-- The tree that holds nothing but the working directory and the directories around it. -/
def empty (workingDirectory : Location) : FileTree where
  nodes := (List.range (workingDirectory.length + 1)).map fun depth =>
    (workingDirectory.take depth, .directory)
  workingDirectory := workingDirectory

def node? (tree : FileTree) (location : Location) : Option FileNode :=
  tree.nodes.lookup location

/-- The tree with something else at one location. -/
def put (tree : FileTree) (location : Location) (node : FileNode) : FileTree :=
  { tree with nodes := (location, node) :: tree.nodes.filter fun entry => entry.1 ≠ location }

/-- Something is a directory that can be entered. -/
def checkDirectory (tree : FileTree) (location : Location) : Except FileFault Unit :=
  match tree.node? location with
  | none => .error .notFound
  | some (.file _) => .error .notDirectory
  | some .directory => .ok ()

/-- A text between two slashes is no longer than a name may be. -/
def checkName (segment : List Char) : Except FileFault Unit :=
  if nameLimit < byteCount segment then .error .nameTooLong else .ok ()

/-- A path is not empty, and no longer than a path may be. -/
def checkPath (path : Path) : Except FileFault Unit :=
  if pathLimit < byteCount path.text.toList then .error .nameTooLong
  else if path.text.isEmpty then .error .notFound
  else .ok ()

/-- The location that a text between two slashes leads to. -/
def enter (location : Location) (segment : List Char) : Location :=
  if segment = [] ∨ segment = ['.'] then location
  else if segment = ['.', '.'] then location.dropLast
  else location ++ [String.ofList segment]

/-- The location that the texts between slashes lead to, each from an existing directory. -/
def walk (tree : FileTree) (location : Location) :
    List (List Char) → Except FileFault Location
  | [] => .ok location
  | segment :: rest => do
    tree.checkDirectory location
    checkName segment
    walk tree (enter location segment) rest

/-- The directory at which a path starts. -/
def startOf (tree : FileTree) (path : Path) : Location :=
  if path.text.toList.head? = some '/' then [] else tree.workingDirectory

/-- The location that a path leads to. -/
def locate (tree : FileTree) (path : Path) : Except FileFault Location := do
  checkPath path
  tree.walk (tree.startOf path) path.segments

def readBytes (tree : FileTree) (path : Path) : Except FileFault Bytes :=
  match tree.locate path with
  | .error fault => .error fault
  | .ok location =>
    match tree.node? location with
    | none => .error .notFound
    | some .directory => .error .isDirectory
    | some (.file content) => .ok content

def read (tree : FileTree) (path : Path) : Except FileFault String :=
  match tree.readBytes path with
  | .error fault => .error fault
  | .ok content =>
    match Bytes.text? content with
    | none => .error .invalidText
    | some text => .ok text

/-- The tree with given bytes in the file at a path; the file is created if it is missing. -/
def writeBytes (tree : FileTree) (path : Path) (content : Bytes) :
    Except FileFault FileTree :=
  match tree.locate path with
  | .error fault => .error fault
  | .ok location =>
    match tree.node? location with
    | some .directory => .error .isDirectory
    | _ => .ok (tree.put location (.file content))

def write (tree : FileTree) (path : Path) (text : String) : Except FileFault FileTree :=
  tree.writeBytes path (Bytes.ofText text)

end FileTree
end FaultTreeExchange
