/-!
# Paths

A path is a text whose parts are separated by slashes. Empty parts are left out, and so are single
points, save one at the very start of a relative path.
-/

namespace FaultTreeExchange

structure Path where
  text : String
  deriving DecidableEq, Repr

inductive PathPart where
  /-- The slash at the start of an absolute path. -/
  | root
  /-- The single point at the start of a relative path. -/
  | current
  /-- Two points. -/
  | parent
  | name (text : String)
  deriving DecidableEq, Repr

namespace PathPart

/-- The part that stands between two slashes, unless it is left out there. -/
def ofSegment? (segment : List Char) : Option PathPart :=
  if segment = [] ∨ segment = ['.'] then none
  else if segment = ['.', '.'] then some .parent
  else some (.name (String.ofList segment))

/-- The part as it is written, without slashes. -/
def text : PathPart → String
  | .root => ""
  | .current => "."
  | .parent => ".."
  | .name text => text

end PathPart

namespace Path

/-- The texts between the slashes of a path. -/
def segments (path : Path) : List (List Char) :=
  path.text.toList.splitOn '/'

def parts (path : Path) : List PathPart :=
  match path.segments with
  | [] :: rest@(_ :: _) => .root :: rest.filterMap PathPart.ofSegment?
  | ['.'] :: rest => .current :: rest.filterMap PathPart.ofSegment?
  | segments => segments.filterMap PathPart.ofSegment?

def ofParts (parts : List PathPart) : Path :=
  match parts with
  | .root :: rest => ⟨"/" ++ "/".intercalate (rest.map PathPart.text)⟩
  | parts => ⟨"/".intercalate (parts.map PathPart.text)⟩

/-- The path of an entry of a directory. The empty path stands for the working directory. -/
def join (directory : Path) (name : String) : Path :=
  match directory.text.toList.getLast? with
  | none => ⟨name⟩
  | some '/' => ⟨directory.text ++ name⟩
  | some _ => ⟨directory.text ++ "/" ++ name⟩

/-- A name up to its last point. A point at the very start does not count. -/
def stemOf (name : List Char) : List Char :=
  match (name.reverse.dropWhile (· ≠ '.')).tail.reverse with
  | [] => name
  | stem => stem

/-- The last part of a path up to its last point, if that part is a name. -/
def stem? (path : Path) : Option String :=
  match path.parts.getLast? with
  | some (.name text) => some (String.ofList (stemOf text.toList))
  | _ => none

end Path
end FaultTreeExchange
