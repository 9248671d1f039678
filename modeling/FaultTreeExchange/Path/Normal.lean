import FaultTreeExchange.Path.Basic

/-!
# Normal forms of paths

The parts of a path after single points have been left out and every pair of points has taken the
part before it away, be it the root. Two points without a part before them vanish.
-/

namespace FaultTreeExchange.Path

/-- The parts of a normal form that a further part leads to. -/
def normalStep (parts : List PathPart) : PathPart → List PathPart
  | .current => parts
  | .parent => parts.dropLast
  | part => parts ++ [part]

/-- The parts of the normal form of a path. -/
def normalParts (path : Path) : List PathPart :=
  path.parts.foldl normalStep []

end FaultTreeExchange.Path
