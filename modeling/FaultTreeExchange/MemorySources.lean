import FaultTreeExchange.Path.Normal

/-!
# Sources in memory

Sources that are kept under paths, without any file. Paths with the same normal form are not told
apart.
-/

namespace FaultTreeExchange

/-- Sources under the normal forms of their paths, the latest first. -/
structure MemorySources where
  entries : List (List PathPart × String)
  deriving DecidableEq, Repr

namespace MemorySources

/-- The sources of a list. A later one replaces an earlier one whose path has the same normal form. -/
def ofList (files : List (Path × String)) : MemorySources :=
  ⟨(files.map fun (path, source) => (path.normalParts, source)).reverse⟩

/-- The source at a path, or the reason why there is none. -/
def read (sources : MemorySources) (path : Path) : Except String String :=
  match sources.entries.lookup path.normalParts with
  | some source => .ok source
  | none => .error s!"file not found in memory: {(Path.ofParts path.normalParts).text}"

end MemorySources
end FaultTreeExchange
