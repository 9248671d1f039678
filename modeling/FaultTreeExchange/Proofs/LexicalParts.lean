import FaultTreeExchange.Path.Normal
import FaultTreeExchange.Proofs.FileEffects
import FaultTreeExchange.Proofs.PathParts

/-!
# Places of paths

Where a path leads can be told from its parts, as there are no links. A pair of points takes the name
before it away; it stays at the root, and where there is no name it leads out of the directory at which
a relative path starts. Normal forms are the same, save those of paths that climb: where a pair of
points finds no name, a normal form loses the root, and does not keep the points.
-/

namespace FaultTreeExchange

/-- The name that a part is, if it is one. -/
def PathPart.name? : PathPart → Option String
  | .name text => some text
  | _ => none

namespace Path

/-- The parts of a place to which a further part leads. -/
def lexicalStep (parts : List PathPart) : PathPart → List PathPart
  | .current => parts
  | .parent =>
    match parts.getLast? with
    | some (.name _) => parts.dropLast
    | some .root => parts
    | _ => parts ++ [.parent]
  | part => parts ++ [part]

/-- The parts of the place of a path: names behind the root, or behind the pairs of points that lead
out of the directory at which the path starts. -/
def lexicalParts (path : Path) : List PathPart :=
  path.parts.foldl lexicalStep []

/-- Whether a part is a pair of points that finds no name to take away. -/
def climbsAt (parts : List PathPart) (part : PathPart) : Bool :=
  match part, parts.getLast? with
  | .parent, some (.name _) => false
  | .parent, _ => true
  | _, _ => false

def climbsFrom (parts : List PathPart) : List PathPart → Bool
  | [] => false
  | part :: rest => climbsAt parts part || climbsFrom (lexicalStep parts part) rest

/-- Whether a path climbs above the root, or out of the directory at which it starts. -/
def climbs (path : Path) : Bool :=
  climbsFrom [] path.parts

/-- The names on the way from the start of a place. -/
def placeNames (path : Path) : List String :=
  path.lexicalParts.filterMap PathPart.name?

/-- What stands before the names of a place: nothing, the root, or pairs of points. -/
def front (path : Path) : List PathPart :=
  path.lexicalParts.filter fun part => part.name?.isNone

variable {path first second : Path} {place normal parts : List PathPart} {part : PathPart}
  {climbed : Bool}

/-! ### Normal forms and places -/

/-- What stands before the names: of a place, and of the normal form that goes with it. A path that
has climbed has a front, of which its normal form keeps nothing. -/
inductive Fronts : Bool → List PathPart → List PathPart → Prop where
  | start : Fronts false [] []
  | root : Fronts false [.root] [.root]
  | rootLost : Fronts true [.root] []
  | above (count : Nat) : Fronts true (List.replicate (count + 1) .parent) []

/-- The place and the normal form to which some parts have led have the same names behind their
fronts. -/
def Tracks (climbed : Bool) (place normal : List PathPart) : Prop :=
  ∃ front kept, ∃ names : List String, Fronts climbed front kept ∧
    place = front ++ names.map .name ∧ normal = kept ++ names.map .name

lemma Fronts.climbsAt_parent {front kept : List PathPart} (h : Fronts climbed front kept) :
    climbsAt front .parent = true := by
  cases h with
  | start | root | rootLost => rfl
  | above count => simp [climbsAt, List.getLast?_replicate]

lemma Fronts.parent {front kept : List PathPart} (h : Fronts climbed front kept) :
    Fronts true (lexicalStep front .parent) (normalStep kept .parent) := by
  cases h with
  | start => exact .above 0
  | root => exact .rootLost
  | rootLost => exact .rootLost
  | above count =>
    have hstep : lexicalStep (List.replicate (count + 1) .parent) .parent =
        List.replicate (count + 2) .parent := by
      rw [List.replicate_succ' (n := count + 1)]
      simp [lexicalStep, List.getLast?_replicate]
    rw [hstep]
    exact .above (count + 1)

lemma lexicalStep_concat_parent (front : List PathPart) (names : List String) (text : String) :
    lexicalStep (front ++ (names ++ [text]).map .name) .parent = front ++ names.map .name := by
  rw [List.map_append, ← List.append_assoc]
  simp [lexicalStep]

lemma normalStep_concat_parent (front : List PathPart) (names : List String) (text : String) :
    normalStep (front ++ (names ++ [text]).map .name) .parent = front ++ names.map .name := by
  rw [List.map_append, ← List.append_assoc]
  exact List.dropLast_concat

lemma climbsAt_concat_parent (front : List PathPart) (names : List String) (text : String) :
    climbsAt (front ++ (names ++ [text]).map .name) .parent = false := by
  rw [List.map_append, ← List.append_assoc]
  simp [climbsAt]

/-- A part that leads on keeps the names of the place and those of the normal form the same. -/
lemma Tracks.step (h : Tracks climbed place normal) (hpart : part.IsStep) :
    Tracks (climbed || climbsAt place part) (lexicalStep place part) (normalStep normal part) := by
  obtain ⟨front, kept, names, hfronts, rfl, rfl⟩ := h
  cases part with
  | root => exact absurd rfl hpart.ne_root
  | current => exact absurd rfl hpart.ne_current
  | name text =>
    have hclimbed : (climbed || climbsAt (front ++ names.map .name) (.name text)) = climbed :=
      Bool.or_false climbed
    rw [hclimbed]
    exact ⟨front, kept, names ++ [text], hfronts, by simp [lexicalStep], by simp [normalStep]⟩
  | parent =>
    rcases names.eq_nil_or_concat' with rfl | ⟨names, text, rfl⟩
    · rw [List.map_nil, List.append_nil, List.append_nil, hfronts.climbsAt_parent, Bool.or_true]
      exact ⟨_, _, [], hfronts.parent, by simp, by simp⟩
    · rw [climbsAt_concat_parent, Bool.or_false, lexicalStep_concat_parent,
        normalStep_concat_parent]
      exact ⟨front, kept, names, hfronts, rfl, rfl⟩

lemma Tracks.foldl (h : Tracks climbed place normal) (hparts : ∀ part ∈ parts, part.IsStep) :
    Tracks (climbed || climbsFrom place parts) (parts.foldl lexicalStep place)
      (parts.foldl normalStep normal) := by
  induction parts generalizing climbed place normal with
  | nil =>
    rw [climbsFrom, Bool.or_false]
    exact h
  | cons part rest ih =>
    obtain ⟨hpart, hrest⟩ := List.forall_mem_cons.mp hparts
    rw [climbsFrom, ← Bool.or_assoc]
    exact ih (h.step hpart) hrest

/-- The place and the normal form of a path have the same names, and the same front unless the path
climbs. -/
theorem tracks_parts (path : Path) : Tracks path.climbs path.lexicalParts path.normalParts := by
  have hstart : Tracks false [] [] := ⟨[], [], [], .start, rfl, rfl⟩
  have hroot : Tracks false [.root] [.root] := ⟨_, _, [], .root, rfl, rfl⟩
  unfold climbs lexicalParts normalParts
  rcases path.parts_cases with ⟨-, h⟩ | ⟨-, h⟩ | ⟨-, h⟩
  · rw [h]
    exact hroot.foldl isStep_of_mem_steps
  · rw [h]
    exact hstart.foldl isStep_of_mem_steps
  · rw [h]
    exact hstart.foldl isStep_of_mem_steps

/-! ### Paths with one normal form -/

lemma Fronts.names_eq_nil {front kept : List PathPart} (h : Fronts climbed front kept) :
    front.filterMap PathPart.name? = [] ∧ kept.filterMap PathPart.name? = [] := by
  cases h with
  | start | root | rootLost => exact ⟨rfl, rfl⟩
  | above count => exact ⟨List.filterMap_replicate_of_none rfl, rfl⟩

lemma lexicalParts_eq_front_append (path : Path) :
    path.lexicalParts = path.front ++ path.placeNames.map .name := by
  obtain ⟨front, kept, names, hfronts, hplace, -⟩ := path.tracks_parts
  have hnone := hfronts.names_eq_nil.1
  have hnames : path.placeNames = names := by
    rw [placeNames, hplace, List.filterMap_append, hnone, List.nil_append, List.filterMap_map]
    exact List.filterMap_some
  have hfront : path.front = front := by
    have hkept : front.filter (fun part => part.name?.isNone) = front :=
      List.filter_eq_self.mpr fun part hpart => by
        rw [List.filterMap_eq_nil_iff.mp hnone part hpart, Option.isNone_none]
    rw [Path.front, hplace, List.filter_append, hkept, List.filter_map]
    simp [Function.comp_def, PathPart.name?]
  rw [hnames, hfront, hplace]

lemma lexicalParts_eq_iff (h : first.placeNames = second.placeNames) :
    first.lexicalParts = second.lexicalParts ↔ first.front = second.front := by
  constructor
  · intro hplace
    rw [front, front, hplace]
  · intro hfront
    rw [lexicalParts_eq_front_append, lexicalParts_eq_front_append second, hfront, h]

lemma placeNames_eq (path : Path) : path.placeNames = path.normalParts.filterMap PathPart.name? := by
  obtain ⟨front, kept, names, hfronts, hplace, hnormal⟩ := path.tracks_parts
  obtain ⟨hfront, hkept⟩ := hfronts.names_eq_nil
  rw [placeNames, hplace, hnormal, List.filterMap_append, List.filterMap_append, hfront, hkept]

lemma lexicalParts_eq_of_not_climbs (h : path.climbs = false) :
    path.lexicalParts = path.normalParts := by
  obtain ⟨front, kept, names, hfronts, hplace, hnormal⟩ := path.tracks_parts
  rw [h] at hfronts
  rw [hplace, hnormal]
  cases hfronts <;> rfl

lemma length_normalParts_lt (h : path.climbs = true) :
    path.normalParts.length < path.lexicalParts.length := by
  obtain ⟨front, kept, names, hfronts, hplace, hnormal⟩ := path.tracks_parts
  rw [h] at hfronts
  rw [hplace, hnormal]
  cases hfronts with
  | rootLost => simp
  | above count => simp

/-- Two paths with one normal form have the same names on their ways, so that what stands before the
names tells whether they have the same place. They have if neither of them climbs, and have not if one of
them does. -/
theorem places_of_normalParts_eq (h : first.normalParts = second.normalParts) :
    first.placeNames = second.placeNames ∧
    (first.lexicalParts = second.lexicalParts ↔ first.front = second.front) ∧
    (first.climbs = false → second.climbs = false → first.lexicalParts = second.lexicalParts) ∧
    (first.climbs ≠ second.climbs → first.lexicalParts ≠ second.lexicalParts) := by
  have hdiffer : ∀ level high : Path, level.normalParts = high.normalParts → level.climbs = false →
      high.climbs = true → level.lexicalParts ≠ high.lexicalParts := by
    intro level high hsame hlevel hhigh heq
    have hlength := length_normalParts_lt hhigh
    rw [← heq, lexicalParts_eq_of_not_climbs hlevel, hsame] at hlength
    exact Nat.lt_irrefl _ hlength
  have hnames : first.placeNames = second.placeNames := by
    rw [placeNames_eq, placeNames_eq, h]
  refine ⟨hnames, lexicalParts_eq_iff hnames, ?_, ?_⟩
  · intro hfirst hsecond
    rw [lexicalParts_eq_of_not_climbs hfirst, lexicalParts_eq_of_not_climbs hsecond, h]
  · intro hne
    cases hfirst : first.climbs with
    | false => exact hdiffer first second h hfirst (by simpa [hfirst] using hne)
    | true => exact (hdiffer second first h.symm (by simpa [hfirst] using hne) hfirst).symm

example : normalParts ⟨"../a.txt"⟩ = normalParts ⟨"../../a.txt"⟩ ∧ front ⟨"../a.txt"⟩ = [.parent] ∧
    front ⟨"../../a.txt"⟩ = [.parent, .parent] := by
  decide +kernel

end Path

/-! ### Places and locations -/

namespace FileTree

open FaultTreeExchange.Path

variable {tree : FileTree} {first second path : Path} {location other : Location}

lemma foldl_follow_lexicalStep (parts : List PathPart) (part : PathPart) (location : Location) :
    (lexicalStep parts part).foldl follow location = follow (parts.foldl follow location) part := by
  cases part with
  | root | name text => exact List.foldl_concat follow location _ parts
  | current => rfl
  | parent =>
    rcases parts.eq_nil_or_concat' with rfl | ⟨parts, last, rfl⟩
    · rfl
    · cases last <;> simp [lexicalStep, follow]

lemma foldl_follow_lexicalParts (path : Path) (location : Location) :
    path.lexicalParts.foldl follow location = path.parts.foldl follow location := by
  have hparts : ∀ parts before : List PathPart,
      (parts.foldl lexicalStep before).foldl follow location =
        parts.foldl follow (before.foldl follow location) := by
    intro parts
    induction parts with
    | nil => exact fun _ => rfl
    | cons part rest ih =>
      intro before
      rw [List.foldl_cons, ih, foldl_follow_lexicalStep, List.foldl_cons]
  exact hparts path.parts []

theorem eq_of_locate (h : tree.locate path = .ok location) :
    location = path.lexicalParts.foldl follow tree.workingDirectory := by
  rw [foldl_follow_lexicalParts, eq_foldl_of_walk (locate_eq_ok_iff.mp h).2, foldl_enter_eq]
  unfold startOf
  rcases path.parts_cases with ⟨hhead, hparts⟩ | ⟨hhead, hparts⟩ | ⟨hhead, hparts⟩
  · rw [if_pos hhead, hparts]
    rfl
  · rw [if_neg hhead, hparts]
    rfl
  · rw [if_neg hhead, hparts]
    rfl

theorem eq_of_lexicalParts_eq (h : first.lexicalParts = second.lexicalParts)
    (hfirst : tree.locate first = .ok location) (hsecond : tree.locate second = .ok other) :
    location = other := by
  rw [eq_of_locate hfirst, eq_of_locate hsecond, h]

end FileTree
end FaultTreeExchange
