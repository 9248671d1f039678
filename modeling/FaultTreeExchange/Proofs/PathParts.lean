import FaultTreeExchange.FileTree.Directories
import Mathlib.Data.List.Basic

/-!
# The parts of paths

The parts of a path that lead on stand behind a slash, a point or nothing. Without its last part a
path is a path again, that of the directory around it, and no longer than before. Each part leads
from one location to another, and the texts that stand for no part lead nowhere else.
-/

namespace FaultTreeExchange

/-! ### Bytes of a path -/

lemma byteCount_append (first second : List Char) :
    byteCount (first ++ second) = byteCount first + byteCount second := by
  induction first with
  | nil => simp [byteCount]
  | cons c rest ih =>
    have hcons : ∀ text, byteCount (c :: text) = c.utf8Size + byteCount text := fun _ => rfl
    rw [List.cons_append, hcons, hcons, ih, Nat.add_assoc]

/-- The bytes of texts, each with a slash behind it. -/
def slashedCount : List (List Char) → Nat
  | [] => 0
  | text :: rest => byteCount text + 1 + slashedCount rest

lemma slashedCount_eq {texts : List (List Char)} (h : texts ≠ []) :
    slashedCount texts = byteCount (['/'].intercalate texts) + 1 := by
  induction texts with
  | nil => exact absurd rfl h
  | cons text rest ih =>
    cases rest with
    | nil => rw [List.intercalate_singleton, slashedCount, slashedCount, Nat.add_zero]
    | cons next rest =>
      have hslash : byteCount ['/'] = 1 := rfl
      rw [slashedCount, ih (List.cons_ne_nil next rest), List.intercalate_cons_cons, byteCount_append,
        byteCount_append, hslash, Nat.add_assoc _ (byteCount _) 1]

lemma slashedCount_segments (path : Path) :
    slashedCount path.segments = byteCount path.text.toList + 1 := by
  unfold Path.segments
  rw [slashedCount_eq (List.splitOn_ne_nil _ _), List.intercalate_splitOn]

lemma slashedCount_le {texts others : List (List Char)} (h : texts.Sublist others) :
    slashedCount texts ≤ slashedCount others := by
  induction h with
  | slnil => exact Nat.le_refl _
  | cons text _ ih => exact Nat.le_trans ih (Nat.le_add_left _ _)
  | cons_cons text _ ih => exact Nat.add_le_add_left ih _

/-! ### Parts of a path -/

namespace PathPart

/-- A part that is read off a text between slashes. -/
structure IsStep (part : PathPart) : Prop where
  no_slash : '/' ∉ part.text.toList
  ofSegment : ofSegment? part.text.toList = some part

lemma text_of_ofSegment? {segment : List Char} {part : PathPart}
    (h : ofSegment? segment = some part) : part.text.toList = segment := by
  unfold ofSegment? at h
  split at h
  · cases h
  · split at h
    · rename_i hpoints
      cases h
      exact hpoints.symm
    · cases h
      exact String.toList_ofList

lemma IsStep.text_ne_nil {part : PathPart} (h : part.IsStep) : part.text.toList ≠ [] := by
  intro hnil
  have hpart := h.ofSegment
  rw [hnil] at hpart
  cases hpart

lemma IsStep.text_ne_point {part : PathPart} (h : part.IsStep) : part.text.toList ≠ ['.'] := by
  intro hpoint
  have hpart := h.ofSegment
  rw [hpoint] at hpart
  cases hpart

lemma IsStep.ne_root {part : PathPart} (h : part.IsStep) : part ≠ .root := by
  rintro rfl
  exact h.text_ne_nil rfl

lemma IsStep.ne_current {part : PathPart} (h : part.IsStep) : part ≠ .current := by
  rintro rfl
  exact h.text_ne_point rfl

end PathPart

namespace Path

open PathPart

/-- The parts of a path that lead from one directory to another. -/
def steps (path : Path) : List PathPart :=
  path.segments.filterMap ofSegment?

/-- Parts such as a path has: some that lead on, behind a slash, a point or nothing. -/
inductive IsParts : List PathPart → Prop where
  | absolute {steps : List PathPart} (h : ∀ part ∈ steps, part.IsStep) : IsParts (.root :: steps)
  | pointed {steps : List PathPart} (h : ∀ part ∈ steps, part.IsStep) : IsParts (.current :: steps)
  | relative {steps : List PathPart} (h : ∀ part ∈ steps, part.IsStep) : IsParts steps

lemma IsParts.dropLast {parts : List PathPart} (h : IsParts parts) : IsParts parts.dropLast := by
  have hsteps : ∀ steps : List PathPart, (∀ part ∈ steps, part.IsStep) →
      ∀ part ∈ steps.dropLast, part.IsStep :=
    fun steps h part hpart => h part (List.dropLast_subset _ hpart)
  cases h with
  | @absolute steps h =>
    cases steps with
    | nil => exact .relative fun _ hpart => nomatch hpart
    | cons part rest => exact .absolute (hsteps _ h)
  | @pointed steps h =>
    cases steps with
    | nil => exact .relative fun _ hpart => nomatch hpart
    | cons part rest => exact .pointed (hsteps _ h)
  | relative h => exact .relative (hsteps _ h)

lemma notMem_of_mem_splitOn {separator : Char} {text part : List Char}
    (h : part ∈ text.splitOn separator) : separator ∉ part := by
  induction text generalizing part with
  | nil =>
    rw [List.splitOn_nil, List.mem_singleton] at h
    rw [h]
    exact List.not_mem_nil
  | cons c rest ih =>
    obtain ⟨first, others, hrest⟩ := List.exists_cons_of_ne_nil (List.splitOn_ne_nil separator rest)
    rw [hrest] at ih
    rw [List.splitOn_cons_eq_if_modifyHead, hrest] at h
    split at h
    · rcases List.mem_cons.mp h with rfl | h
      · exact List.not_mem_nil
      · exact ih h
    · rename_i hne
      rcases List.mem_cons.mp h with rfl | h
      · have hc : separator ≠ c := fun heq => hne (beq_iff_eq.mpr heq.symm)
        rw [List.mem_cons, not_or]
        exact ⟨hc, ih List.mem_cons_self⟩
      · exact ih (List.mem_cons_of_mem first h)

lemma isStep_of_mem_steps {path : Path} : ∀ part ∈ path.steps, part.IsStep := by
  intro part hpart
  obtain ⟨segment, hsegment, hpart⟩ := List.mem_filterMap.mp hpart
  have htext := text_of_ofSegment? hpart
  refine ⟨?_, ?_⟩
  · rw [htext]
    exact notMem_of_mem_splitOn hsegment
  · rw [htext, hpart]

/-- The parts of a path are those that lead on, behind a slash, a point or nothing. -/
lemma parts_cases (path : Path) :
    (path.text.toList.head? = some '/' ∧ path.parts = .root :: path.steps) ∨
    (path.text.toList.head? ≠ some '/' ∧ path.parts = .current :: path.steps) ∨
    (path.text.toList.head? ≠ some '/' ∧ path.parts = path.steps) := by
  have hsegments : path.segments = path.text.toList.splitOn '/' := rfl
  unfold parts steps
  cases htext : path.text.toList with
  | nil =>
    rw [hsegments, htext]
    exact .inr (.inr ⟨nofun, rfl⟩)
  | cons c rest =>
    obtain ⟨first, more, hsplit⟩ := List.exists_cons_of_ne_nil (List.splitOn_ne_nil '/' rest)
    rw [htext, List.splitOn_cons_eq_if_modifyHead, hsplit] at hsegments
    by_cases hslash : c = '/'
    · rw [if_pos (by simpa using hslash)] at hsegments
      rw [hslash, hsegments]
      exact .inl ⟨rfl, rfl⟩
    · have hhead : (c :: rest).head? ≠ some '/' := fun h => hslash (Option.some.inj h)
      rw [if_neg (by simpa using hslash), List.modifyHead_cons] at hsegments
      rw [hsegments]
      split
      · rename_i heq
        cases heq
      · rename_i heq
        refine .inr (.inl ⟨hhead, ?_⟩)
        rw [heq]
        rfl
      · exact .inr (.inr ⟨hhead, rfl⟩)

lemma isParts_parts (path : Path) : IsParts path.parts := by
  rcases path.parts_cases with ⟨-, h⟩ | ⟨-, h⟩ | ⟨-, h⟩
  · rw [h]
    exact .absolute isStep_of_mem_steps
  · rw [h]
    exact .pointed isStep_of_mem_steps
  · rw [h]
    exact .relative isStep_of_mem_steps

lemma head?_eq_slash_iff {path : Path} :
    path.text.toList.head? = some '/' ↔ path.parts.head? = some .root := by
  rcases path.parts_cases with ⟨hhead, h⟩ | ⟨hhead, h⟩ | ⟨hhead, h⟩
  · rw [h]
    exact iff_of_true hhead rfl
  · rw [h]
    exact iff_of_false hhead nofun
  · rw [h]
    exact iff_of_false hhead fun hroot =>
      (isStep_of_mem_steps _ (List.mem_of_head? hroot)).ne_root rfl

lemma steps_eq_filter (path : Path) :
    path.steps = path.parts.filter fun part => part ≠ .root ∧ part ≠ .current := by
  have hsteps : (path.steps.filter fun part => part ≠ .root ∧ part ≠ .current) = path.steps := by
    refine List.filter_eq_self.mpr fun part hpart => ?_
    have hstep := isStep_of_mem_steps part hpart
    simp [hstep.ne_root, hstep.ne_current]
  rcases path.parts_cases with ⟨-, h⟩ | ⟨-, h⟩ | ⟨-, h⟩
  · rw [h, List.filter_cons_of_neg (by decide), hsteps]
  · rw [h, List.filter_cons_of_neg (by decide), hsteps]
  · rw [h, hsteps]

lemma map_text_sublist_segments (path : Path) :
    (path.parts.map fun part => part.text.toList).Sublist path.segments := by
  have hsteps : ∀ segments : List (List Char),
      ((segments.filterMap ofSegment?).map fun part => part.text.toList).Sublist segments := by
    intro segments
    induction segments with
    | nil => exact .slnil
    | cons segment rest ih =>
      rw [List.filterMap_cons]
      cases hsegment : ofSegment? segment with
      | none => exact ih.cons _
      | some part =>
        rw [List.map_cons, text_of_ofSegment? hsegment]
        exact ih.cons_cons _
  unfold parts
  split
  · rename_i heq
    rw [heq]
    exact (hsteps _).cons_cons _
  · rename_i heq
    rw [heq]
    exact (hsteps _).cons_cons _
  · exact hsteps _

/-! ### The path around a path -/

lemma filterMap_map_text {steps : List PathPart} (h : ∀ part ∈ steps, part.IsStep) :
    (steps.map fun part => part.text.toList).filterMap ofSegment? = steps := by
  induction steps with
  | nil => rfl
  | cons part rest ih =>
    obtain ⟨hpart, hrest⟩ := List.forall_mem_cons.mp h
    rw [List.map_cons, List.filterMap_cons, hpart.ofSegment, ih hrest]

lemma segments_ofParts {parts : List PathPart} (h : IsParts parts) (hne : parts ≠ [])
    (hroot : parts ≠ [.root]) :
    (ofParts parts).segments = parts.map fun part => part.text.toList := by
  have hjoined : ∀ parts : List PathPart, parts ≠ [] → (∀ part ∈ parts, '/' ∉ part.text.toList) →
      ("/".intercalate (parts.map PathPart.text)).toList.splitOn '/' =
        parts.map fun part => part.text.toList := by
    intro parts hne hslash
    rw [String.toList_intercalate, List.map_map]
    refine List.splitOn_intercalate '/' ?_ (by simpa using hne)
    intro text htext
    obtain ⟨part, hpart, rfl⟩ := List.mem_map.mp htext
    exact hslash part hpart
  unfold segments
  cases h with
  | @absolute steps h =>
    have hsteps : steps ≠ [] := fun heq => hroot (by rw [heq])
    unfold ofParts
    dsimp only
    rw [String.toList_append]
    change ([] ++ '/' :: ("/".intercalate (steps.map PathPart.text)).toList).splitOn '/' = _
    rw [List.splitOn_append_cons_self, List.splitOn_nil,
      hjoined steps hsteps fun part hpart => (h part hpart).no_slash]
    rfl
  | @pointed steps h =>
    refine hjoined _ hne fun part hpart => ?_
    rcases List.mem_cons.mp hpart with rfl | hpart
    · decide
    · exact (h part hpart).no_slash
  | relative h =>
    obtain ⟨part, rest, rfl⟩ := List.exists_cons_of_ne_nil hne
    have hpart := (h part List.mem_cons_self).ne_root
    have htext : ofParts (part :: rest) = ⟨"/".intercalate ((part :: rest).map PathPart.text)⟩ := by
      cases part <;> first | rfl | exact absurd rfl hpart
    rw [htext]
    exact hjoined _ hne fun part hpart => (h part hpart).no_slash

lemma parts_ofParts {parts : List PathPart} (h : IsParts parts) : (ofParts parts).parts = parts := by
  by_cases hne : parts = []
  · rw [hne]
    decide
  by_cases hroot : parts = [.root]
  · rw [hroot]
    decide
  have hsegments := segments_ofParts h hne hroot
  unfold Path.parts
  rw [hsegments]
  cases h with
  | @absolute steps h =>
    obtain ⟨part, rest, rfl⟩ := List.exists_cons_of_ne_nil fun heq : steps = [] => hroot (by rw [heq])
    exact congrArg (PathPart.root :: ·) (filterMap_map_text h)
  | pointed h => exact congrArg (PathPart.current :: ·) (filterMap_map_text h)
  | relative h =>
    obtain ⟨part, rest, rfl⟩ := List.exists_cons_of_ne_nil hne
    have hpart := h part List.mem_cons_self
    split
    · rename_i heq
      exact absurd (List.cons.inj heq).1 hpart.text_ne_nil
    · rename_i heq
      exact absurd (List.cons.inj heq).1 hpart.text_ne_point
    · exact filterMap_map_text h

/-- The path without its last part. -/
def parent (path : Path) : Path :=
  ofParts path.parts.dropLast

lemma parts_parent (path : Path) : path.parent.parts = path.parts.dropLast :=
  parts_ofParts path.isParts_parts.dropLast

lemma steps_parent (path : Path) : path.parent.steps = path.steps.dropLast := by
  have hsteps : ∀ part ∈ path.steps.dropLast, part ≠ .root ∧ part ≠ .current := by
    intro part hpart
    have hstep := isStep_of_mem_steps part (List.dropLast_subset _ hpart)
    exact ⟨hstep.ne_root, hstep.ne_current⟩
  have hkept : (path.steps.dropLast.filter fun part => part ≠ .root ∧ part ≠ .current) =
      path.steps.dropLast :=
    List.filter_eq_self.mpr fun part hpart => decide_eq_true (hsteps part hpart)
  rw [steps_eq_filter path.parent, parts_parent]
  by_cases hnil : path.steps = []
  · rcases path.parts_cases with ⟨-, h⟩ | ⟨-, h⟩ | ⟨-, h⟩ <;> rw [h, hnil] <;> rfl
  · rcases path.parts_cases with ⟨-, h⟩ | ⟨-, h⟩ | ⟨-, h⟩
    · rw [h, List.dropLast_cons_of_ne_nil hnil, List.filter_cons_of_neg (by decide), hkept]
    · rw [h, List.dropLast_cons_of_ne_nil hnil, List.filter_cons_of_neg (by decide), hkept]
    · rw [h, hkept]

lemma ancestors_eq {path : Path} (h : path.parts ≠ []) :
    path.ancestors = path.parent :: path.parent.ancestors := by
  obtain ⟨count, hcount⟩ := Nat.exists_eq_succ_of_ne_zero fun hnil => h (List.length_eq_zero_iff.mp hnil)
  have hparent : path.parent.parts.length = count := by
    rw [parts_parent, List.length_dropLast, hcount]
    rfl
  unfold ancestors
  rw [hparent, hcount, List.range_succ, List.reverse_append, List.reverse_singleton,
    List.singleton_append, List.map_cons]
  congr 1
  · rw [parent, List.dropLast_eq_take, hcount]
    rfl
  · refine List.map_congr_left fun number hnumber => ?_
    have hless : number < count := by simpa using hnumber
    rw [parts_parent, List.dropLast_eq_take, List.take_take, hcount]
    congr 2
    omega

end Path

namespace FileTree

lemma skipped_of_ofSegment? {segment : List Char} (h : PathPart.ofSegment? segment = none) :
    segment = [] ∨ segment = ['.'] := by
  unfold PathPart.ofSegment? at h
  split at h
  · rename_i hskipped
    exact hskipped
  · split at h <;> cases h

lemma enter_of_skipped {segment : List Char} (h : segment = [] ∨ segment = ['.'])
    (location : Location) : enter location segment = location := by
  unfold enter
  rw [if_pos h]

/-- The location to which a part leads from another one. The root directory is its own parent. -/
def follow (location : Location) : PathPart → Location
  | .root => []
  | .current => location
  | .parent => location.dropLast
  | .name text => location ++ [text]

lemma enter_of_ofSegment? {segment : List Char} {part : PathPart}
    (h : PathPart.ofSegment? segment = some part) (location : Location) :
    enter location segment = follow location part := by
  unfold PathPart.ofSegment? at h
  unfold enter
  split at h
  · cases h
  · rename_i hcounts
    rw [if_neg hcounts]
    split at h
    · rename_i hpoints
      rw [if_pos hpoints]
      cases h
      rfl
    · rename_i hpoints
      rw [if_neg hpoints]
      cases h
      rfl

lemma foldl_enter_eq (segments : List (List Char)) (location : Location) :
    segments.foldl enter location =
      (segments.filterMap PathPart.ofSegment?).foldl follow location := by
  induction segments generalizing location with
  | nil => rfl
  | cons segment rest ih =>
    rw [List.foldl_cons, List.filterMap_cons, ih]
    cases hsegment : PathPart.ofSegment? segment with
    | none => rw [enter_of_skipped (skipped_of_ofSegment? hsegment)]
    | some part => rw [List.foldl_cons, enter_of_ofSegment? hsegment]

end FileTree
end FaultTreeExchange
