import Mathlib.Data.List.Nodup

/-!
# First occurrences

Items of a list are told apart by their keys. Several passes go through a list with the keys that
they have met: they stop at a key met before, or keep the first item of each key.
-/

namespace FaultTreeExchange

variable {α : Type} {key : α → String} {items : List α} {item : α}

/-- The item stands in the list and no item before it has the same key. -/
def IsFirst (key : α → String) (items : List α) (item : α) : Prop :=
  ∃ before after, items = before ++ item :: after ∧ ∀ earlier ∈ before, key earlier ≠ key item

lemma isFirst_cons_iff {first : α} {rest : List α} :
    IsFirst key (first :: rest) item ↔
      item = first ∨ key first ≠ key item ∧ IsFirst key rest item := by
  constructor
  · rintro ⟨before, after, hsplit, hbefore⟩
    cases before with
    | nil =>
      obtain ⟨rfl, -⟩ := List.cons.inj hsplit
      exact Or.inl rfl
    | cons earlier before =>
      obtain ⟨rfl, rfl⟩ := List.cons.inj hsplit
      rw [List.forall_mem_cons] at hbefore
      exact Or.inr ⟨hbefore.1, before, after, rfl, hbefore.2⟩
  · rintro (rfl | ⟨hne, before, after, rfl, hbefore⟩)
    · exact ⟨[], rest, rfl, by simp⟩
    · exact ⟨first :: before, after, rfl, List.forall_mem_cons.mpr ⟨hne, hbefore⟩⟩

lemma exists_isFirst (key : α → String) (h : item ∈ items) :
    ∃ first, IsFirst key items first ∧ key first = key item := by
  induction items with
  | nil => cases h
  | cons head rest ih =>
    by_cases hkey : key head = key item
    · exact ⟨head, isFirst_cons_iff.mpr (Or.inl rfl), hkey⟩
    · have hrest : item ∈ rest := by
        rcases List.mem_cons.mp h with rfl | hrest
        · exact absurd rfl hkey
        · exact hrest
      obtain ⟨first, hfirst, heq⟩ := ih hrest
      exact ⟨first, isFirst_cons_iff.mpr (Or.inr ⟨heq ▸ hkey, hfirst⟩), heq⟩

lemma isFirst_map_iff {β : Type} (image : β → α) {sources : List β} :
    IsFirst key (sources.map image) item ↔
      ∃ source, IsFirst (fun source => key (image source)) sources source ∧ image source = item := by
  induction sources with
  | nil => simp [IsFirst]
  | cons head rest ih =>
    rw [List.map_cons, isFirst_cons_iff, ih]
    constructor
    · rintro (rfl | ⟨hne, source, hsource, rfl⟩)
      · exact ⟨head, isFirst_cons_iff.mpr (Or.inl rfl), rfl⟩
      · exact ⟨source, isFirst_cons_iff.mpr (Or.inr ⟨hne, hsource⟩), rfl⟩
    · rintro ⟨source, hsource, rfl⟩
      rcases isFirst_cons_iff.mp hsource with rfl | ⟨hne, hrest⟩
      · exact Or.inl rfl
      · exact Or.inr ⟨hne, source, hrest, rfl⟩

/-- No two of the items have one key, and none has a key that was met before. -/
def Fresh {β : Type} (key : α → β) (met : List β) (items : List α) : Prop :=
  (items.map key).Nodup ∧ ∀ item ∈ items, key item ∉ met

lemma fresh_nil_iff {β : Type} {key : α → β} : Fresh key [] items ↔ (items.map key).Nodup := by
  simp [Fresh]

lemma fresh_cons_iff {β : Type} {key : α → β} {met : List β} {rest : List α} :
    Fresh key met (item :: rest) ↔ key item ∉ met ∧ Fresh key (key item :: met) rest := by
  unfold Fresh
  rw [List.map_cons, List.nodup_cons, List.forall_mem_cons]
  simp only [List.mem_cons, List.mem_map, not_or]
  constructor
  · rintro ⟨⟨hnew, hnodup⟩, hitem, hrest⟩
    refine ⟨hitem, hnodup, fun other hother => ⟨fun heq => ?_, hrest other hother⟩⟩
    exact hnew ⟨other, hother, heq⟩
  · rintro ⟨hitem, hnodup, hrest⟩
    refine ⟨⟨?_, hnodup⟩, hitem, fun other hother => (hrest other hother).2⟩
    rintro ⟨other, hother, heq⟩
    exact (hrest other hother).1 heq

lemma lookup_eq_none_iff_notMem {β : Type} {entries : List (String × β)} {key : String} :
    entries.lookup key = none ↔ key ∉ entries.map Prod.fst := by
  rw [List.lookup_eq_none_iff, List.mem_map]
  constructor
  · rintro h ⟨entry, hentry, rfl⟩
    simpa using h entry hentry
  · intro h entry hentry
    simpa using fun hkey => h ⟨entry, hentry, hkey.symm⟩

/-! ### The list of first occurrences -/

variable {known : List String}

/-- The items whose keys are neither known nor those of items before them. -/
def firstOccurrences (key : α → String) (known : List String) (items : List α) : List α :=
  (items.zipIdx.filter fun (item, position) =>
    key item ∉ known ∧ ∀ earlier ∈ items.take position, key earlier ≠ key item).map Prod.fst

lemma firstOccurrences_congr {known' : List String} (h : ∀ key, key ∈ known ↔ key ∈ known')
    (items : List α) : firstOccurrences key known items = firstOccurrences key known' items := by
  simp only [firstOccurrences, h]

lemma firstOccurrences_map {β : Type} (image : β → α) (sources : List β) :
    firstOccurrences key known (sources.map image) =
      (firstOccurrences (fun source => key (image source)) known sources).map image := by
  unfold firstOccurrences
  rw [List.zipIdx_map, List.filter_map, List.map_map, List.map_map]
  simp only [← List.map_take, Function.comp_def, Prod.map_fst, Prod.map_snd, id_eq,
    List.forall_mem_map]

lemma firstOccurrences_cons_known (added : String) (items : List α) :
    firstOccurrences key (added :: known) items =
      (firstOccurrences key known items).filter fun item => key item ≠ added := by
  unfold firstOccurrences
  rw [List.filter_map, List.filter_filter]
  congr 1
  refine List.filter_congr fun entry _ => ?_
  simp [not_or, and_assoc]

/-- The first item makes its key known to the items behind it, whether it is new or not. -/
lemma firstOccurrences_cons (first : α) (rest : List α) :
    firstOccurrences key known (first :: rest) =
      if key first ∈ known then firstOccurrences key known rest
      else first :: firstOccurrences key (key first :: known) rest := by
  have hlater : (((rest.zipIdx 1).filter fun (item, position) => key item ∉ known ∧
      ∀ earlier ∈ (first :: rest).take position, key earlier ≠ key item).map Prod.fst) =
      firstOccurrences key (key first :: known) rest := by
    unfold firstOccurrences
    rw [List.zipIdx_succ, List.filter_map, List.map_map]
    congr 1
    refine List.filter_congr fun entry _ => decide_eq_decide.mpr ?_
    rw [List.take_succ_cons, List.forall_mem_cons, List.mem_cons, not_or, eq_comm]
    tauto
  by_cases hknown : key first ∈ known
  · have hsame : firstOccurrences key (key first :: known) rest =
        firstOccurrences key known rest := by
      refine firstOccurrences_congr (fun other => ?_) rest
      rw [List.mem_cons, or_iff_right_of_imp fun heq => heq ▸ hknown]
    rw [if_pos hknown, ← hsame, ← hlater]
    simp [firstOccurrences, hknown]
  · rw [if_neg hknown, ← hlater]
    simp [firstOccurrences, hknown]

/-! ### Checks in sequence -/

lemma bind_eq_ok_iff {ε α β : Type} {first : Except ε α} {next : α → Except ε β} {result : β} :
    first >>= next = .ok result ↔ ∃ middle, first = .ok middle ∧ next middle = .ok result := by
  cases first with
  | ok middle => simp [bind, Except.bind]
  | error failure => simp [bind, Except.bind]

lemma bind_eq_error_iff {ε α β : Type} {first : Except ε α} {next : α → Except ε β} {failure : ε} :
    first >>= next = .error failure ↔
      first = .error failure ∨ ∃ middle, first = .ok middle ∧ next middle = .error failure := by
  cases first with
  | ok middle => simp [bind, Except.bind]
  | error failure => simp [bind, Except.bind]

lemma exists_eq_error_iff {ε : Type} {check : Except ε Unit} :
    (∃ failure, check = .error failure) ↔ ¬check = .ok () := by
  cases check with
  | ok => simp
  | error failure => simp

lemma forM_eq_ok_iff {ε : Type} (check : α → Except ε Unit) (items : List α) :
    items.forM check = .ok () ↔ ∀ item ∈ items, check item = .ok () := by
  induction items with
  | nil => simp [pure, Except.pure]
  | cons item rest ih =>
    rw [List.forM_eq_forM, List.forM_cons, ← List.forM_eq_forM, List.forall_mem_cons, ← ih]
    cases check item with
    | ok => simp [bind, Except.bind]
    | error => simp [bind, Except.bind]

lemma forM_eq_error_iff {ε : Type} {check : α → Except ε Unit} {test : α → Bool} {failure : ε}
    (htest : ∀ item, test item = true ↔ ¬check item = .ok ()) :
    items.forM check = .error failure ↔
      ∃ item, items.find? test = some item ∧ check item = .error failure := by
  induction items with
  | nil => simp [pure, Except.pure]
  | cons item rest ih =>
    rw [List.forM_eq_forM, List.forM_cons, ← List.forM_eq_forM, List.find?_cons]
    cases hitem : check item with
    | ok =>
      have hpasses : test item = false := Bool.eq_false_iff.mpr fun h => (htest item).mp h hitem
      rw [hpasses, ← ih]
      rfl
    | error found =>
      have hfails : test item = true := (htest item).mpr (by simp [hitem])
      simp [hfails, hitem, bind, Except.bind]

lemma forM_eq_error {ε : Type} {check : α → Except ε Unit} {items : List α} {failure : ε}
    (h : items.forM check = .error failure) : ∃ item ∈ items, check item = .error failure := by
  induction items with
  | nil => cases h
  | cons item rest ih =>
    rw [List.forM_eq_forM, List.forM_cons, ← List.forM_eq_forM] at h
    cases hitem : check item with
    | ok =>
      rw [hitem] at h
      obtain ⟨other, hother, hfailure⟩ := ih h
      exact ⟨other, List.mem_cons_of_mem _ hother, hfailure⟩
    | error =>
      rw [hitem] at h
      exact ⟨item, List.mem_cons_self, hitem.trans h⟩

end FaultTreeExchange
