import FaultTreeExchange.MemorySources
import FaultTreeExchange.Proofs.LexicalParts
import Mathlib.Data.List.Induction

/-!
# Reading sources in memory

At a path the last one is read of the sources whose paths have its normal form. So the order of the
sources counts where several of them fall together and hold different texts, and nowhere else. What is
read stands at the place of the path, unless this path or that of the source climbs.
-/

namespace FaultTreeExchange.MemorySources

variable {files before after reordered : List (Path × String)} {key query : Path}
  {text reason : String}

/-! ### What is read -/

/-- The texts of the sources whose paths have the normal form of a path. -/
def textsAt (files : List (Path × String)) (query : Path) : List String :=
  (files.filter fun file => file.1.normalParts = query.normalParts).map Prod.snd

lemma mem_textsAt_iff :
    text ∈ textsAt files query ↔
      ∃ file ∈ files, file.1.normalParts = query.normalParts ∧ file.2 = text := by
  simp [textsAt, and_assoc]

lemma textsAt_append (before after : List (Path × String)) (query : Path) :
    textsAt (before ++ after) query = textsAt before query ++ textsAt after query := by
  simp [textsAt]

lemma textsAt_cons_of_eq (h : key.normalParts = query.normalParts) (text : String)
    (after : List (Path × String)) :
    textsAt ((key, text) :: after) query = text :: textsAt after query := by
  simp [textsAt, h]

lemma textsAt_cons_of_ne (h : key.normalParts ≠ query.normalParts) (text : String)
    (after : List (Path × String)) :
    textsAt ((key, text) :: after) query = textsAt after query := by
  simp [textsAt, h]

lemma lookup_entries_ofList (files : List (Path × String)) (query : Path) :
    (ofList files).entries.lookup query.normalParts = (textsAt files query).getLast? := by
  induction files using List.reverseRecOn with
  | nil => rfl
  | append_singleton files file ih =>
    obtain ⟨key, text⟩ := file
    have hentries : (ofList (files ++ [(key, text)])).entries =
        (key.normalParts, text) :: (ofList files).entries := by
      simp [ofList]
    rw [hentries, List.lookup_cons, ih, textsAt_append]
    by_cases h : key.normalParts = query.normalParts
    · rw [textsAt_cons_of_eq h, h, beq_self_eq_true]
      exact List.getLast?_concat.symm
    · rw [textsAt_cons_of_ne h, beq_eq_false_iff_ne.mpr (Ne.symm h)]
      exact congrArg List.getLast? (List.append_nil _).symm

lemma read_eq_ok_iff :
    (ofList files).read query = .ok text ↔ (textsAt files query).getLast? = some text := by
  unfold read
  rw [lookup_entries_ofList]
  cases (textsAt files query).getLast? with
  | none => simp
  | some found => simp

lemma read_eq_error_iff :
    (ofList files).read query = .error reason ↔ textsAt files query = [] ∧
      reason = s!"file not found in memory: {(Path.ofParts query.normalParts).text}" := by
  unfold read
  rw [lookup_entries_ofList, ← List.getLast?_eq_none_iff]
  cases (textsAt files query).getLast? with
  | none => simp [eq_comm]
  | some found => simp

/-! ### The order of the sources -/

lemma perm_textsAt (h : files.Perm reordered) (query : Path) :
    (textsAt files query).Perm (textsAt reordered query) :=
  (h.filter _).map Prod.snd

lemma exists_perm_read (h : text ∈ textsAt files query) :
    ∃ reordered, files.Perm reordered ∧ (ofList reordered).read query = .ok text := by
  obtain ⟨⟨key, text⟩, hfile, hkey, rfl⟩ := mem_textsAt_iff.mp h
  obtain ⟨before, after, rfl⟩ := List.append_of_mem hfile
  refine ⟨before ++ (after ++ [(key, text)]), ?_, ?_⟩
  · exact (List.perm_append_singleton _ _).symm.append_left before
  · rw [read_eq_ok_iff, textsAt_append, textsAt_append, textsAt_cons_of_eq hkey, ← List.append_assoc]
    exact List.getLast?_concat

/-- What is read at a path is the same in every order of the sources exactly when those at the path
hold one text. Whether there is any does not depend on the order. -/
theorem read_reordered_iff (files : List (Path × String)) (query : Path) :
    ((∀ reordered, files.Perm reordered →
        (ofList reordered).read query = (ofList files).read query) ↔
      ∀ first ∈ files, ∀ second ∈ files, first.1.normalParts = query.normalParts →
        second.1.normalParts = query.normalParts → first.2 = second.2) ∧
    ∀ reordered, files.Perm reordered → ∀ reason,
      (ofList reordered).read query = .error reason ↔ (ofList files).read query = .error reason := by
  have herror : ∀ reordered, files.Perm reordered → ∀ reason,
      (ofList reordered).read query = .error reason ↔ (ofList files).read query = .error reason := by
    intro reordered hperm reason
    rw [read_eq_error_iff, read_eq_error_iff]
    have htexts := perm_textsAt hperm query
    exact and_congr_left' ⟨fun h => (h ▸ htexts).eq_nil, fun h => (h ▸ htexts.symm).eq_nil⟩
  refine ⟨⟨?_, ?_⟩, herror⟩
  · intro hsame first hfirst second hsecond hfirstKey hsecondKey
    obtain ⟨_, hperm, hread⟩ := exists_perm_read (mem_textsAt_iff.mpr ⟨first, hfirst, hfirstKey, rfl⟩)
    obtain ⟨_, hperm', hread'⟩ :=
      exists_perm_read (mem_textsAt_iff.mpr ⟨second, hsecond, hsecondKey, rfl⟩)
    rw [hsame _ hperm] at hread
    rw [hsame _ hperm', hread] at hread'
    exact Except.ok.inj hread'
  · intro hsame reordered hperm
    cases hread : (ofList files).read query with
    | error reason => exact (herror reordered hperm reason).mpr hread
    | ok text =>
      cases hread' : (ofList reordered).read query with
      | error reason =>
        rw [(herror reordered hperm reason).mp hread'] at hread
        cases hread
      | ok other =>
        have htext := List.mem_of_getLast? (read_eq_ok_iff.mp hread)
        have hother := (perm_textsAt hperm query).mem_iff.mpr
          (List.mem_of_getLast? (read_eq_ok_iff.mp hread'))
        obtain ⟨first, hfirst, hfirstKey, rfl⟩ := mem_textsAt_iff.mp hother
        obtain ⟨second, hsecond, hsecondKey, rfl⟩ := mem_textsAt_iff.mp htext
        rw [hsame first hfirst second hsecond hfirstKey hsecondKey]

/-- Two spellings of one place. Which text is read there depends on the order. -/
theorem spelling_stored_last_read :
    ([⟨"pump.txt"⟩, ⟨"./pump.txt"⟩] : List Path).Pairwise (fun first second =>
      first.parts ≠ second.parts) ∧
    [(⟨"pump.txt"⟩, "Old"), (⟨"./pump.txt"⟩, "New")].Perm
      [((⟨"./pump.txt"⟩ : Path), "New"), (⟨"pump.txt"⟩, "Old")] ∧
    (ofList [(⟨"pump.txt"⟩, "Old"), (⟨"./pump.txt"⟩, "New")]).read ⟨"pump.txt"⟩ = .ok "New" ∧
    (ofList [(⟨"./pump.txt"⟩, "New"), (⟨"pump.txt"⟩, "Old")]).read ⟨"pump.txt"⟩ = .ok "Old" := by
  refine ⟨by decide +kernel, List.Perm.swap _ _ _, ?_, ?_⟩
  · exact read_eq_ok_iff.mpr (by decide +kernel)
  · exact read_eq_ok_iff.mpr (by decide +kernel)

/-! ### The place of what is read -/

/-- The source under the key is the one that is read at a path: whatever its text is, it is read. -/
def Serves (before : List (Path × String)) (key : Path) (after : List (Path × String))
    (query : Path) : Prop :=
  ∀ text, (ofList (before ++ (key, text) :: after)).read query = .ok text

lemma serves_iff :
    Serves before key after query ↔
      key.normalParts = query.normalParts ∧ textsAt after query = [] := by
  constructor
  · intro h
    have hlast : ∀ text, (textsAt before query ++ textsAt ((key, text) :: after) query).getLast? =
        some text := by
      intro text
      rw [← textsAt_append]
      exact read_eq_ok_iff.mp (h text)
    -- No text that is the same for all texts of the key can be the last one.
    have hfixed : ∀ texts : List String, ¬∀ text, texts.getLast? = some text := by
      intro texts hall
      have hsame := Option.some.inj ((hall "").symm.trans (hall "."))
      exact absurd hsame (by decide)
    by_cases hkey : key.normalParts = query.normalParts
    · refine ⟨hkey, ?_⟩
      by_contra hne
      refine hfixed (textsAt after query) fun text => ?_
      rw [← hlast text, textsAt_cons_of_eq hkey, List.append_cons,
        List.getLast?_append_of_ne_nil _ hne]
    · simp only [textsAt_cons_of_ne hkey] at hlast
      exact absurd hlast (hfixed _)
  · rintro ⟨hkey, hafter⟩ text
    rw [read_eq_ok_iff, textsAt_append, textsAt_cons_of_eq hkey, hafter]
    exact List.getLast?_concat

lemma exists_serves (h : (ofList files).read query = .ok text) :
    ∃ before key after, files = before ++ (key, text) :: after ∧ Serves before key after query := by
  rw [read_eq_ok_iff] at h
  induction files using List.reverseRecOn with
  | nil => cases h
  | append_singleton files file ih =>
    obtain ⟨key, other⟩ := file
    rw [textsAt_append] at h
    by_cases hkey : key.normalParts = query.normalParts
    · rw [textsAt_cons_of_eq hkey] at h
      obtain rfl := Option.some.inj (List.getLast?_concat.symm.trans h)
      exact ⟨files, key, [], rfl, serves_iff.mpr ⟨hkey, rfl⟩⟩
    · have hrest : textsAt [(key, other)] query = [] := textsAt_cons_of_ne hkey other []
      rw [hrest, List.append_nil] at h
      obtain ⟨before, found, after, rfl, hserves⟩ := ih h
      obtain ⟨hfound, hafter⟩ := serves_iff.mp hserves
      refine ⟨before, found, after ++ [(key, other)], by simp, serves_iff.mpr ⟨hfound, ?_⟩⟩
      rw [textsAt_append, hafter, hrest, List.append_nil]

/-- What is read is stored under some key. The key and the path that is read have the same names on
their ways, and the same place exactly when the same stands before the names in both: so if neither of
them climbs, and not if one of them does. Where no path climbs, a source is read at every path that has
its place. -/
theorem read_at_place (query : Path) :
    (∀ files text, (ofList files).read query = .ok text → ∃ before key after,
      files = before ++ (key, text) :: after ∧ Serves before key after query) ∧
    (∀ before key after, Serves before key after query →
      key.placeNames = query.placeNames ∧
      (key.lexicalParts = query.lexicalParts ↔ key.front = query.front) ∧
      (key.climbs = false → query.climbs = false → key.lexicalParts = query.lexicalParts) ∧
      (key.climbs ≠ query.climbs → key.lexicalParts ≠ query.lexicalParts)) ∧
    ∀ files, (∀ file ∈ files, file.1.climbs = false) → query.climbs = false →
      (∃ file ∈ files, file.1.lexicalParts = query.lexicalParts) →
        ∃ text, (ofList files).read query = .ok text := by
  refine ⟨fun files text => exists_serves, ?_, ?_⟩
  · intro before key after hserves
    exact Path.places_of_normalParts_eq (serves_iff.mp hserves).1
  · rintro files hfiles hquery ⟨file, hfile, hplace⟩
    rw [Path.lexicalParts_eq_of_not_climbs (hfiles file hfile),
      Path.lexicalParts_eq_of_not_climbs hquery] at hplace
    have htext := mem_textsAt_iff.mpr ⟨file, hfile, hplace, rfl⟩
    exact ⟨_, read_eq_ok_iff.mpr (List.getLast?_eq_some_getLast (List.ne_nil_of_mem htext))⟩

/-- A source is read at another spelling of its place. -/
theorem respelled_path_read :
    (ofList [(⟨"/trees/pump.txt"⟩, "Pump")]).read ⟨"/trees/./sub/../pump.txt"⟩ = .ok "Pump" ∧
    Path.lexicalParts ⟨"/trees/pump.txt"⟩ = Path.lexicalParts ⟨"/trees/./sub/../pump.txt"⟩ := by
  obtain ⟨hread, hplace, -⟩ := read_at_place ⟨"/trees/./sub/../pump.txt"⟩
  have hfound : (ofList [(⟨"/trees/pump.txt"⟩, "Pump")]).read ⟨"/trees/./sub/../pump.txt"⟩ =
      .ok "Pump" := read_eq_ok_iff.mpr (by decide +kernel)
  obtain ⟨before, key, after, hfiles, hserves⟩ := hread _ _ hfound
  have hkey : key = ⟨"/trees/pump.txt"⟩ := by
    have hmem : (key, "Pump") ∈ [((⟨"/trees/pump.txt"⟩ : Path), "Pump")] := by
      rw [hfiles]
      exact List.mem_append_right _ List.mem_cons_self
    simpa using hmem
  subst hkey
  exact ⟨hfound, (hplace _ _ _ hserves).2.2.1 (by decide +kernel) (by decide +kernel)⟩

/-- A source of the working directory is read at a path from the root, and at one that leads out of
the working directory. -/
theorem climbing_path_reads_elsewhere :
    Serves [] ⟨"pump.txt"⟩ [] ⟨"/../pump.txt"⟩ ∧ Serves [] ⟨"pump.txt"⟩ [] ⟨"../pump.txt"⟩ ∧
    Path.lexicalParts ⟨"pump.txt"⟩ = [.name "pump.txt"] ∧
    Path.lexicalParts ⟨"/../pump.txt"⟩ = [.root, .name "pump.txt"] ∧
    Path.lexicalParts ⟨"../pump.txt"⟩ = [.parent, .name "pump.txt"] := by
  refine ⟨serves_iff.mpr ?_, serves_iff.mpr ?_, ?_⟩
  · decide +kernel
  · decide +kernel
  · decide +kernel

end FaultTreeExchange.MemorySources
