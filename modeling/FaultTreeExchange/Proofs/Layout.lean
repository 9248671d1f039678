import FaultTreeExchange.Proofs.Renumbering

/-!
# The layout of sources

Lines without statements can be inserted, comments and blanks can be added, and line feeds can be
written with carriage returns. A source in another layout has the same statements on lines with other
numbers, so it describes the same document and the same tree.
-/

namespace FaultTreeExchange

open Text

/-! ### Changes of the layout -/

/-- A line of blanks, possibly with a comment behind them. -/
inductive IsVoid : List Char → Prop where
  | blank (blanks : List Char) (hblanks : ∀ c ∈ blanks, isBlank c = true) : IsVoid blanks
  | comment (blanks text : List Char) (hblanks : ∀ c ∈ blanks, isBlank c = true) :
      IsVoid (blanks ++ '#' :: text)

/-- One change of the layout of some lines, with the number that each line has afterwards. Lines are
counted from one. -/
inductive LayoutStep : List (List Char) → (Nat → Nat) → List (List Char) → Prop where
  | insert (before after : List (List Char)) (line : List Char) (hvoid : IsVoid line) :
      LayoutStep (before ++ after) (fun number => if number ≤ before.length then number else number + 1)
        (before ++ line :: after)
  | comment (before after : List (List Char)) (line text : List Char) :
      LayoutStep (before ++ line :: after) id (before ++ (line ++ '#' :: text) :: after)
  | blankStart (before after : List (List Char)) (line blanks : List Char)
      (hblanks : ∀ c ∈ blanks, isBlank c = true) :
      LayoutStep (before ++ line :: after) id (before ++ (blanks ++ line) :: after)
  | blankEnd (before after : List (List Char)) (line blanks : List Char)
      (hblanks : ∀ c ∈ blanks, isBlank c = true) :
      LayoutStep (before ++ line :: after) id (before ++ (line ++ blanks) :: after)
  /-- The line feed behind a line becomes a carriage return with a line feed. -/
  | carriageReturn (before after : List (List Char)) (line next : List Char) :
      LayoutStep (before ++ line :: next :: after) id (before ++ (line ++ ['\r']) :: next :: after)

/-- Any number of changes of the layout, one after another. -/
inductive Relaid (lines : List (List Char)) : (Nat → Nat) → List (List Char) → Prop where
  | refl : Relaid lines id lines
  | step {middle others : List (List Char)} {number shift : Nat → Nat}
      (hlines : Relaid lines number middle) (hstep : LayoutStep middle shift others) :
      Relaid lines (shift ∘ number) others

/-- The sources differ in their layout, and line `n` of the first is line `number n` of the other. The
parts between line feeds hold none, so no line feed is added as a blank or within a comment. -/
def RelaysSource (source : String) (number : Nat → Nat) (other : String) : Prop :=
  Relaid (source.toList.splitOn '\n') number (other.toList.splitOn '\n')

/-! ### What is left of a line -/

lemma trim_blanks_append {blanks : List Char} (h : ∀ c ∈ blanks, isBlank c = true)
    (text : List Char) : trim (blanks ++ text) = trim text := by
  unfold trim trimStart
  rw [List.dropWhile_append_of_pos h]

lemma trim_append_blanks {blanks : List Char} (h : ∀ c ∈ blanks, isBlank c = true)
    (text : List Char) : trim (text ++ blanks) = trim text := by
  induction blanks using List.reverseRecOn with
  | nil => rw [List.append_nil]
  | append_singleton blanks last ih =>
    rw [← List.append_assoc, trim_concat_of_isBlank (h last (by simp))]
    exact ih fun c hc => h c (List.mem_append_left _ hc)

lemma ne_hash_of_isBlank {c : Char} (h : isBlank c = true) : c ≠ '#' := by
  rintro rfl
  revert h
  decide

/-- Where no comment starts before it, more text is cut like text of its own. -/
lemma takeWhile_append_cases (line text : List Char) :
    (line ++ text).takeWhile (· ≠ '#') = line.takeWhile (· ≠ '#') ∨
      ((line ++ text).takeWhile (· ≠ '#') = line ++ text.takeWhile (· ≠ '#') ∧
        line.takeWhile (· ≠ '#') = line) := by
  rw [List.takeWhile_append]
  split
  · rename_i hlength
    exact .inr ⟨rfl, (List.takeWhile_prefix _).eq_of_length hlength⟩
  · exact .inl rfl

lemma statementText_comment (line text : List Char) :
    statementText (line ++ '#' :: text) = statementText line := by
  unfold statementText
  rcases takeWhile_append_cases line ('#' :: text) with hcut | ⟨hcut, hwhole⟩
  · rw [hcut]
  · rw [hcut, hwhole, List.takeWhile_cons_of_neg (by simp), List.append_nil]

lemma takeWhile_blanks_append {blanks : List Char} (h : ∀ c ∈ blanks, isBlank c = true)
    (line : List Char) :
    (blanks ++ line).takeWhile (· ≠ '#') = blanks ++ line.takeWhile (· ≠ '#') :=
  List.takeWhile_append_of_pos fun c hc => decide_eq_true (ne_hash_of_isBlank (h c hc))

lemma statementText_blankStart {blanks : List Char} (h : ∀ c ∈ blanks, isBlank c = true)
    (line : List Char) : statementText (blanks ++ line) = statementText line := by
  unfold statementText
  rw [takeWhile_blanks_append h, trim_blanks_append h]

lemma statementText_blankEnd {blanks : List Char} (h : ∀ c ∈ blanks, isBlank c = true)
    (line : List Char) : statementText (line ++ blanks) = statementText line := by
  have hblanks := takeWhile_blanks_append h []
  rw [List.append_nil, List.takeWhile_nil, List.append_nil] at hblanks
  unfold statementText
  rcases takeWhile_append_cases line blanks with hcut | ⟨hcut, hwhole⟩
  · rw [hcut]
  · rw [hcut, hwhole, hblanks, trim_append_blanks h]

lemma IsVoid.statementText_eq {line : List Char} (h : IsVoid line) : statementText line = [] := by
  have hempty : ∀ blanks : List Char, (∀ c ∈ blanks, isBlank c = true) →
      statementText blanks = [] := by
    intro blanks hblanks
    have htext := statementText_blankStart hblanks []
    rwa [List.append_nil] at htext
  cases h with
  | blank _ hblanks => exact hempty line hblanks
  | comment blanks text hblanks =>
    rw [statementText_comment]
    exact hempty blanks hblanks

/-! ### Lines that carry statements -/

/-- The lines that are not empty, with their numbers counted from a given one. -/
def significantFrom (first : Nat) (lines : List (List Char)) : List Line :=
  (lines.zipIdx first).filterMap significantLine?

lemma significantFrom_append (first : Nat) (lines others : List (List Char)) :
    significantFrom first (lines ++ others) =
      significantFrom first lines ++ significantFrom (first + lines.length) others := by
  unfold significantFrom
  rw [List.zipIdx_append, List.filterMap_append]

lemma significantFrom_cons (first : Nat) (line : List Char) (rest : List (List Char)) :
    significantFrom first (line :: rest) =
      (significantLine? (line, first)).toList ++ significantFrom (first + 1) rest := by
  unfold significantFrom
  rw [List.zipIdx_cons, List.filterMap_cons]
  cases significantLine? (line, first) <;> rfl

lemma significantLine?_eq_none {line : List Char} (h : statementText line = []) (number : Nat) :
    significantLine? (line, number) = none := by
  unfold significantLine?
  rw [if_pos h]

lemma significantFrom_eq_nil {lines : List (List Char)} (h : ∀ line ∈ lines, statementText line = [])
    (first : Nat) : significantFrom first lines = [] := by
  unfold significantFrom
  rw [List.filterMap_eq_nil_iff]
  rintro ⟨line, number⟩ hentry
  obtain ⟨-, -, hline⟩ := List.mem_zipIdx hentry
  exact significantLine?_eq_none (hline ▸ h _ (List.getElem_mem _)) number

lemma significantFrom_replace (first : Nat) (before after : List (List Char)) {line other : List Char}
    (h : statementText other = statementText line) :
    significantFrom first (before ++ other :: after) =
      significantFrom first (before ++ line :: after) := by
  have hline : ∀ number, significantLine? (other, number) = significantLine? (line, number) := by
    intro number
    unfold significantLine?
    rw [h]
  rw [significantFrom_append, significantFrom_append, significantFrom_cons, significantFrom_cons,
    hline]

lemma map_renumbered_id (lines : List Line) : lines.map (Line.renumbered id) = lines :=
  List.map_id lines

lemma map_renumbered_comp (lines : List Line) (number shift : Nat → Nat) :
    lines.map (Line.renumbered (shift ∘ number)) =
      (lines.map (Line.renumbered number)).map (Line.renumbered shift) := by
  rw [List.map_map]
  rfl

lemma significantLine?_renumbered (shift : Nat → Nat) (line : List Char) (number : Nat) :
    significantLine? (line, shift number) =
      (significantLine? (line, number)).map (Line.renumbered shift) := by
  unfold significantLine?
  split <;> rfl

lemma significantFrom_renumbered {shift : Nat → Nat} {first other : Nat} (lines : List (List Char))
    (h : ∀ index < lines.length, shift (first + index) = other + index) :
    significantFrom other lines = (significantFrom first lines).map (Line.renumbered shift) := by
  induction lines generalizing first other with
  | nil => rfl
  | cons line rest ih =>
    have hrest : ∀ index < rest.length, shift (first + 1 + index) = other + 1 + index := by
      intro index hindex
      have hshift := h (index + 1) (Nat.succ_lt_succ hindex)
      rwa [Nat.add_right_comm, Nat.add_assoc first, Nat.add_right_comm other, Nat.add_assoc other]
    have hline : shift first = other := h 0 (Nat.zero_lt_succ _)
    rw [significantFrom_cons, significantFrom_cons, List.map_append, ih hrest, ← hline,
      significantLine?_renumbered]
    cases significantLine? (line, first) <;> rfl

lemma LayoutStep.significantFrom_eq {lines others : List (List Char)} {shift : Nat → Nat}
    (h : LayoutStep lines shift others) :
    significantFrom 1 others = (significantFrom 1 lines).map (Line.renumbered shift) := by
  cases h with
  | insert before after line hvoid =>
    have hnone := significantLine?_eq_none hvoid.statementText_eq (1 + before.length)
    rw [significantFrom_append, significantFrom_append, significantFrom_cons, hnone, List.map_append]
    congr 1
    · refine significantFrom_renumbered before fun index hindex => ?_
      rw [if_pos (by omega)]
    · refine significantFrom_renumbered after fun index hindex => ?_
      rw [if_neg (by omega)]
      omega
  | comment before after line text =>
    rw [map_renumbered_id, significantFrom_replace 1 before after (statementText_comment line text)]
  | blankStart before after line blanks hblanks =>
    rw [map_renumbered_id,
      significantFrom_replace 1 before after (statementText_blankStart hblanks line)]
  | blankEnd before after line blanks hblanks =>
    rw [map_renumbered_id,
      significantFrom_replace 1 before after (statementText_blankEnd hblanks line)]
  | carriageReturn before after line next =>
    have hreturn : ∀ c ∈ ['\r'], isBlank c = true := List.forall_mem_singleton.mpr (by decide)
    rw [map_renumbered_id,
      significantFrom_replace 1 before (next :: after) (statementText_blankEnd hreturn line)]

theorem Relaid.significantFrom_eq {lines others : List (List Char)} {number : Nat → Nat}
    (h : Relaid lines number others) :
    significantFrom 1 others = (significantFrom 1 lines).map (Line.renumbered number) := by
  induction h with
  | refl => rw [map_renumbered_id]
  | step _ hstep ih => rw [map_renumbered_comp, ← ih, hstep.significantFrom_eq]

lemma LayoutStep.zero {lines others : List (List Char)} {shift : Nat → Nat}
    (h : LayoutStep lines shift others) : shift 0 = 0 := by
  cases h with
  | insert before after line hvoid => exact if_pos (Nat.zero_le _)
  | comment | blankStart | blankEnd | carriageReturn => rfl

lemma Relaid.zero {lines others : List (List Char)} {number : Nat → Nat}
    (h : Relaid lines number others) : number 0 = 0 := by
  induction h with
  | refl => rfl
  | step _ hstep ih => rw [Function.comp_apply, ih, hstep.zero]

/-! ### Sources -/

variable {source other : String} {number : Nat → Nat}

lemma significantLines_eq (source : String) :
    significantLines source = significantFrom 1 (source.toList.splitOn '\n') := by
  obtain ⟨rest, hsplit, hrest⟩ := exists_splitOn_eq source
  have hempty : ∀ line ∈ rest, statementText line = [] := by
    intro line hline
    rw [hrest line hline]
    rfl
  rw [hsplit, significantFrom_append, significantFrom_eq_nil hempty, List.append_nil]
  rfl

lemma RelaysSource.significantLines (h : RelaysSource source number other) :
    significantLines other = (significantLines source).map (Line.renumbered number) := by
  rw [significantLines_eq, significantLines_eq]
  exact Relaid.significantFrom_eq h

/-- A source in another layout says the same on other lines. It is read as the same document, or with
the same fault, up to the numbers of the lines; it is accepted or refused as before, and the text of its
tree stays the same. -/
theorem layout_is_irrelevant (h : RelaysSource source number other)
    (hsource : (sourceLines source).length < Nat.pow 2 32)
    (hother : (sourceLines other).length < Nat.pow 2 32) (file : String) (multiTop : Bool) :
    number 0 = 0 ∧
    significantLines other = (significantLines source).map (Line.renumbered number) ∧
    Document.parse other file = Document.renumberedResult number (Document.renumbered number)
      (Document.parse source file) ∧
    ((∃ tree, translate source file multiTop = .ok tree) ↔
      ∃ tree, translate other file multiTop = .ok tree) ∧
    ∀ tree, translate source file multiTop = .ok tree →
      ∃ relaid, translate other file multiTop = .ok relaid ∧
        relaid.exchangeText = tree.exchangeText := by
  have hzero : number 0 = 0 := Relaid.zero h
  have hlines : statementLines other = (statementLines source).map (Line.renumbered number) := by
    rw [statementLines_eq hsource, statementLines_eq hother]
    exact h.significantLines
  obtain ⟨haccepts, htrees⟩ := translate_renumbered hzero hlines file multiTop
  refine ⟨hzero, h.significantLines, Document.parse_renumbered hzero hlines file, haccepts, ?_⟩
  intro tree htree
  exact ⟨_, htrees tree htree, FaultTree.exchangeText_renumbered tree⟩

/-- The spelled sample with a comment and a carriage return behind its name, a blank line, and blanks
around its first gate. -/
def relaidSource : String :=
  "Plant# of two\r\n \t\n  Top := Pump & ~Valve\r \nValve := PUMP | Mains # pump or mains\ns(Mains) = true"

lemma relaid_lines (name top : List Char) (rest : List (List Char)) :
    Relaid (name :: top :: rest) (fun number => if number ≤ 1 then number else number + 1)
      (((name ++ '#' :: " of two".toList) ++ ['\r']) :: " \t".toList ::
        (("  ".toList ++ top) ++ " ".toList) :: rest) := by
  have hcomment := Relaid.refl.step (.comment [] (top :: rest) name " of two".toList)
  have hreturn := hcomment.step (.carriageReturn [] rest _ top)
  have hinsert := hreturn.step
    (.insert [_] (top :: rest) " \t".toList (.blank _ (List.all_eq_true.mp (by decide))))
  have hstart := hinsert.step
    (.blankStart [_, _] rest top "  ".toList (List.all_eq_true.mp (by decide)))
  exact hstart.step (.blankEnd [_, _] rest _ " ".toList (List.all_eq_true.mp (by decide)))

lemma relays_spelledSource :
    RelaysSource spelledSource (fun number => if number ≤ 1 then number else number + 1)
      relaidSource := by
  have hlines : spelledSource.toList.splitOn '\n' =
      "Plant".toList :: "Top := Pump & ~Valve\r".toList ::
        ["Valve := PUMP | Mains # pump or mains".toList, "s(Mains) = true".toList] := by
    decide +kernel
  have hothers : relaidSource.toList.splitOn '\n' =
      (("Plant".toList ++ '#' :: " of two".toList) ++ ['\r']) :: " \t".toList ::
        (("  ".toList ++ "Top := Pump & ~Valve\r".toList) ++ " ".toList) ::
        ["Valve := PUMP | Mains # pump or mains".toList, "s(Mains) = true".toList] := by
    decide +kernel
  unfold RelaysSource
  rw [hlines, hothers]
  exact relaid_lines _ _ _

/-- The sample in another layout is the same document on other lines, with the same text. -/
theorem sample_relaid :
    RelaysSource spelledSource (fun number => if number ≤ 1 then number else number + 1)
      relaidSource ∧
    Document.parse relaidSource "plant.ft" = .ok (spelledDocument.renumbered fun number =>
      if number ≤ 1 then number else number + 1) ∧
    ∃ tree relaid, translate spelledSource "plant.ft" false = .ok tree ∧
      translate relaidSource "plant.ft" false = .ok relaid ∧
      relaid.exchangeText = tree.exchangeText := by
  have hparse : Document.parse spelledSource "plant.ft" = .ok spelledDocument := by decide +kernel
  have hsound : spelledDocument.Sound false := by decide +kernel
  have htree := translate_of_sound hparse hsound
  obtain ⟨-, -, hdocument, -, hrelaid⟩ := layout_is_irrelevant relays_spelledSource
    (by decide +kernel) (by decide +kernel) "plant.ft" false
  rw [hparse] at hdocument
  obtain ⟨relaid, hother, htext⟩ := hrelaid _ htree
  exact ⟨relays_spelledSource, hdocument, _, relaid, htree, hother, htext⟩

end FaultTreeExchange
