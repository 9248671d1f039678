import FaultTreeExchange.Proofs.Acceptance

/-!
# Redefinitions

The declarations of a tree are looked at in the order of their lines. A tree is refused when two of them
have one name, and the report is about the first declaration in that order whose name has been declared
before. Undefined events are no declarations.
-/

namespace FaultTreeExchange

/-! ### Stable orders -/

/-- The items in the order of their ranks; those of one rank keep their order. -/
structure StablySorted {α : Type} (rank : α → Nat) (items sorted : List α) : Prop where
  ascending : sorted.Pairwise fun first second => rank first ≤ rank second
  stable : ∀ value, sorted.filter (fun item => rank item = value) =
    items.filter fun item => rank item = value

section StablySorted

variable {α : Type} {rank : α → Nat} {items sorted : List α}

lemma stablySorted_mergeSort (rank : α → Nat) (items : List α) :
    StablySorted rank items
      (items.mergeSort fun first second => rank first ≤ rank second) := by
  have htrans : ∀ first second third : α, decide (rank first ≤ rank second) = true →
      decide (rank second ≤ rank third) = true → decide (rank first ≤ rank third) = true := by
    simp only [decide_eq_true_eq]
    exact fun _ _ _ => Nat.le_trans
  have htotal : ∀ first second : α,
      (decide (rank first ≤ rank second) || decide (rank second ≤ rank first)) = true := by
    simp only [Bool.or_eq_true, decide_eq_true_eq]
    exact fun _ _ => Nat.le_total _ _
  constructor
  · exact (List.pairwise_mergeSort htrans htotal items).imp of_decide_eq_true
  · intro value
    have hperm := List.mergeSort_perm items fun first second => decide (rank first ≤ rank second)
    -- Items of one rank are in order as they stand, so sorting leaves them a sublist.
    have hsame : (items.filter fun item => rank item = value).Pairwise
        fun first second => decide (rank first ≤ rank second) = true := by
      refine List.pairwise_of_forall_mem_list fun first hfirst second hsecond => ?_
      simp only [List.mem_filter, decide_eq_true_eq] at hfirst hsecond
      rw [decide_eq_true_eq, hfirst.2, hsecond.2]
    have hsublist := (List.sublist_mergeSort htrans htotal hsame List.filter_sublist).filter
      fun item => rank item = value
    rw [List.filter_filter] at hsublist
    simp only [Bool.and_self] at hsublist
    exact (hsublist.eq_of_length (hperm.filter _).length_eq.symm).symm

lemma rank_head_le {first item : α} {rest : List α}
    (h : (first :: rest).Pairwise fun first second => rank first ≤ rank second)
    (hitem : item ∈ first :: rest) : rank first ≤ rank item := by
  rcases List.mem_cons.mp hitem with rfl | hrest
  · exact Nat.le_refl _
  · exact List.rel_of_pairwise_cons h hrest

lemma mem_iff_of_filter_rank_eq {other : List α}
    (h : ∀ value, other.filter (fun item => rank item = value) =
      sorted.filter fun item => rank item = value) (item : α) : item ∈ other ↔ item ∈ sorted := by
  have hitem := congrArg (item ∈ ·) (h (rank item))
  simpa using hitem

lemma filter_cons_cancel {test : α → Bool} {first : α} {rest others : List α}
    (h : (first :: rest).filter test = (first :: others).filter test) :
    rest.filter test = others.filter test := by
  by_cases hfirst : test first = true
  · rw [List.filter_cons_of_pos hfirst, List.filter_cons_of_pos hfirst] at h
    exact (List.cons.inj h).2
  · rwa [List.filter_cons_of_neg hfirst, List.filter_cons_of_neg hfirst] at h

lemma eq_of_filter_rank_eq {other : List α}
    (hsorted : sorted.Pairwise fun first second => rank first ≤ rank second)
    (hother : other.Pairwise fun first second => rank first ≤ rank second)
    (h : ∀ value, other.filter (fun item => rank item = value) =
      sorted.filter fun item => rank item = value) : other = sorted := by
  have hmem := mem_iff_of_filter_rank_eq h
  induction sorted generalizing other with
  | nil => exact List.eq_nil_iff_forall_not_mem.mpr fun item => by simp [hmem item]
  | cons least rest ih =>
    cases other with
    | nil => exact absurd ((hmem least).mpr List.mem_cons_self) List.not_mem_nil
    | cons head tail =>
      -- Both lists start with an item of the lowest rank, and with the same one of these.
      have hrank : rank head = rank least := by
        apply Nat.le_antisymm
        · exact rank_head_le hother ((hmem least).mpr List.mem_cons_self)
        · exact rank_head_le hsorted ((hmem head).mp List.mem_cons_self)
      have hfirst := h (rank least)
      rw [List.filter_cons_of_pos (by simpa using hrank),
        List.filter_cons_of_pos (by simp)] at hfirst
      obtain ⟨rfl, -⟩ := List.cons.inj hfirst
      have htails := fun value => filter_cons_cancel (h value)
      exact congrArg (head :: ·)
        (ih hsorted.of_cons hother.of_cons htails (mem_iff_of_filter_rank_eq htails))

lemma StablySorted.unique {other : List α} (h : StablySorted rank items sorted)
    (hother : StablySorted rank items other) : other = sorted :=
  eq_of_filter_rank_eq h.ascending hother.ascending
    fun value => (hother.stable value).trans (h.stable value).symm

end StablySorted

/-! ### Declarations -/

/-- The key of the name that is declared. -/
def Declaration.key (declaration : Declaration) : String :=
  Name.key declaration.name

/-- The words for what is declared. -/
inductive DeclarationKind.Called : DeclarationKind → String → Prop where
  | gate : Called .gate "gate"
  | basicEvent : Called .basicEvent "basic event"
  | houseEvent : Called .houseEvent "house event"

lemma DeclarationKind.called_label (kind : DeclarationKind) : kind.Called kind.label := by
  cases kind with
  | gate => exact .gate
  | basicEvent => exact .basicEvent
  | houseEvent => exact .houseEvent

/-- What is said about a declaration whose name has been declared before it. -/
inductive RedefinitionText (first second : Declaration) : String → Prop where
  | gates (hfirst : first.kind = .gate) (hsecond : second.kind = .gate) :
      RedefinitionText first second
        s!"redefinition of gate '{second.name}': first defined at line {first.line}"
  | probabilities (hfirst : first.kind = .basicEvent) (hsecond : second.kind = .basicEvent) :
      RedefinitionText first second
        s!"redefinition of the probability of '{second.name}': first assigned at line {first.line}"
  | states (hfirst : first.kind = .houseEvent) (hsecond : second.kind = .houseEvent) :
      RedefinitionText first second
        s!"redefinition of the state of '{second.name}': first assigned at line {first.line}"
  | mixed {firstWords secondWords : String} (hkinds : first.kind ≠ second.kind)
      (hfirst : first.kind.Called firstWords) (hsecond : second.kind.Called secondWords) :
      RedefinitionText first second
        (s!"redefinition of '{second.name}': declared as a {firstWords} at line {first.line} " ++
          s!"and as a {secondWords} here")

lemma redefinitionText_message (first second : Declaration) :
    RedefinitionText first second
      (TreeFault.redefinition second.name first.kind first.line second.kind).message := by
  obtain ⟨line, kind, name⟩ := first
  obtain ⟨secondLine, secondKind, secondName⟩ := second
  have hfirst := kind.called_label
  have hsecond := secondKind.called_label
  cases kind with
  | gate =>
    cases secondKind with
    | gate => exact .gates rfl rfl
    | basicEvent | houseEvent => exact .mixed (by simp) hfirst hsecond
  | basicEvent =>
    cases secondKind with
    | basicEvent => exact .probabilities rfl rfl
    | gate | houseEvent => exact .mixed (by simp) hfirst hsecond
  | houseEvent =>
    cases secondKind with
    | houseEvent => exact .states rfl rfl
    | gate | basicEvent => exact .mixed (by simp) hfirst hsecond

namespace FaultTree

/-- The declaration found is the first one whose name has been declared before it or was seen. -/
lemma firstRedefinition_eq_some {seen : List (String × Declaration)}
    {declarations : List Declaration} {first second : Declaration}
    (h : firstRedefinition seen declarations = some (first, second)) :
    ∃ before after, declarations = before ++ second :: after ∧
      Fresh Declaration.key (seen.map Prod.fst) before ∧
      (seen.lookup second.key = some first ∨
        seen.lookup second.key = none ∧ IsFirst Declaration.key before first ∧
          first.key = second.key) := by
  -- The declarations seen are general, since each new one is among them for the rest.
  induction declarations generalizing seen with
  | nil => cases h
  | cons declaration rest ih =>
    rw [firstRedefinition] at h
    cases hlookup : seen.lookup declaration.key with
    | some found =>
      rw [← Declaration.key, hlookup] at h
      cases h
      exact ⟨[], rest, rfl, ⟨List.nodup_nil, by simp⟩, .inl hlookup⟩
    | none =>
      rw [← Declaration.key, hlookup] at h
      obtain ⟨before, after, rfl, hfresh, hfound⟩ := ih h
      refine ⟨declaration :: before, after, rfl,
        fresh_cons_iff.mpr ⟨lookup_eq_none_iff_notMem.mp hlookup, hfresh⟩, ?_⟩
      by_cases hkey : second.key = declaration.key
      · have hhere : first = declaration := by
          simpa [List.lookup_cons, hkey, eq_comm] using hfound
        subst hhere
        exact .inr ⟨hkey ▸ hlookup, isFirst_cons_iff.mpr (.inl rfl), hkey.symm⟩
      · rw [List.lookup_cons, beq_eq_false_iff_ne.mpr hkey] at hfound
        rcases hfound with hseen | ⟨hunseen, hfirst, heq⟩
        · exact .inl hseen
        · have hne : declaration.key ≠ first.key := fun hsame => hkey (heq ▸ hsame.symm)
          exact .inr ⟨hunseen, isFirst_cons_iff.mpr (.inr ⟨hne, hfirst⟩), heq⟩

lemma checkRedefinitions_eq_error {tree : FaultTree} {diagnostic : Diagnostic}
    (h : tree.checkRedefinitions = .error diagnostic) :
    ∃ before second after first, tree.sortedDeclarations = before ++ second :: after ∧
      (before.map Declaration.key).Nodup ∧ IsFirst Declaration.key before first ∧
      first.key = second.key ∧
      diagnostic = ⟨.faultTree (.redefinition second.name first.kind first.line second.kind),
        tree.file, second.line⟩ := by
  unfold checkRedefinitions at h
  split at h
  · cases h
  · rename_i first second hfound
    cases h
    obtain ⟨before, after, hsplit, hfresh, hseen | ⟨-, hfirst, hkey⟩⟩ :=
      firstRedefinition_eq_some hfound
    · cases hseen
    · exact ⟨before, second, after, first, hsplit, fresh_nil_iff.mp hfresh, hfirst, hkey, rfl⟩

/-- A tree is refused exactly when two of its gates, declared basic events and house events have one
name in any letter case. With these in the order of their lines, the report is about the first whose
name stands before it: it has the line and the spelling of that declaration, and tells the line and
the kind of the first declaration of the name. Undefined events do not matter. -/
theorem redefinitions_found_and_located (tree : FaultTree) :
    ∃ declarations sorted : List Declaration,
      declarations = tree.gates.map (fun gate => ⟨gate.line, .gate, gate.name⟩) ++
        (tree.basicEvents.filter fun event => event.origin = .declared).map
          (fun event => ⟨event.line, .basicEvent, event.name⟩) ++
        tree.houseEvents.map (fun event => ⟨event.line, .houseEvent, event.name⟩) ∧
      StablySorted Declaration.line declarations sorted ∧
      (∀ other, StablySorted Declaration.line declarations other → other = sorted) ∧
      ((∃ diagnostic, tree.checkRedefinitions = .error diagnostic) ↔
        ¬(declarations.map Declaration.key).Nodup) ∧
      (∀ diagnostic, tree.checkRedefinitions = .error diagnostic →
        ∃ before second after first text, sorted = before ++ second :: after ∧
          (before.map Declaration.key).Nodup ∧ IsFirst Declaration.key before first ∧
          first.key = second.key ∧ RedefinitionText first second text ∧
          diagnostic.report = ⟨.faultTree, tree.file, second.line, text⟩) ∧
      ∀ events : List BasicEvent,
        events.filter (fun event => event.origin = .declared) =
          tree.basicEvents.filter (fun event => event.origin = .declared) →
        { tree with basicEvents := events }.checkRedefinitions = tree.checkRedefinitions := by
  have hsorted : StablySorted Declaration.line tree.declarations tree.sortedDeclarations :=
    stablySorted_mergeSort Declaration.line tree.declarations
  refine ⟨_, tree.sortedDeclarations, rfl, hsorted, fun other => hsorted.unique,
    exists_eq_error_iff.trans (not_congr (checkRedefinitions_eq_ok_iff tree)),
    fun diagnostic hcheck => ?_, fun events hevents => ?_⟩
  · obtain ⟨before, second, after, first, hsplit, hnodup, hfirst, hkey, rfl⟩ :=
      checkRedefinitions_eq_error hcheck
    exact ⟨before, second, after, first, _, hsplit, hnodup, hfirst, hkey,
      redefinitionText_message first second, rfl⟩
  · unfold checkRedefinitions sortedDeclarations declarations
    have hdeclared : FaultTree.declaredEvents { tree with basicEvents := events } =
        tree.declaredEvents := hevents
    rw [hdeclared]

/-- One name is declared three times, twice on one line, and another one twice on a later line. An
undefined event in front of them has the first name as well. -/
def crowdedTree : FaultTree where
  name := "Plant"
  line := 1
  file := "plant.ft"
  gates := [⟨"VALVE", .null, [⟨"tank", false, none⟩], 4⟩, ⟨"Valve", .null, [⟨"tank", false, none⟩], 3⟩]
  basicEvents := [⟨"valve", none, .undefined, 2⟩, ⟨"Tank", none, .declared, 5⟩]
  houseEvents := [⟨"vaLVe", true, 4⟩, ⟨"TANK", true, 5⟩]
  names := []
  roots := []

example : crowdedTree.checkRedefinitions =
    .error ⟨.faultTree (.redefinition "VALVE" .gate 3 .gate), "plant.ft", 4⟩ := by
  cbv

end FaultTree
end FaultTreeExchange
