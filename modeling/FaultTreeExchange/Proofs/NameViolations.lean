import FaultTreeExchange.Proofs.ScannedText
import FaultTreeExchange.Validation.NameFormat

/-!
# Violations of the rule for names

The rule for names and the reasons why a name is refused are said independently of each other. A name
follows the rule exactly when no reason against it holds, the reason given is the first that holds, and
it is given for the first name of a tree that does not follow the rule.
-/

namespace FaultTreeExchange

open Text

/-- The item has the property, and no item before it has. -/
def FirstWith {α : Type} (property : α → Prop) (items : List α) (item : α) : Prop :=
  ∃ before after, items = before ++ item :: after ∧ property item ∧
    ∀ earlier ∈ before, ¬property earlier

lemma FirstWith.map {α β : Type} (property : β → Prop) (view : α → β) {items : List α} {item : α}
    (h : FirstWith (fun item => property (view item)) items item) :
    FirstWith property (items.map view) (view item) := by
  obtain ⟨before, after, rfl, hitem, hbefore⟩ := h
  exact ⟨before.map view, after.map view, by rw [List.map_append, List.map_cons], hitem,
    List.forall_mem_map.mpr hbefore⟩

lemma FirstWith.cons {α : Type} {property : α → Prop} {first item : α} {rest : List α}
    (hfirst : ¬property first) (h : FirstWith property rest item) :
    FirstWith property (first :: rest) item := by
  obtain ⟨before, after, rfl, hitem, hbefore⟩ := h
  exact ⟨first :: before, after, rfl, hitem, List.forall_mem_cons.mpr ⟨hfirst, hbefore⟩⟩

lemma firstWith_ite {α : Type} {property : α → Prop} {first other : α} {rest : List α}
    {condition : Prop} [Decidable condition] (hfirst : condition ↔ property first)
    (hother : ¬property first → FirstWith property rest other) :
    FirstWith property (first :: rest) (if condition then first else other) := by
  by_cases hproperty : property first
  · rw [if_pos (hfirst.mpr hproperty)]
    exact ⟨[], rest, rfl, hproperty, by simp⟩
  · rw [if_neg fun hcondition => hproperty (hfirst.mp hcondition)]
    exact (hother hproperty).cons hproperty

/-! ### The rule and the reasons -/

/-- The rule for names. -/
structure Name.Follows (name : List Char) : Prop where
  initial : ∃ first ∈ name.head?, isLetter first = true ∨ first = '_'
  allowed : ∀ c ∈ name, isAlphanumeric c = true ∨ c = '_' ∨ c = '-'
  single : ¬['-', '-'] <:+: name
  ending : name.getLast? ≠ some '-'

namespace NameFlaw

/-- The reasons against a name, in the order in which they are looked for. -/
def inOrder : List NameFlaw :=
  [.empty, .startsWithDigit, .startsWithoutLetter, .holdsBlank, .holdsPoint, .holdsDoubleHyphen,
    .endsWithHyphen, .holdsOther]

/-- What a reason says of a name. -/
def Holds (name : List Char) : NameFlaw → Prop
  | .empty => name = []
  | .startsWithDigit => ∃ first ∈ name.head?, isDigit first = true
  | .startsWithoutLetter => ∃ first ∈ name.head?, ¬(isLetter first = true ∨ first = '_')
  | .holdsBlank => ∃ c ∈ name, isBlank c = true
  | .holdsPoint => '.' ∈ name
  | .holdsDoubleHyphen => ['-', '-'] <:+: name
  | .endsWithHyphen => name.getLast? = some '-'
  | .holdsOther => ∃ c ∈ name, ¬(isAlphanumeric c = true ∨ c = '_' ∨ c = '-')

/-- How a reason is told. -/
inductive Told : NameFlaw → String → Prop where
  | empty : Told .empty "name is empty"
  | startsWithDigit : Told .startsWithDigit "name must not start with a digit"
  | startsWithoutLetter : Told .startsWithoutLetter "name must start with a letter or '_'"
  | holdsBlank : Told .holdsBlank "name must not contain whitespace"
  | holdsPoint : Told .holdsPoint "name must not contain '.'"
  | holdsDoubleHyphen : Told .holdsDoubleHyphen "name must not contain '--'"
  | endsWithHyphen : Told .endsWithHyphen "name must not end with '-'"
  | holdsOther :
    Told .holdsOther "name contains characters outside letters, digits, '_' and '-'"

lemma told_message (flaw : NameFlaw) : flaw.Told flaw.message := by
  cases flaw <;> constructor

end NameFlaw

/-- A name as a report quotes it, with the words for what it belongs to. -/
structure QuotedName where
  owner : String
  name : String
  line : Nat

/-- The names of a tree: its own one, then those of its gates, basic events and house events. -/
def FaultTree.quotedNames (tree : FaultTree) : List QuotedName :=
  [⟨"fault tree", tree.name, tree.line⟩] ++
    tree.gates.map (fun gate => ⟨"gate", gate.name, gate.line⟩) ++
    tree.basicEvents.map (fun event => ⟨"event", event.name, event.line⟩) ++
    tree.houseEvents.map (fun event => ⟨"house event", event.name, event.line⟩)

namespace Name

variable {name : List Char} {c : Char}

lemma isInitial_iff : isInitial c = true ↔ isLetter c = true ∨ c = '_' := by
  simp [isInitial]

lemma isAllowed_iff : isAllowed c = true ↔ isAlphanumeric c = true ∨ c = '_' ∨ c = '-' := by
  simp [isAllowed, or_assoc]

lemma isValid_iff_follows (name : String) : isValid name = true ↔ Follows name.toList := by
  have hrule : Follows name.toList ↔ (∃ first ∈ name.toList.head?, isInitial first = true) ∧
      (∀ c ∈ name.toList, isAllowed c = true) ∧ name.toList.getLast? ≠ some '-' ∧
        holdsPair '-' '-' name.toList = false := by
    simp only [isInitial_iff, isAllowed_iff, Bool.eq_false_iff, ne_eq, holdsPair_iff]
    exact ⟨fun ⟨hfirst, hall, hpair, hlast⟩ => ⟨hfirst, hall, hlast, hpair⟩,
      fun ⟨hfirst, hall, hlast, hpair⟩ => ⟨hfirst, hall, hpair, hlast⟩⟩
  rw [hrule]
  unfold isValid
  cases name.toList with
  | nil => simp
  | cons first rest =>
    simp only [Bool.and_eq_true, List.all_eq_true, bne_iff_ne, Bool.not_eq_true', List.head?_cons,
      Option.mem_some_iff, exists_eq_left', List.forall_mem_cons]
    constructor
    · rintro ⟨⟨⟨hinitial, hrest⟩, hlast⟩, hpair⟩
      exact ⟨hinitial, ⟨isAllowed_of_isInitial hinitial, hrest⟩, hlast, hpair⟩
    · rintro ⟨hinitial, ⟨-, hrest⟩, hlast, hpair⟩
      exact ⟨⟨⟨hinitial, hrest⟩, hlast⟩, hpair⟩

/-- A name for which none of the other reasons holds breaks the rule by some character. -/
lemma exists_other_of_not_follows (h : ¬Follows name)
    (hnone : ∀ flaw : NameFlaw, flaw ≠ .holdsOther → ¬flaw.Holds name) :
    NameFlaw.holdsOther.Holds name := by
  by_contra hallowed
  apply h
  obtain ⟨first, rest, hname⟩ := List.exists_cons_of_ne_nil (hnone .empty (by simp))
  constructor
  · by_contra hinitial
    refine hnone .startsWithoutLetter (by simp) ⟨first, by rw [hname]; rfl, fun hfirst => ?_⟩
    exact hinitial ⟨first, by rw [hname]; rfl, hfirst⟩
  · intro c hc
    by_contra hother
    exact hallowed ⟨c, hc, hother⟩
  · exact hnone .holdsDoubleHyphen (by simp)
  · exact hnone .endsWithHyphen (by simp)

lemma Follows.not_holds (h : Follows name) (flaw : NameFlaw) : ¬flaw.Holds name := by
  obtain ⟨first, hfirst, hinitial⟩ := h.initial
  intro hholds
  cases flaw with
  | empty =>
    rw [NameFlaw.Holds] at hholds
    simp [hholds] at hfirst
  | startsWithDigit =>
    obtain ⟨c, hc, hdigit⟩ := hholds
    obtain rfl : first = c := Option.mem_unique hfirst hc
    rcases hinitial with hletter | rfl
    · rw [Token.not_isDigit_of_isLetter hletter] at hdigit
      cases hdigit
    · exact absurd hdigit (by decide)
  | startsWithoutLetter =>
    obtain ⟨c, hc, hother⟩ := hholds
    obtain rfl : first = c := Option.mem_unique hfirst hc
    exact hother hinitial
  | holdsBlank =>
    obtain ⟨c, hc, hblank⟩ := hholds
    have hword : Token.continuesWord c = true := by
      rcases h.allowed c hc with hletter | rfl | rfl
      · simp [Token.continuesWord, hletter]
      · simp [Token.continuesWord]
      · simp [Token.continuesWord]
    rw [Token.not_isBlank_of_continuesWord hword] at hblank
    cases hblank
  | holdsPoint => exact absurd (h.allowed '.' hholds) (by decide +kernel)
  | holdsDoubleHyphen => exact h.single hholds
  | endsWithHyphen => exact h.ending hholds
  | holdsOther =>
    obtain ⟨c, hc, hother⟩ := hholds
    exact hother (h.allowed c hc)

theorem follows_iff_no_flaw : Follows name ↔ ∀ flaw : NameFlaw, ¬flaw.Holds name := by
  constructor
  · exact Follows.not_holds
  · intro hnone
    by_contra h
    exact hnone .holdsOther (exists_other_of_not_follows h fun flaw _ => hnone flaw)

theorem flaw_firstWith {name : String} (h : ¬Follows name.toList) :
    FirstWith (NameFlaw.Holds name.toList) NameFlaw.inOrder (flaw name) := by
  unfold flaw
  revert h
  generalize name.toList = text
  intro h
  cases text with
  | nil => exact ⟨[], _, rfl, rfl, by simp⟩
  | cons first rest =>
    have hempty : ¬NameFlaw.empty.Holds (first :: rest) := List.cons_ne_nil first rest
    apply FirstWith.cons hempty
    -- Each condition of the choice says that its reason holds; the last reason is left over.
    refine firstWith_ite (by simp [NameFlaw.Holds]) fun hdigit => ?_
    refine firstWith_ite (by simp [NameFlaw.Holds, isInitial]) fun hletter => ?_
    refine firstWith_ite (by rw [List.any_eq_true]; rfl) fun hblank => ?_
    refine firstWith_ite (by rw [List.contains_iff_mem]; rfl) fun hpoint => ?_
    refine firstWith_ite holdsPair_iff fun hpair => ?_
    refine firstWith_ite Iff.rfl fun hhyphen => ?_
    refine ⟨[], [], rfl, exists_other_of_not_follows h fun other hother => ?_, by simp⟩
    cases other with
    | holdsOther => exact absurd rfl hother
    | _ => assumption

end Name

def NameUse.quoted (use : NameUse) : QuotedName :=
  ⟨use.role.label, use.name, use.line⟩

namespace FaultTree

lemma quotedNames_eq (tree : FaultTree) : tree.quotedNames = tree.nameUses.map NameUse.quoted := by
  simp [quotedNames, nameUses, NameUse.quoted, NameRole.label, Function.comp_def]

lemma checkNameFormat_eq_error {tree : FaultTree} {diagnostic : Diagnostic}
    (h : tree.checkNameFormat = .error diagnostic) :
    ∃ use, FirstWith (fun use => ¬Name.Follows use.name.toList) tree.nameUses use ∧
      diagnostic = ⟨.parsing (.invalidName use.role use.name (Name.flaw use.name)), tree.file,
        use.line⟩ := by
  unfold checkNameFormat at h
  split at h
  · cases h
  · rename_i use hfound
    cases h
    obtain ⟨hinvalid, before, after, hsplit, hbefore⟩ := List.find?_eq_some_iff_append.mp hfound
    refine ⟨use, ⟨before, after, hsplit, fun hfollows => ?_, fun earlier hearlier => ?_⟩, rfl⟩
    · rw [(Name.isValid_iff_follows use.name).mpr hfollows] at hinvalid
      cases hinvalid
    · rw [not_not, ← Name.isValid_iff_follows]
      simpa using hbefore earlier hearlier

/-- A tree is refused for its names exactly when its name or that of a gate, a basic event, declared
or undefined, or a house event breaks the rule. The report quotes the first such name in this order, with
its line, and gives the first reason that holds against it. -/
theorem name_violations_found_and_explained (tree : FaultTree) :
    ((∃ diagnostic, tree.checkNameFormat = .error diagnostic) ↔
      ¬(Name.Follows tree.name.toList ∧ (∀ gate ∈ tree.gates, Name.Follows gate.name.toList) ∧
        (∀ event ∈ tree.basicEvents, Name.Follows event.name.toList) ∧
        ∀ event ∈ tree.houseEvents, Name.Follows event.name.toList)) ∧
    ∀ diagnostic, tree.checkNameFormat = .error diagnostic →
      ∃ quoted flaw text,
        FirstWith (fun quoted => ¬Name.Follows quoted.name.toList) tree.quotedNames quoted ∧
        FirstWith (NameFlaw.Holds quoted.name.toList) NameFlaw.inOrder flaw ∧ flaw.Told text ∧
        diagnostic.report = ⟨.parsing, tree.file, quoted.line,
          s!"invalid {quoted.owner} name '{quoted.name}': {text}"⟩ := by
  constructor
  · rw [exists_eq_error_iff, checkNameFormat_eq_ok_iff]
    simp only [nameUses, Name.isValid_iff_follows, List.forall_mem_cons, List.forall_mem_append,
      List.forall_mem_map, and_assoc]
  · intro diagnostic hcheck
    obtain ⟨use, hfirst, rfl⟩ := checkNameFormat_eq_error hcheck
    have hinvalid : ¬Name.Follows use.name.toList := by
      obtain ⟨_, _, _, huse, _⟩ := hfirst
      exact huse
    refine ⟨use.quoted, _, _, ?_, Name.flaw_firstWith hinvalid, NameFlaw.told_message _, rfl⟩
    rw [quotedNames_eq]
    exact FirstWith.map _ NameUse.quoted hfirst

/-- Two events and a house event on an earlier line break the rule. -/
def misnamedTree : FaultTree where
  name := "Plant"
  line := 1
  file := "plant.ft"
  gates := [⟨"Top", .and, [⟨"tank", false, none⟩, ⟨"pump-.1--", false, none⟩], 3⟩]
  basicEvents := [⟨"Tank", none, .declared, 4⟩, ⟨"pump-.1--", none, .undefined, 3⟩,
    ⟨"-", none, .undefined, 3⟩]
  houseEvents := [⟨"2nd", true, 2⟩]
  names := []
  roots := []

example : misnamedTree.checkNameFormat =
    .error ⟨.parsing (.invalidName .basicEvent "pump-.1--" .holdsPoint), "plant.ft", 3⟩ := by
  decide +kernel

end FaultTree
end FaultTreeExchange
