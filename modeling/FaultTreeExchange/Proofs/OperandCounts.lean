import FaultTreeExchange.Proofs.Acceptance
import FaultTreeExchange.Proofs.FaultPlaces
import FaultTreeExchange.Proofs.StatementLines

/-!
# Counts of operands

The grammar gives each operator as many operands as it takes, with the exception of votes, whose threshold
it leaves open. So the check of the counts is about votes only, and it reports the first one of the source
whose threshold is zero or not below the count of its references.
-/

namespace FaultTreeExchange

open Text

variable {source file name : String} {index minimum count : Nat}

/-! ### Votes on lines -/

/-- The tokens of `name := @(literal, [reference, …])`. -/
def voteTokens (name literal : String) (references : List Reference) : List Token :=
  [.word name, .define, .vote, .leftParenthesis, .number literal, .comma, .leftBracket] ++
    Reference.joined .comma references ++ [.rightBracket, .rightParenthesis]

/-- The line with this position defines a gate by a vote with a threshold and a count of references. -/
def DefinesVote (source : String) (index : Nat) (name : String) (minimum count : Nat) : Prop :=
  ∃ raw literal references, (sourceLines source)[index]? = some raw ∧
    Token.scan (statementText raw) = .ok (voteTokens name literal references) ∧
    IsThreshold literal minimum ∧ references ≠ [] ∧ references.length = count

/-- The line defines a gate by a vote whose threshold does not fit its count of references. -/
structure DefinesImpossibleVote (source : String) (index : Nat) (name : String)
    (minimum count : Nat) : Prop where
  defines : DefinesVote source index name minimum count
  impossible : minimum = 0 ∨ count ≤ minimum

/-- The line is the first one of the source that defines a gate by an impossible vote. -/
structure FirstImpossibleVote (source : String) (index : Nat) (name : String)
    (minimum count : Nat) : Prop where
  here : DefinesImpossibleVote source index name minimum count
  earlier : ∀ position < index, ∀ other threshold size,
    ¬DefinesImpossibleVote source position other threshold size

lemma DefinesImpossibleVote.exists_first (h : DefinesImpossibleVote source index name minimum count) :
    ∃ index name minimum count, FirstImpossibleVote source index name minimum count := by
  classical
  have hex : ∃ index name minimum count, DefinesImpossibleVote source index name minimum count :=
    ⟨index, name, minimum, count, h⟩
  obtain ⟨name, minimum, count, hhere⟩ := Nat.find_spec hex
  refine ⟨Nat.find hex, name, minimum, count, hhere, fun position hlt other threshold size hother => ?_⟩
  exact Nat.find_min hex hlt ⟨other, threshold, size, hother⟩

lemma Formula.SpelledBy.vote_tokens {references : List Reference} {tokens : List Token}
    (h : SpelledBy ⟨.atLeast minimum, references⟩ tokens) :
    ∃ literal, IsThreshold literal minimum ∧ references ≠ [] ∧
      tokens = [.vote, .leftParenthesis, .number literal, .comma, .leftBracket] ++
        Reference.joined .comma references ++ [.rightBracket, .rightParenthesis] := by
  generalize hformula : (⟨.atLeast minimum, references⟩ : Formula) = formula at h
  cases h with
  | vote literal minimum references hliteral hreferences =>
    cases hformula
    exact ⟨literal, hliteral, hreferences, rfl⟩
  | negation reference => cases hformula
  | group connective references hcount => cases connective <;> cases hformula
  | chain connective references hcount => cases connective <;> cases hformula
  | single reference => cases hformula

lemma definesVote_iff (file : String) :
    DefinesVote source index name minimum count ↔
      ∃ references : List Reference, references.length = count ∧
        (Statement.gate ⟨name, ⟨.atLeast minimum, references⟩,
          ⟨file, (index + 1) % lineNumberBound⟩⟩).StandsAt source file index := by
  constructor
  · rintro ⟨raw, literal, references, hraw, hscan, hliteral, hreferences, hcount⟩
    refine ⟨references, hcount, raw, hraw, ?_, _, hscan, ?_⟩
    · exact Token.infix_of_define_mem_scan hscan (by simp [voteTokens])
    · exact .gate name _ _ (.vote literal minimum references hliteral hreferences)
  · rintro ⟨references, hcount, raw, hraw, -, tokens, hscan, hspelled⟩
    cases hspelled with
    | gate name formula tokens hformula =>
      obtain ⟨literal, hliteral, hreferences, rfl⟩ := hformula.vote_tokens
      exact ⟨raw, literal, references, hraw, hscan, hliteral, hreferences, hcount⟩

/-! ### Counts that the grammar gives -/

lemma Formula.SpelledBy.takes {formula : Formula} {tokens : List Token} (h : formula.SpelledBy tokens)
    (hvote : ∀ minimum, formula.operator ≠ .atLeast minimum) :
    formula.operator.Takes formula.arguments.length := by
  have hjoins : ∀ (connective : Connective) (references : List Reference),
      connective.Joins references.length → connective.operator.Takes references.length := by
    rintro connective references ⟨htwo, hxor⟩
    cases connective with
    | and | or => exact htwo
    | xor => exact hxor rfl
  cases h with
  | vote literal minimum references hliteral hreferences => exact absurd rfl (hvote minimum)
  | negation reference => rfl
  | group connective references hcount => exact hjoins connective references hcount
  | chain connective references hcount => exact hjoins connective references hcount
  | single reference => rfl

lemma Statement.gate?_eq_some_iff {statement : Statement} {definition : GateDefinition} :
    statement.gate? = some definition ↔ statement = .gate definition := by
  cases statement <;> simp [Statement.gate?]

lemma Statement.StandsAt.place_eq {statement : Statement}
    (h : statement.StandsAt source file index) :
    statement.place = ⟨file, (index + 1) % lineNumberBound⟩ := by
  obtain ⟨raw, -, hwritten⟩ := h
  exact hwritten.place_eq

lemma Statement.StandsAt.takes {definition : GateDefinition}
    (h : (Statement.gate definition).StandsAt source file index)
    (hvote : ∀ minimum, definition.formula.operator ≠ .atLeast minimum) :
    definition.formula.operator.Takes definition.formula.arguments.length := by
  obtain ⟨raw, -, -, tokens, -, hspelled⟩ := h
  cases hspelled with
  | gate name formula tokens hformula => exact hformula.takes hvote

/-- A definition on a line whose operator does not take its count of references is a vote. -/
lemma Statement.StandsAt.exists_vote {definition : GateDefinition}
    (h : (Statement.gate definition).StandsAt source file index)
    (hnot : ¬definition.formula.operator.Takes definition.formula.arguments.length) :
    ∃ minimum, definition.formula.operator = .atLeast minimum := by
  by_contra hvote
  exact hnot (h.takes fun minimum hminimum => hvote ⟨minimum, hminimum⟩)

lemma definesImpossibleVote_iff (file : String) :
    DefinesImpossibleVote source index name minimum count ↔
      ∃ definition : GateDefinition, (Statement.gate definition).StandsAt source file index ∧
        ¬definition.formula.operator.Takes definition.formula.arguments.length ∧
        definition.name = name ∧ definition.formula.operator = .atLeast minimum ∧
        definition.formula.arguments.length = count := by
  constructor
  · rintro ⟨hdefines, himpossible⟩
    obtain ⟨references, rfl, hstands⟩ := (definesVote_iff file).mp hdefines
    refine ⟨_, hstands, ?_, rfl, rfl, rfl⟩
    rintro ⟨hpositive, hlt⟩
    dsimp only at hlt
    omega
  · rintro ⟨⟨_, ⟨_, references⟩, place⟩, hstands, hnot, rfl, rfl, rfl⟩
    obtain rfl : place = _ := hstands.place_eq
    refine ⟨(definesVote_iff file).mpr ⟨references, rfl, hstands⟩, ?_⟩
    by_contra hpossible
    exact hnot ⟨by omega, by omega⟩

/-! ### The check -/

namespace FaultTree

variable {document : Document} {built : FaultTree} {diagnostic : Diagnostic}

lemma checkArity_toGate_of_standsAt {definition : GateDefinition}
    (hstands : (Statement.gate definition).StandsAt source file index)
    (hvote : definition.formula.operator = .atLeast minimum)
    (hnot : ¬definition.formula.operator.Takes definition.formula.arguments.length) :
    Gate.checkArity file definition.toGate = .error
      ⟨.faultTree (.threshold definition.name minimum definition.formula.arguments.length), file,
        (index + 1) % lineNumberBound⟩ := by
  rw [hvote] at hnot
  have hfits : ¬(1 ≤ minimum ∧ minimum < definition.formula.arguments.length) := hnot
  have hline : definition.place.line = (index + 1) % lineNumberBound :=
    congrArg Place.line hstands.place_eq
  unfold Gate.checkArity Gate.arityFault GateDefinition.toGate
  simp only [hvote, List.length_map, hline]
  rw [if_neg hfits]

lemma checkArity_ofBuild_eq_error_iff :
    (ofBuild document).checkArity = .error diagnostic ↔
      ∃ definition, document.gates.find? (fun definition =>
          !decide (definition.formula.operator.Takes definition.formula.arguments.length)) =
        some definition ∧
        Gate.checkArity document.place.file definition.toGate = .error diagnostic := by
  have hgates : (ofBuild document).checkArity =
      document.gates.forM fun definition => Gate.checkArity document.place.file definition.toGate := by
    change (document.gates.map GateDefinition.toGate).forM (Gate.checkArity document.place.file) = _
    rw [List.forM_eq_forM, List.forM_map, ← List.forM_eq_forM]
  rw [hgates]
  refine forM_eq_error_iff fun definition => ?_
  rw [checkArity_toGate_eq_ok_iff]
  simp

lemma find?_not_takes_eq_some_iff {definition : GateDefinition} :
    ((statementsOf source file).filterMap Statement.gate?).find? (fun definition =>
        !decide (definition.formula.operator.Takes definition.formula.arguments.length)) =
      some definition ↔
    ¬definition.formula.operator.Takes definition.formula.arguments.length ∧
      ∃ index, (Statement.gate definition).StandsAt source file index ∧
        ∀ earlier < index, ∀ name minimum count,
          ¬DefinesImpossibleVote source earlier name minimum count := by
  rw [find?_statementsOf_eq_some_iff]
  simp only [Statement.gate?_eq_some_iff, Bool.not_eq_true', Bool.not_eq_false', decide_eq_false_iff_not,
    decide_eq_true_eq]
  refine and_congr_right fun _ => exists_congr fun index => ?_
  constructor
  · rintro ⟨statement, hstands, rfl, hearlier⟩
    refine ⟨hstands, fun earlier hlt name minimum count himpossible => ?_⟩
    obtain ⟨other, hother, hnot, -⟩ := (definesImpossibleVote_iff file).mp himpossible
    exact hnot (hearlier earlier hlt _ hother other rfl)
  · rintro ⟨hstands, hearlier⟩
    refine ⟨_, hstands, rfl, ?_⟩
    rintro earlier hlt second hsecond other rfl
    -- An earlier definition with a wrong count can only be a vote, and it would be an impossible one.
    by_contra hnot
    obtain ⟨minimum, hvote⟩ := hsecond.exists_vote hnot
    exact hearlier earlier hlt _ _ _
      ((definesImpossibleVote_iff file).mpr ⟨other, hsecond, hnot, rfl, hvote, rfl⟩)

theorem checkArity_eq_error_iff (hparse : Document.parse source file = .ok document)
    (hbuild : build document = .ok built) :
    built.checkArity = .error diagnostic ↔
      ∃ index name minimum count, FirstImpossibleVote source index name minimum count ∧
        diagnostic = ⟨.faultTree (.threshold name minimum count), file,
          (index + 1) % lineNumberBound⟩ := by
  obtain ⟨-, rfl⟩ := build_eq_ok_iff.mp hbuild
  have hfile : document.place.file = file :=
    (Document.place_of_parse hparse _ List.mem_cons_self).1
  rw [checkArity_ofBuild_eq_error_iff, hfile, Document.gates_of_parse hparse]
  simp only [find?_not_takes_eq_some_iff]
  constructor
  · rintro ⟨definition, ⟨hnot, index, hstands, hearlier⟩, herror⟩
    obtain ⟨minimum, hvote⟩ := hstands.exists_vote hnot
    rw [checkArity_toGate_of_standsAt hstands hvote hnot, Except.error.injEq] at herror
    exact ⟨index, definition.name, minimum, _,
      ⟨(definesImpossibleVote_iff file).mpr ⟨definition, hstands, hnot, rfl, hvote, rfl⟩, hearlier⟩,
      herror.symm⟩
  · rintro ⟨index, name, minimum, count, ⟨hhere, hearlier⟩, rfl⟩
    obtain ⟨definition, hstands, hnot, rfl, hvote, rfl⟩ := (definesImpossibleVote_iff file).mp hhere
    exact ⟨definition, ⟨hnot, index, hstands, hearlier⟩,
      checkArity_toGate_of_standsAt hstands hvote hnot⟩

lemma exists_standsAt_of_mem_gates (hparse : Document.parse source file = .ok document)
    (hbuild : build document = .ok built) {gate : Gate} (hgate : gate ∈ built.gates) :
    ∃ definition index, (Statement.gate definition).StandsAt source file index ∧
      gate = definition.toGate := by
  obtain ⟨-, rfl⟩ := build_eq_ok_iff.mp hbuild
  obtain ⟨definition, hdefinition, rfl⟩ := List.mem_map.mp hgate
  rw [Document.gates_of_parse hparse] at hdefinition
  obtain ⟨statement, hstatement, hselect⟩ := List.mem_filterMap.mp hdefinition
  obtain rfl := Statement.gate?_eq_some_iff.mp hselect
  obtain ⟨index, hstands⟩ := mem_statementsOf_iff.mp hstatement
  exact ⟨definition, index, hstands, rfl⟩

/-- The check of the counts fails for votes only. The other gates of a tree that was built from a source
have the arguments that their operator takes; the check fails exactly where some line defines a vote with
a threshold of zero or a threshold not below its count of references, and then it reports the first such
line with the name, the threshold and the count. A validation reports it too, unless one of the two
earlier checks fails. -/
theorem checkArity_fails_on_impossible_votes (hparse : Document.parse source file = .ok document)
    (hbuild : build document = .ok built) :
    (∀ gate ∈ built.gates,
      (gate.operator = .null ∨ gate.operator = .not → gate.arguments.length = 1) ∧
      (gate.operator = .xor → gate.arguments.length = 2) ∧
      (gate.operator = .and ∨ gate.operator = .or → 2 ≤ gate.arguments.length)) ∧
    ((∃ diagnostic, built.checkArity = .error diagnostic) ↔
      ∃ index name minimum count, DefinesVote source index name minimum count ∧
        (minimum = 0 ∨ count ≤ minimum)) ∧
    ∀ index name minimum count, FirstImpossibleVote source index name minimum count →
      ∃ diagnostic, built.checkArity = .error diagnostic ∧
        diagnostic.report = ⟨.faultTree, file, (index + 1) % Nat.pow 2 32,
          s!"vote gate '{name}' requires 1 <= K < N, got K = {minimum} and N = {count}"⟩ ∧
        (built.checkRedefinitions = .ok () → built.checkNameFormat = .ok () →
          ∀ multiTop, built.validate multiTop = (built, .error diagnostic)) := by
  refine ⟨fun gate hgate => ?_, ⟨?_, ?_⟩, fun index name minimum count hfirst => ?_⟩
  · obtain ⟨definition, index, hstands, rfl⟩ := exists_standsAt_of_mem_gates hparse hbuild hgate
    have htakes := hstands.takes
    unfold Operator.Takes at htakes
    simp only [GateDefinition.toGate, List.length_map]
    refine ⟨?_, ?_, ?_⟩
    · rintro (hoperator | hoperator) <;> simpa [hoperator] using htakes
    · intro hoperator
      simpa [hoperator] using htakes
    · rintro (hoperator | hoperator) <;> simpa [hoperator] using htakes
  · rintro ⟨diagnostic, herror⟩
    obtain ⟨index, name, minimum, count, hfirst, -⟩ :=
      (checkArity_eq_error_iff hparse hbuild).mp herror
    exact ⟨index, name, minimum, count, hfirst.here.defines, hfirst.here.impossible⟩
  · rintro ⟨index, name, minimum, count, hdefines, himpossible⟩
    obtain ⟨index, name, minimum, count, hfirst⟩ :=
      DefinesImpossibleVote.exists_first ⟨hdefines, himpossible⟩
    exact ⟨_, (checkArity_eq_error_iff hparse hbuild).mpr
      ⟨index, name, minimum, count, hfirst, rfl⟩⟩
  · have herror := (checkArity_eq_error_iff hparse hbuild).mpr
      ⟨index, name, minimum, count, hfirst, rfl⟩
    refine ⟨_, herror, rfl, fun hredefinitions hnames multiTop => ?_⟩
    unfold validate checkDeclarations
    rw [hredefinitions, hnames, herror]
    rfl

/-- Two votes whose thresholds do not fit, below a gate that has them as arguments. -/
def voteSource : String :=
  "Plant\nTop := Pump & Valve\nPump := @(0, [a, b])\nValve := @(2, [c, ~d])"

def voteDocument : Document where
  name := "Plant"
  place := ⟨"plant.ft", 1⟩
  gates := [⟨"Top", ⟨.and, [⟨"Pump", false⟩, ⟨"Valve", false⟩]⟩, ⟨"plant.ft", 2⟩⟩,
    ⟨"Pump", ⟨.atLeast 0, [⟨"a", false⟩, ⟨"b", false⟩]⟩, ⟨"plant.ft", 3⟩⟩,
    ⟨"Valve", ⟨.atLeast 2, [⟨"c", false⟩, ⟨"d", true⟩]⟩, ⟨"plant.ft", 4⟩⟩]
  probabilities := []
  states := []

/-- Of the two votes the first one is reported, on its line. -/
theorem sample_vote_reported :
    ∃ diagnostic, (ofBuild voteDocument).validate false = (ofBuild voteDocument, .error diagnostic) ∧
      diagnostic.report = ⟨.faultTree, "plant.ft", 3,
        "vote gate 'Pump' requires 1 <= K < N, got K = 0 and N = 2"⟩ := by
  have hparse : Document.parse voteSource "plant.ft" = .ok voteDocument := by decide +kernel
  have hbuild : build voteDocument = .ok (ofBuild voteDocument) :=
    build_of_distinctMarks (by decide +kernel)
  have hdefines : DefinesVote voteSource 2 "Pump" 0 2 :=
    ⟨"Pump := @(0, [a, b])".toList, "0", [⟨"a", false⟩, ⟨"b", false⟩], by decide +kernel,
      by decide +kernel, ⟨by decide, by simp [isDigit], by decide, by decide⟩, by decide, rfl⟩
  have hearlier : ∀ position < 2, ∀ other threshold size,
      ¬DefinesImpossibleVote voteSource position other threshold size := by
    rintro position hlt other threshold size ⟨⟨raw, literal, references, hraw, hscan, -⟩, -⟩
    have hnone : ∀ position < 2, ∀ raw ∈ (sourceLines voteSource)[position]?,
        ∀ tokens ∈ (Token.scan (statementText raw)).toOption, Token.vote ∉ tokens := by decide +kernel
    apply hnone position hlt raw hraw (voteTokens other literal references)
    · rw [hscan]
      rfl
    · simp [voteTokens]
  obtain ⟨-, -, hreported⟩ := checkArity_fails_on_impossible_votes hparse hbuild
  obtain ⟨diagnostic, -, hreport, hvalidate⟩ :=
    hreported 2 "Pump" 0 2 ⟨⟨hdefines, .inl rfl⟩, hearlier⟩
  refine ⟨diagnostic, hvalidate ?_ ?_ false, hreport⟩
  · rw [checkRedefinitions_eq_ok_iff]
    decide +kernel
  · rw [checkNameFormat_eq_ok_iff]
    decide +kernel

end FaultTree
end FaultTreeExchange
