import FaultTreeExchange.Proofs.StatementOrder

/-!
# Other line numbers

The numbers of lines are carried along and never looked at by the parser. So lines that are counted in
another way give the same document, or the same fault, with the numbers replaced. A tree keeps its
exchange text when its lines are numbered anew.
-/

namespace FaultTreeExchange

open Text

/-! ### What carries line numbers -/

section

variable (number : Nat → Nat)

def Text.Line.renumbered (line : Line) : Line :=
  { line with number := number line.number }

def Place.renumbered (place : Place) : Place :=
  { place with line := number place.line }

def GateDefinition.renumbered (definition : GateDefinition) : GateDefinition :=
  { definition with place := definition.place.renumbered number }

def ProbabilityAssignment.renumbered (assignment : ProbabilityAssignment) : ProbabilityAssignment :=
  { assignment with place := assignment.place.renumbered number }

def StateAssignment.renumbered (assignment : StateAssignment) : StateAssignment :=
  { assignment with place := assignment.place.renumbered number }

def Statement.renumbered : Statement → Statement
  | .gate definition => .gate (definition.renumbered number)
  | .probability assignment => .probability (assignment.renumbered number)
  | .state assignment => .state (assignment.renumbered number)

/-- The document with the line of every statement, and of its name, replaced. -/
def Document.renumbered (document : Document) : Document where
  name := document.name
  place := document.place.renumbered number
  gates := document.gates.map (GateDefinition.renumbered number)
  probabilities := document.probabilities.map (ProbabilityAssignment.renumbered number)
  states := document.states.map (StateAssignment.renumbered number)

def Diagnostic.renumbered (diagnostic : Diagnostic) : Diagnostic :=
  { diagnostic with line := number diagnostic.line }

def Gate.renumbered (gate : Gate) : Gate :=
  { gate with line := number gate.line }

def BasicEvent.renumbered (event : BasicEvent) : BasicEvent :=
  { event with line := number event.line }

def HouseEvent.renumbered (event : HouseEvent) : HouseEvent :=
  { event with line := number event.line }

/-- The tree with the line of every gate and event, and of its name, replaced. -/
def FaultTree.renumbered (tree : FaultTree) : FaultTree :=
  { tree with
    line := number tree.line
    gates := tree.gates.map (Gate.renumbered number)
    basicEvents := tree.basicEvents.map (BasicEvent.renumbered number)
    houseEvents := tree.houseEvents.map (HouseEvent.renumbered number) }

end

variable {number : Nat → Nat}

/-! ### Documents -/

namespace Statement

lemma readGate_renumbered (place : Place) (tokens : List Token) :
    readGate (place.renumbered number) tokens =
      (readGate place tokens).map (GateDefinition.renumbered number) := by
  unfold readGate
  cases readName tokens with
  | error fault => rfl
  | ok found =>
    dsimp only [bind, Except.bind]
    cases Token.expect .define found.2 with
    | error fault => rfl
    | ok tokens =>
      dsimp only
      cases Formula.read tokens <;> rfl

lemma readProbability_renumbered (place : Place) (tokens : List Token) :
    readProbability (place.renumbered number) tokens =
      (readProbability place tokens).map (ProbabilityAssignment.renumbered number) := by
  unfold readProbability
  cases readTarget tokens with
  | error fault => rfl
  | ok target =>
    dsimp only [bind, Except.bind]
    cases readNumber target.2 with
    | error fault => rfl
    | ok found =>
      dsimp only
      split
      · cases readEnd found.2 <;> rfl
      · rfl

lemma readState_renumbered (place : Place) (tokens : List Token) :
    readState (place.renumbered number) tokens =
      (readState place tokens).map (StateAssignment.renumbered number) := by
  unfold readState
  cases readTarget tokens with
  | error fault => rfl
  | ok target =>
    dsimp only [bind, Except.bind]
    cases readTruth target.2 with
    | error fault => rfl
    | ok found =>
      dsimp only
      cases readEnd found.2 <;> rfl

lemma ofText_renumbered (place : Place) (text : List Char) :
    ofText (place.renumbered number) text = (ofText place text).map (Statement.renumbered number) := by
  unfold ofText
  split
  · cases Token.scan text with
    | error fault => rfl
    | ok tokens =>
      dsimp only [bind, Except.bind]
      rw [readGate_renumbered]
      cases readGate place tokens <;> rfl
  · cases Token.scan text with
    | error fault => rfl
    | ok tokens =>
      dsimp only [bind, Except.bind]
      rw [readProbability_renumbered]
      cases readProbability place tokens <;> rfl
  · cases Token.scan text with
    | error fault => rfl
    | ok tokens =>
      dsimp only [bind, Except.bind]
      rw [readState_renumbered]
      cases readState place tokens <;> rfl
  · rfl

end Statement

namespace Document

/-- A result of the parser with its line numbers replaced. -/
def renumberedResult {α : Type} (number : Nat → Nat) (move : α → α) (result : Except Diagnostic α) :
    Except Diagnostic α :=
  (result.map move).mapError (Diagnostic.renumbered number)

variable {file name : String}

lemma readLine_renumbered (gateSeen : Bool) (line : Line) :
    readLine file name gateSeen (line.renumbered number) =
      renumberedResult number (Statement.renumbered number) (readLine file name gateSeen line) := by
  unfold readLine
  have htext : (line.renumbered number).text = line.text := rfl
  have hplace : (⟨file, (line.renumbered number).number⟩ : Place) =
      Place.renumbered number ⟨file, line.number⟩ := rfl
  rw [htext, hplace, Statement.ofText_renumbered]
  split
  · rfl
  · cases Statement.ofText ⟨file, line.number⟩ line.text <;> rfl

lemma readLines_renumbered (gateSeen : Bool) (lines : List Line) :
    readLines file name gateSeen (lines.map (Line.renumbered number)) =
      renumberedResult number (List.map (Statement.renumbered number))
        (readLines file name gateSeen lines) := by
  induction lines generalizing gateSeen with
  | nil => rfl
  | cons line rest ih =>
    rw [List.map_cons, readLines, readLines, readLine_renumbered]
    cases readLine file name gateSeen line with
    | error diagnostic => rfl
    | ok statement =>
      have hgate : (statement.renumbered number).gate?.isSome = statement.gate?.isSome := by
        cases statement <;> rfl
      dsimp only [renumberedResult, Except.map, Except.mapError, bind, Except.bind]
      rw [hgate, ih]
      cases readLines file name (gateSeen || statement.gate?.isSome) rest <;> rfl

lemma ofStatements_renumbered (place : Place) (statements : List Statement) :
    ofStatements name (place.renumbered number) (statements.map (Statement.renumbered number)) =
      (ofStatements name place statements).renumbered number := by
  have hselect : ∀ {α : Type} (select : Statement → Option α) (move : α → α),
      (∀ statement, select (Statement.renumbered number statement) = (select statement).map move) →
      (statements.map (Statement.renumbered number)).filterMap select =
        (statements.filterMap select).map move := by
    intro α select move hmove
    rw [List.filterMap_map, List.map_filterMap]
    exact List.filterMap_congr fun statement _ => hmove statement
  unfold ofStatements renumbered
  rw [hselect Statement.gate? (GateDefinition.renumbered number),
    hselect Statement.probability? (ProbabilityAssignment.renumbered number),
    hselect Statement.state? (StateAssignment.renumbered number)]
  all_goals
    intro statement
    cases statement <;> rfl

theorem parse_renumbered {source other : String} (hzero : number 0 = 0)
    (h : statementLines other = (statementLines source).map (Line.renumbered number))
    (file : String) :
    parse other file = renumberedResult number (renumbered number) (parse source file) := by
  unfold parse
  rw [h]
  cases statementLines source with
  | nil =>
    unfold renumberedResult Except.map Except.mapError Diagnostic.renumbered
    dsimp only
    rw [hzero]
    rfl
  | cons first rest =>
    rw [List.map_cons]
    have htext : (first.renumbered number).text = first.text := rfl
    have hplace : (⟨file, (first.renumbered number).number⟩ : Place) =
        Place.renumbered number ⟨file, first.number⟩ := rfl
    dsimp only
    rw [htext, hplace]
    split
    · rw [readLines_renumbered]
      cases readLines file (String.ofList first.text) false rest with
      | error diagnostic => rfl
      | ok statements =>
        dsimp only [renumberedResult, Except.map, Except.mapError, bind, Except.bind]
        rw [ofStatements_renumbered]
        rfl
    · rfl

lemma rearranges_renumbered (document : Document) :
    document.Rearranges (document.renumbered number) := by
  refine ⟨rfl, List.Perm.of_eq ?_, List.Perm.of_eq ?_, List.Perm.of_eq ?_⟩
  all_goals
    unfold renumbered
    rw [List.map_map]
    rfl

end Document

/-! ### Trees -/

namespace FaultTree

variable {document : Document} {tree : FaultTree}

lemma mentions_renumbered (document : Document) :
    mentions (document.renumbered number) = (mentions document).map (Prod.map id number) := by
  unfold mentions Document.renumbered
  rw [List.flatMap_map, List.map_flatMap]
  congr 1
  funext definition
  rw [List.map_map]
  rfl

lemma firstMentions_renumbered (known : List String) (mentions : List (String × Nat)) :
    firstMentions known (mentions.map (Prod.map id number)) =
      (firstMentions known mentions).map (Prod.map id number) := by
  rw [firstMentions_eq, firstOccurrences_map, firstMentions_eq]
  rfl

lemma declaredKeys_renumbered (document : Document) :
    (document.renumbered number).declaredKeys = document.declaredKeys := by
  simp [Document.declaredKeys, Document.declaredNames, Document.renumbered,
    GateDefinition.renumbered, ProbabilityAssignment.renumbered, StateAssignment.renumbered,
    Function.comp_def]

lemma ofBuild_renumbered (document : Document) :
    ofBuild (document.renumbered number) = (ofBuild document).renumbered number := by
  have hundeclared : (document.renumbered number).undeclared =
      document.undeclared.map (Prod.map id number) := by
    unfold Document.undeclared
    rw [declaredKeys_renumbered, mentions_renumbered, firstMentions_renumbered]
  unfold ofBuild
  rw [hundeclared]
  simp [addUndefined, ofDeclarations, renumbered, Document.renumbered, List.zipIdx_map,
    Function.comp_def, GateDefinition.renumbered, ProbabilityAssignment.renumbered,
    StateAssignment.renumbered, GateDefinition.toGate, Gate.renumbered, BasicEvent.renumbered,
    HouseEvent.renumbered, Place.renumbered]

lemma topCandidates_renumbered (tree : FaultTree) :
    (tree.renumbered number).topCandidates = tree.topCandidates := by
  have htargets : (tree.renumbered number).gates.flatMap Gate.gateTargets =
      tree.gates.flatMap Gate.gateTargets := by
    unfold renumbered
    rw [List.flatMap_map]
    rfl
  unfold topCandidates
  rw [htargets]
  simp [renumbered]

lemma resolve_renumbered (document : Document) :
    (ofBuild (document.renumbered number)).resolve = (ofBuild document).resolve.renumbered number := by
  rw [(namesAgree_ofBuild _).resolve_eq, (namesAgree_ofBuild document).resolve_eq, ofBuild_renumbered]
  simp [renumbered, Function.comp_def, Gate.resolved, Gate.renumbered]

lemma ofSound_renumbered (document : Document) :
    ofSound (document.renumbered number) = (ofSound document).renumbered number := by
  unfold ofSound
  rw [resolve_renumbered, topCandidates_renumbered]
  rfl

lemma event?_renumbered_reference (number : Nat → Nat) (tree : FaultTree) (id : EventId) :
    ((tree.renumbered number).event? id).map Event.reference =
      (tree.event? id).map Event.reference := by
  cases id with
  | gate index | basic index | house index =>
    simp only [event?, renumbered, List.getElem?_map, Option.map_map]
    rfl

lemma argumentElement_renumbered (number : Nat → Nat) (tree : FaultTree) (argument : Argument) :
    (tree.renumbered number).argumentElement argument = tree.argumentElement argument := by
  have hreference : (tree.renumbered number).argumentReference argument =
      tree.argumentReference argument := by
    unfold argumentReference
    cases argument.target with
    | none => rfl
    | some id =>
      have hevent := event?_renumbered_reference number tree id
      dsimp only [Option.bind_some]
      cases hfound : tree.event? id with
      | none =>
        rw [hfound, Option.map_none, Option.map_eq_none_iff] at hevent
        rw [hevent]
      | some event =>
        rw [hfound, Option.map_some, Option.map_eq_some_iff] at hevent
        obtain ⟨moved, hmoved, hsame⟩ := hevent
        rw [hmoved]
        exact hsame
  unfold argumentElement
  rw [hreference]

theorem exchangeText_renumbered (tree : FaultTree) :
    (tree.renumbered number).exchangeText = tree.exchangeText := by
  have hgate : ∀ gate : Gate,
      (tree.renumbered number).gateElement (gate.renumbered number) = tree.gateElement gate := by
    intro gate
    unfold gateElement formulaElements
    simp only [funext (argumentElement_renumbered number tree)]
    rfl
  have htree : (tree.renumbered number).treeElement = tree.treeElement := by
    unfold treeElement
    congr 1
    unfold renumbered
    rw [List.map_map]
    exact List.map_congr_left fun gate _ => hgate gate
  have hevents : (tree.renumbered number).eventElements = tree.eventElements := by
    unfold eventElements declaredEvents undefinedEvents renumbered
    rw [List.filter_map, List.filter_map, ← List.map_append, List.map_map, List.map_map]
    rfl
  unfold exchangeText toXml
  rw [htree, hevents]

end FaultTree

/-! ### Translations -/

theorem translate_renumbered {source other : String} (hzero : number 0 = 0)
    (h : statementLines other = (statementLines source).map (Line.renumbered number))
    (file : String) (multiTop : Bool) :
    ((∃ tree, translate source file multiTop = .ok tree) ↔
      ∃ tree, translate other file multiTop = .ok tree) ∧
    ∀ tree, translate source file multiTop = .ok tree →
      translate other file multiTop = .ok (tree.renumbered number) := by
  have hparse := Document.parse_renumbered hzero h file
  have hforward : ∀ tree, translate source file multiTop = .ok tree →
      translate other file multiTop = .ok (tree.renumbered number) := by
    intro tree htree
    obtain ⟨document, hdocument, htree⟩ := translate_eq_ok htree
    obtain ⟨hsound, rfl⟩ := FaultTree.ofDocument_eq_ok_iff.mp htree
    rw [hdocument] at hparse
    rw [← FaultTree.ofSound_renumbered]
    exact translate_of_sound hparse (document.rearranges_renumbered.sound
      (Document.refersByWords_of_parse hdocument) hsound)
  refine ⟨⟨fun ⟨tree, htree⟩ => ⟨_, hforward tree htree⟩, ?_⟩, hforward⟩
  rintro ⟨tree, htree⟩
  obtain ⟨moved, hmoved, htree⟩ := translate_eq_ok htree
  obtain ⟨hsound, -⟩ := FaultTree.ofDocument_eq_ok_iff.mp htree
  cases hsource : Document.parse source file with
  | error diagnostic =>
    rw [hmoved, hsource] at hparse
    cases hparse
  | ok document =>
    rw [hmoved, hsource] at hparse
    cases hparse
    exact ⟨_, translate_of_sound hsource (document.rearranges_renumbered.symm.sound
      (Document.refersByWords_of_parse hmoved) hsound)⟩

end FaultTreeExchange
