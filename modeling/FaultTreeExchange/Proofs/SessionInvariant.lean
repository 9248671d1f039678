import FaultTreeExchange.Proofs.Acceptance
import FaultTreeExchange.Proofs.Consistency
import FaultTreeExchange.Session

/-!
# What sessions preserve

Whatever the commands of a session are and wherever they fail, the tree of the session is well
formed: its positions exist, its table has the keys that occur in it, its targets have all been set
or none has, and its top gates are those of its targets. It is the tree of the last build up to
targets, top gates and the probabilities of undefined events.
-/

namespace FaultTreeExchange

namespace FaultTree

/-- The invariant of the representation of trees. -/
structure WellFormed (tree : FaultTree) : Prop where
  names_inside : ∀ entry ∈ tree.names, tree.Contains entry.2
  targets_inside : ∀ gate ∈ tree.gates, ∀ argument ∈ gate.arguments, ∀ id,
    argument.target = some id → tree.Contains id
  roots_inside : ∀ root ∈ tree.roots, root < tree.gates.length
  key_iff : ∀ key, key ∈ tree.names.map Prod.fst ↔
    (∃ gate ∈ tree.gates, Name.key gate.name = key) ∨
    (∃ event ∈ tree.basicEvents, Name.key event.name = key) ∨
    (∃ event ∈ tree.houseEvents, Name.key event.name = key) ∨
    ∃ gate ∈ tree.gates, ∃ argument ∈ gate.arguments, Name.key argument.name = key
  targets_none_or_all :
    (∀ gate ∈ tree.gates, ∀ argument ∈ gate.arguments, argument.target = none) ∨
    ∀ gate ∈ tree.gates, ∀ argument ∈ gate.arguments, ∃ id,
      argument.target = some id ∧ tree.names.find? argument.name = some id
  roots_none_or_top : tree.roots = [] ∨
    tree.roots.Pairwise (· < ·) ∧ ∀ index, index ∈ tree.roots ↔
      index < tree.gates.length ∧ ∀ gate ∈ tree.gates, ∀ argument ∈ gate.arguments,
        argument.target ≠ some (.gate index)

/-- No view of the tree loses anything for a position that does not exist. -/
structure ViewsInBounds (tree : FaultTree) : Prop where
  lookup : ∀ name, (tree.lookup name).isSome = (tree.names.find? name).isSome
  rootGates : tree.rootGates.length = tree.roots.length
  root : tree.root?.isSome ↔ tree.roots.length = 1
  complementedEvents : ∀ gate ∈ tree.gates, (tree.complementedEvents gate).length =
    (gate.arguments.filter fun argument => argument.complement && argument.target.isSome).length
  argumentReference : ∀ gate ∈ tree.gates, ∀ argument ∈ gate.arguments, ∀ id,
    argument.target = some id →
      ∃ event, tree.event? id = some event ∧ tree.argumentReference argument = event.reference

variable {tree : FaultTree}

lemma exists_event_iff {key : String} :
    (∃ id event, tree.event? id = some event ∧ Name.key event.name = key) ↔
      (∃ gate ∈ tree.gates, Name.key gate.name = key) ∨
      (∃ event ∈ tree.basicEvents, Name.key event.name = key) ∨
      ∃ event ∈ tree.houseEvents, Name.key event.name = key := by
  rw [exists_comm]
  simp only [exists_and_right, exists_event?_iff]
  constructor
  · rintro ⟨event, hholds, hkey⟩
    cases event with
    | gate entity => exact Or.inl ⟨entity, hholds, hkey⟩
    | basic entity => exact Or.inr (Or.inl ⟨entity, hholds, hkey⟩)
    | house entity => exact Or.inr (Or.inr ⟨entity, hholds, hkey⟩)
  · rintro (⟨gate, hgate, hkey⟩ | ⟨basic, hbasic, hkey⟩ | ⟨house, hhouse, hkey⟩)
    · exact ⟨.gate gate, hgate, hkey⟩
    · exact ⟨.basic basic, hbasic, hkey⟩
    · exact ⟨.house house, hhouse, hkey⟩

lemma NamesAgree.key_iff (h : tree.NamesAgree) (key : String) :
    key ∈ tree.names.map Prod.fst ↔
      (∃ gate ∈ tree.gates, Name.key gate.name = key) ∨
      (∃ event ∈ tree.basicEvents, Name.key event.name = key) ∨
      (∃ event ∈ tree.houseEvents, Name.key event.name = key) ∨
      ∃ gate ∈ tree.gates, ∃ argument ∈ gate.arguments, Name.key argument.name = key := by
  have hentry : key ∈ tree.names.map Prod.fst ↔
      ∃ id event, tree.event? id = some event ∧ Name.key event.name = key := by
    simp only [← h.entry_iff]
    simp
  constructor
  · intro hkey
    rcases exists_event_iff.mp (hentry.mp hkey) with hgate | hbasic | hhouse
    · exact Or.inl hgate
    · exact Or.inr (Or.inl hbasic)
    · exact Or.inr (Or.inr (Or.inl hhouse))
  · rintro (hgate | hbasic | hhouse | ⟨gate, hgate, argument, hargument, rfl⟩)
    · exact hentry.mpr (exists_event_iff.mpr (Or.inl hgate))
    · exact hentry.mpr (exists_event_iff.mpr (Or.inr (Or.inl hbasic)))
    · exact hentry.mpr (exists_event_iff.mpr (Or.inr (Or.inr hhouse)))
    · exact NameTable.exists_find?_eq_some_iff.mp (h.argument_known gate hgate argument hargument)

lemma target_of_asBuilt (h : tree.gates.map Gate.asBuilt = tree.gates) {gate : Gate}
    (hgate : gate ∈ tree.gates) {argument : Argument} (hargument : argument ∈ gate.arguments) :
    argument.target = none := by
  rw [← h] at hgate
  obtain ⟨source, -, rfl⟩ := List.mem_map.mp hgate
  obtain ⟨original, -, rfl⟩ := List.mem_map.mp hargument
  rfl

lemma Resolved.target_eq (h : tree.Resolved) {gate : Gate} (hgate : gate ∈ tree.gates)
    {argument : Argument} (hargument : argument ∈ gate.arguments) :
    argument.target = tree.names.find? argument.name := by
  rw [← h] at hgate
  obtain ⟨source, -, rfl⟩ := List.mem_map.mp hgate
  obtain ⟨original, -, rfl⟩ := List.mem_map.mp hargument
  rfl

lemma Consistent.contains_target (h : tree.Consistent) {gate : Gate} (hgate : gate ∈ tree.gates)
    {argument : Argument} (hargument : argument ∈ gate.arguments) {id : EventId}
    (htarget : argument.target = some id) : tree.Contains id := by
  rcases h.targets with hnone | hresolved
  · rw [target_of_asBuilt hnone hgate hargument] at htarget
    cases htarget
  · rw [hresolved.target_eq hgate hargument] at htarget
    exact h.agree.contains htarget

theorem Consistent.wellFormed (h : tree.Consistent) : tree.WellFormed where
  names_inside := by
    intro entry hentry
    obtain ⟨event, hevent, -⟩ := (h.agree.entry_iff entry.1 entry.2).mp hentry
    rw [← event?_isSome_iff, hevent]
    rfl
  targets_inside gate hgate argument hargument id := h.contains_target hgate hargument
  roots_inside := by
    intro root hroot
    rcases h.roots with hnone | ⟨-, htop⟩
    · rw [hnone] at hroot
      cases hroot
    · rw [htop] at hroot
      exact (mem_topCandidates_iff.mp hroot).1
  key_iff := h.agree.key_iff
  targets_none_or_all := by
    rcases h.targets with hnone | hresolved
    · exact Or.inl fun gate hgate argument => target_of_asBuilt hnone hgate
    · refine Or.inr fun gate hgate argument hargument => ?_
      obtain ⟨id, hid⟩ := h.agree.argument_known gate hgate argument hargument
      exact ⟨id, (hresolved.target_eq hgate hargument).trans hid, hid⟩
  roots_none_or_top := by
    refine h.roots.imp id fun ⟨_, htop⟩ => ⟨htop ▸ pairwise_topCandidates tree, fun index => ?_⟩
    rw [htop, mem_topCandidates_iff]
    simp only [mem_gateTargets_iff, not_exists, not_and, ne_eq]

theorem WellFormed.viewsInBounds (h : tree.WellFormed) : tree.ViewsInBounds where
  lookup := by
    intro name
    unfold FaultTree.lookup
    cases hfind : tree.names.find? name with
    | none => rfl
    | some id => exact event?_isSome_iff.mpr (h.names_inside _ (NameTable.mem_of_find?_eq_some hfind))
  rootGates := by
    refine List.filterMap_length_eq_length.mpr fun root hroot => ?_
    rw [List.getElem?_eq_getElem (h.roots_inside root hroot)]
    rfl
  root := by
    have hinside := h.roots_inside
    unfold root?
    split
    · rename_i index hroots
      have hlt : index < tree.gates.length := hinside index (by rw [hroots]; exact List.mem_cons_self)
      rw [hroots, List.getElem?_eq_getElem hlt]
      simp
    · rename_i hroots
      simp only [Option.isSome_none, Bool.false_eq_true, false_iff]
      intro hlength
      obtain ⟨index, hindex⟩ := List.length_eq_one_iff.mp hlength
      exact hroots index hindex
  complementedEvents := by
    intro gate hgate
    unfold FaultTree.complementedEvents
    rw [List.length_filterMap_eq_countP, List.countP_filter, List.countP_eq_length_filter]
    congr 1
    refine List.filter_congr fun argument hargument => ?_
    rw [Bool.and_comm]
    congr 1
    cases htarget : argument.target with
    | none => rfl
    | some id =>
      exact event?_isSome_iff.mpr (h.targets_inside gate hgate argument hargument id htarget)
  argumentReference := by
    intro gate hgate argument hargument id htarget
    have hinside := event?_isSome_iff.mpr (h.targets_inside gate hgate argument hargument id htarget)
    obtain ⟨event, hevent⟩ := Option.isSome_iff_exists.mp hinside
    refine ⟨event, hevent, ?_⟩
    unfold FaultTree.argumentReference
    rw [htarget, Option.bind_some, hevent]

end FaultTree

namespace Session

/-! ### Runs -/

/-- The result of the last build after a command; `last` is the one before it. A translation builds
the document of its source. -/
def buildAfter (session : Session) (last : Option FaultTree) : Command → Option FaultTree
  | .build =>
    match session.document with
    | none => last
    | some document =>
      match FaultTree.build document with
      | .ok built => some built
      | .error _ => last
  | .translate source file multiTop =>
    match FaultTreeExchange.translate source file multiTop with
    | .ok _ => ((Document.parse source file).bind FaultTree.build).toOption
    | .error _ => last
  | _ => last

/-- The result of the last build that commands in a row leave in a session. -/
def lastBuild (session : Session) (last : Option FaultTree) : List Command → Option FaultTree
  | [] => last
  | command :: rest =>
    lastBuild (session.step command).2 (session.buildAfter last command) rest

/-- The tree of the session is consistent and comes from the last build. -/
def TreeFrom (session : Session) (last : Option FaultTree) : Prop :=
  ∀ tree, session.tree = some tree → tree.Consistent ∧
    ∃ document, last = some tree.asBuilt ∧ FaultTree.build document = .ok tree.asBuilt

variable {session : Session} {last : Option FaultTree}

lemma treeFrom_ofBuild {document : Document} {built : FaultTree}
    (hbuild : FaultTree.build document = .ok built) (hsession : session.tree = some built)
    (hlast : last = some built) : session.TreeFrom last := by
  intro tree htree
  rw [hsession, Option.some.injEq] at htree
  subst htree
  obtain ⟨-, hbuilt⟩ := FaultTree.build_eq_ok_iff.mp hbuild
  have hasBuilt : built.asBuilt = built := hbuilt ▸ FaultTree.asBuilt_ofBuild document
  rw [hasBuilt]
  exact ⟨hbuilt ▸ FaultTree.consistent_ofBuild document, document, hlast, hbuild⟩

lemma TreeFrom.update {session' : Session} {tree tree' : FaultTree} (h : session.TreeFrom last)
    (htree : session.tree = some tree) (htree' : session'.tree = some tree')
    (hchange : tree.Consistent → tree'.Consistent ∧ tree'.asBuilt = tree.asBuilt) :
    session'.TreeFrom last := by
  intro other hother
  rw [htree', Option.some.injEq] at hother
  subst hother
  obtain ⟨hconsistent, document, hlast, hbuild⟩ := h tree htree
  obtain ⟨hconsistent', hbuilt⟩ := hchange hconsistent
  exact ⟨hconsistent', document, hbuilt ▸ hlast, hbuilt ▸ hbuild⟩

lemma treeFrom_translate {source file : String} {multiTop : Bool} {tree : FaultTree}
    (h : translate source file multiTop = .ok tree) (hsession : session.tree = some tree)
    (hlast : last = ((Document.parse source file).bind FaultTree.build).toOption) :
    session.TreeFrom last := by
  obtain ⟨document, hparse, htree⟩ := translate_eq_ok h
  obtain ⟨hsound, rfl⟩ := FaultTree.ofDocument_eq_ok_iff.mp htree
  have hbuild : FaultTree.build document = .ok (FaultTree.ofBuild document) :=
    FaultTree.build_eq_ok_iff.mpr ⟨hsound.distinctArguments, rfl⟩
  have hlast' : last = some (FaultTree.ofBuild document) := by
    rw [hlast, hparse]
    change (FaultTree.build document).toOption = _
    rw [hbuild]
    rfl
  have hfrom : TreeFrom ⟨none, some (FaultTree.ofBuild document)⟩ last :=
    treeFrom_ofBuild hbuild rfl hlast'
  exact hfrom.update rfl hsession fun hconsistent =>
    ⟨hconsistent.resolve_roots, hconsistent.asBuilt_resolve⟩

lemma TreeFrom.congr {session' : Session} (h : session.TreeFrom last)
    (htree : session'.tree = session.tree) : session'.TreeFrom last := by
  intro tree hsome
  exact h tree (htree ▸ hsome)

lemma tree_keepDocument (session : Session) (result : Except Diagnostic Document) :
    (session.keepDocument result).tree = session.tree := by
  cases result with
  | ok document => rfl
  | error diagnostic => rfl

lemma onTree_of_view {view : FaultTree → Answer × Session} (h : ∀ tree, (view tree).2 = session) :
    (session.onTree view).2 = session := by
  unfold onTree
  cases session.tree with
  | none => rfl
  | some tree => exact h tree

lemma TreeFrom.onTree {change : FaultTree → FaultTree} {answer : FaultTree → Answer}
    (h : session.TreeFrom last)
    (hchange : ∀ tree, tree.Consistent →
      (change tree).Consistent ∧ (change tree).asBuilt = tree.asBuilt) :
    (session.onTree fun tree =>
      (answer tree, { session with tree := some (change tree) })).2.TreeFrom last := by
  unfold Session.onTree
  cases htree : session.tree with
  | none => exact h
  | some tree => exact h.update htree rfl (hchange tree)

theorem TreeFrom.step (h : session.TreeFrom last) (command : Command) :
    (session.step command).2.TreeFrom (session.buildAfter last command) := by
  cases command with
  | parse source file => exact h.congr (tree_keepDocument session _)
  | adopt document => exact h.congr (tree_keepDocument session _)
  | build =>
    simp only [Session.step, buildAfter]
    cases session.document with
    | none => exact h
    | some document =>
      dsimp only
      cases hbuild : FaultTree.build document with
      | ok built => exact treeFrom_ofBuild hbuild rfl rfl
      | error diagnostic => exact h
  | translate source file multiTop =>
    simp only [Session.step, buildAfter]
    cases htranslate : FaultTreeExchange.translate source file multiTop with
    | ok tree => exact treeFrom_translate htranslate rfl rfl
    | error diagnostic => exact h
  | validate multiTop => exact h.onTree fun tree hconsistent => hconsistent.validate multiTop
  | setUndefined probability =>
    exact h.onTree fun tree hconsistent =>
      ⟨hconsistent.setUndefinedProbability probability,
        FaultTree.asBuilt_setUndefinedProbability probability⟩
  | lookup name => exact h.congr (congrArg Session.tree (onTree_of_view fun _ => rfl))
  | complements index =>
    refine h.congr (congrArg Session.tree (onTree_of_view fun tree => ?_))
    cases tree.gates[index]? with
    | none => rfl
    | some gate => rfl
  | inspect => exact h.congr (congrArg Session.tree (onTree_of_view fun _ => rfl))
  | summary => exact h.congr (congrArg Session.tree (onTree_of_view fun _ => rfl))
  | exchange => exact h.congr (congrArg Session.tree (onTree_of_view fun _ => rfl))

theorem TreeFrom.run (h : session.TreeFrom last) (commands : List Command) :
    (session.run commands).2.TreeFrom (session.lastBuild last commands) := by
  induction commands generalizing session last with
  | nil => exact h
  | cons command rest ih => exact ih (h.step command)

/-- The tree of a session is well formed after any commands, all of its views stay within bounds, and
it is the tree of the last build up to targets, top gates and the probabilities of undefined events. -/
theorem run_wellFormed (commands : List Command) (tree : FaultTree)
    (h : (Session.empty.run commands).2.tree = some tree) :
    tree.WellFormed ∧ tree.ViewsInBounds ∧
      Session.empty.lastBuild none commands = some tree.asBuilt ∧
      ∃ document, FaultTree.build document = .ok tree.asBuilt := by
  have hempty : Session.empty.TreeFrom none := by
    intro tree htree
    cases htree
  obtain ⟨hconsistent, document, hlast, hbuild⟩ := hempty.run commands tree h
  exact ⟨hconsistent.wellFormed, hconsistent.wellFormed.viewsInBounds, hlast, document, hbuild⟩

/-- A session that translates the sample and then gives its undefined event the probability one
half. -/
theorem run_sample_wellFormed :
    ∃ tree, (Session.empty.run [.translate sampleSource "plant.ft" false,
        .setUndefined (Binary64.ofRank false 0x3FE0000000000000)]).2.tree = some tree ∧
      tree.WellFormed ∧ tree.ViewsInBounds ∧
      Session.empty.lastBuild none [.translate sampleSource "plant.ft" false,
        .setUndefined (Binary64.ofRank false 0x3FE0000000000000)] = some tree.asBuilt ∧
      ∃ document, FaultTree.build document = .ok tree.asBuilt := by
  have hrun : (Session.empty.run [.translate sampleSource "plant.ft" false,
      .setUndefined (Binary64.ofRank false 0x3FE0000000000000)]).2.tree =
      some ((FaultTree.ofSound sampleDocument).setUndefinedProbability
        (Binary64.ofRank false 0x3FE0000000000000)) := by
    simp only [Session.run, Session.step, translate_sampleSource]
    rfl
  exact ⟨_, hrun, run_wellFormed _ _ hrun⟩

end Session
end FaultTreeExchange
