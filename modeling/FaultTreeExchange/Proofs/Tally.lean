import FaultTreeExchange.Proofs.Conformance
import FaultTreeExchange.Proofs.JsonReading
import FaultTreeExchange.Proofs.Rearrangement
import FaultTreeExchange.Proofs.Runs

/-!
# Summaries and exchange texts

The summary of a tree counts what its exchange text defines, and the top gates that it lists are those
to which no element of the text refers. So the check of a file and the text that is printed for it tell
the same, and both fail alike.
-/

namespace FaultTreeExchange

/-! ### Elements by their tags -/

namespace Xml

mutual

/-- The element and those within it, in the order of their start tags. -/
def elements : Xml → List Xml
  | .leaf tag attributes => [.leaf tag attributes]
  | .node tag attributes children => .node tag attributes children :: childElements children

/-- The elements that follow each other, with those within them. -/
def childElements : List Xml → List Xml
  | [] => []
  | child :: rest => elements child ++ childElements rest

end

/-- The elements with a given tag, wherever they stand. -/
def tagged (tag : String) (root : Xml) : List Xml :=
  root.elements.filter fun element => element.tag = tag

/-- The names that the elements with a given tag have. -/
def names (tag : String) (root : Xml) : List String :=
  (root.tagged tag).filterMap fun element => element.attribute? "name"

lemma childElements_eq (children : List Xml) : childElements children = children.flatMap elements := by
  induction children with
  | nil => rfl
  | cons child rest ih => rw [childElements, ih, List.flatMap_cons]

variable {tag other : String} {attributes : List (String × String)} {children : List Xml}

lemma tagged_leaf_self : (leaf tag attributes).tagged tag = [leaf tag attributes] := by
  simp [tagged, elements, Xml.tag]

lemma tagged_leaf_of_ne (h : other ≠ tag) : (leaf other attributes).tagged tag = [] := by
  simp [tagged, elements, Xml.tag, h]

lemma tagged_node_self : (node tag attributes children).tagged tag =
    node tag attributes children :: children.flatMap (tagged tag) := by
  unfold tagged
  rw [elements, childElements_eq, List.filter_cons_of_pos (by simp [Xml.tag]), List.filter_flatMap]

lemma tagged_node_of_ne (h : other ≠ tag) :
    (node other attributes children).tagged tag = children.flatMap (tagged tag) := by
  unfold tagged
  rw [elements, childElements_eq, List.filter_cons_of_neg (by simp [Xml.tag, h]),
    List.filter_flatMap]

end Xml

namespace FaultTree

variable {document : Document} {tree : FaultTree} {multiTop : Bool} {tag : String}

/-! ### Elements of exchange texts -/

def NamesNoOperator (tag : String) : Prop :=
  ∀ operator : Operator, operator.tag? ≠ some tag

lemma namesNoOperator_of_notMem (h : tag ∉ ["not", "and", "or", "xor", "atleast"]) :
    NamesNoOperator tag := by
  intro operator hoperator
  cases operator <;> cases hoperator <;> simp at h

lemma tagged_writtenElement (h : NamesNoOperator tag) (reference : Reference) :
    (writtenElement document reference).tagged tag =
      (referenceElement document reference).tagged tag := by
  have hnot : "not" ≠ tag := fun heq => h .not (congrArg some heq)
  unfold writtenElement
  split
  · rw [Xml.tagged_node_of_ne hnot, List.flatMap_singleton]
  · rfl

lemma flatMap_tagged_writtenFormula (h : NamesNoOperator tag) (formula : Formula) :
    (writtenFormula document formula).flatMap (Xml.tagged tag) =
      formula.arguments.flatMap fun reference => (referenceElement document reference).tagged tag := by
  have harguments : (formula.arguments.map (writtenElement document)).flatMap (Xml.tagged tag) =
      formula.arguments.flatMap fun reference =>
        (referenceElement document reference).tagged tag := by
    rw [List.flatMap_map]
    simp only [tagged_writtenElement h]
  unfold writtenFormula
  split
  · rename_i operatorTag hoperator
    have hne : operatorTag ≠ tag := fun heq => h formula.operator (heq ▸ hoperator)
    rw [List.flatMap_singleton, Xml.tagged_node_of_ne hne, harguments]
  · exact harguments

lemma tagged_referenceElement_of_ne (hgate : "gate" ≠ tag) (hbasic : "basic-event" ≠ tag)
    (hhouse : "house-event" ≠ tag) (hevent : "event" ≠ tag) (reference : Reference) :
    (referenceElement document reference).tagged tag = [] := by
  unfold referenceElement argumentReference
  split
  · rename_i event _
    cases event with
    | gate entity => exact Xml.tagged_leaf_of_ne hgate
    | basic entity => exact Xml.tagged_leaf_of_ne hbasic
    | house entity => exact Xml.tagged_leaf_of_ne hhouse
  · exact Xml.tagged_leaf_of_ne hevent

lemma tagged_basicDefinition_of_ne (hdefinition : "define-basic-event" ≠ tag) (hfloat : "float" ≠ tag)
    (event : BasicEvent) : event.definition.tagged tag = [] := by
  unfold BasicEvent.definition
  split
  · rw [Xml.tagged_node_of_ne hdefinition, List.flatMap_singleton, Xml.tagged_leaf_of_ne hfloat]
  · exact Xml.tagged_leaf_of_ne hdefinition

lemma tagged_basicDefinition (event : BasicEvent) :
    event.definition.tagged "define-basic-event" = [event.definition] := by
  unfold BasicEvent.definition
  split
  · rw [Xml.tagged_node_self, List.flatMap_singleton, Xml.tagged_leaf_of_ne (by decide)]
  · exact Xml.tagged_leaf_self

lemma tagged_houseDefinition_of_ne (hdefinition : "define-house-event" ≠ tag)
    (hconstant : "constant" ≠ tag) (event : HouseEvent) : event.definition.tagged tag = [] := by
  unfold HouseEvent.definition
  rw [Xml.tagged_node_of_ne hdefinition, List.flatMap_singleton, Xml.tagged_leaf_of_ne hconstant]

lemma tagged_houseDefinition (event : HouseEvent) :
    event.definition.tagged "define-house-event" = [event.definition] := by
  unfold HouseEvent.definition
  rw [Xml.tagged_node_self, List.flatMap_singleton, Xml.tagged_leaf_of_ne (by decide)]

/-- The tree writes its gates as the tree of the document does, and it has as many events. -/
structure Renders (tree : FaultTree) (document : Document) : Prop where
  gates_eq : tree.gates.map tree.gateElement = document.gates.map (writtenGate document)
  basicEvents_length : tree.basicEvents.length = (ofSound document).basicEvents.length
  houseEvents_eq : tree.houseEvents = (ofSound document).houseEvents

lemma renders_ofSound (document : Document) : (ofSound document).Renders document where
  gates_eq := by
    rw [gates_ofSound, List.map_map]
    exact List.map_congr_left fun definition _ => gateElement_resolvedGate document definition
  basicEvents_length := rfl
  houseEvents_eq := rfl

namespace Renders

lemma setUndefinedProbability (h : tree.Renders document) (probability : Binary64) :
    (tree.setUndefinedProbability probability).Renders document where
  gates_eq := by
    rw [gateElement_setUndefinedProbability]
    exact h.gates_eq
  basicEvents_length := by
    rw [basicEvents_setUndefinedProbability, List.length_map]
    exact h.basicEvents_length
  houseEvents_eq := h.houseEvents_eq

/-- Below the parts of the root element stand the gates and the definitions of the events. -/
lemma tagged_toXml (h : tree.Renders document) (hroot : "opsa-mef" ≠ tag)
    (htree : "define-fault-tree" ≠ tag) (hdata : "model-data" ≠ tag) :
    tree.toXml.tagged tag =
      document.gates.flatMap (fun definition => (writtenGate document definition).tagged tag) ++
        (tree.declaredEvents ++ tree.undefinedEvents).flatMap
          (fun event => event.definition.tagged tag) ++
        tree.houseEvents.flatMap fun event => event.definition.tagged tag := by
  have hgates : tree.treeElement.tagged tag =
      document.gates.flatMap fun definition => (writtenGate document definition).tagged tag := by
    unfold treeElement
    rw [Xml.tagged_node_of_ne htree, h.gates_eq, List.flatMap_map]
  have hevents : tree.eventElements.flatMap (Xml.tagged tag) =
      (tree.declaredEvents ++ tree.undefinedEvents).flatMap
          (fun event => event.definition.tagged tag) ++
        tree.houseEvents.flatMap fun event => event.definition.tagged tag := by
    unfold eventElements
    rw [List.flatMap_append, List.flatMap_map, List.flatMap_map]
  unfold toXml
  rw [Xml.tagged_node_of_ne hroot, List.flatMap_cons, hgates, List.append_assoc, ← hevents]
  cases tree.eventElements with
  | nil => rfl
  | cons first rest =>
    rw [List.isEmpty_cons, if_neg Bool.false_ne_true, List.flatMap_singleton,
      Xml.tagged_node_of_ne hdata]

lemma tagged_gates (h : tree.Renders document) :
    tree.toXml.tagged "define-gate" = document.gates.map (writtenGate document) := by
  have hgate : ∀ definition : GateDefinition,
      (writtenGate document definition).tagged "define-gate" = [writtenGate document definition] := by
    intro definition
    have harguments : (writtenFormula document definition.formula).flatMap
        (Xml.tagged "define-gate") = [] := by
      rw [flatMap_tagged_writtenFormula (namesNoOperator_of_notMem (by decide))]
      exact List.flatMap_eq_nil_iff.mpr fun reference _ =>
        tagged_referenceElement_of_ne (by decide) (by decide) (by decide) (by decide) reference
    unfold writtenGate
    rw [Xml.tagged_node_self, harguments]
  have hbasic : ∀ event : BasicEvent, event.definition.tagged "define-gate" = [] :=
    tagged_basicDefinition_of_ne (by decide) (by decide)
  have hhouse : ∀ event : HouseEvent, event.definition.tagged "define-gate" = [] :=
    tagged_houseDefinition_of_ne (by decide) (by decide)
  rw [h.tagged_toXml (by decide) (by decide) (by decide), List.map_eq_flatMap,
    List.flatMap_eq_nil_iff.mpr fun event _ => hbasic event,
    List.flatMap_eq_nil_iff.mpr fun event _ => hhouse event]
  simp only [hgate, List.append_nil]

lemma flatMap_tagged_writtenGate_of_ne (hoperator : NamesNoOperator tag)
    (hdefinition : "define-gate" ≠ tag) :
    document.gates.flatMap (fun definition => (writtenGate document definition).tagged tag) =
      document.references.flatMap fun reference => (referenceElement document reference).tagged tag := by
  unfold Document.references writtenGate
  rw [List.flatMap_assoc]
  simp only [Xml.tagged_node_of_ne hdefinition, flatMap_tagged_writtenFormula hoperator]

lemma tagged_references (h : tree.Renders document) :
    tree.toXml.tagged "gate" = document.references.flatMap fun reference =>
      (referenceElement document reference).tagged "gate" := by
  have hbasic : ∀ event : BasicEvent, event.definition.tagged "gate" = [] :=
    tagged_basicDefinition_of_ne (by decide) (by decide)
  have hhouse : ∀ event : HouseEvent, event.definition.tagged "gate" = [] :=
    tagged_houseDefinition_of_ne (by decide) (by decide)
  rw [h.tagged_toXml (by decide) (by decide) (by decide),
    flatMap_tagged_writtenGate_of_ne (namesNoOperator_of_notMem (by decide)) (by decide),
    List.flatMap_eq_nil_iff.mpr fun event _ => hbasic event,
    List.flatMap_eq_nil_iff.mpr fun event _ => hhouse event, List.append_nil, List.append_nil]

lemma flatMap_tagged_writtenGate_eq_nil (hoperator : NamesNoOperator tag)
    (hdefinition : "define-gate" ≠ tag) (hgate : "gate" ≠ tag) (hbasic : "basic-event" ≠ tag)
    (hhouse : "house-event" ≠ tag) (hevent : "event" ≠ tag) :
    document.gates.flatMap (fun definition => (writtenGate document definition).tagged tag) = [] := by
  rw [flatMap_tagged_writtenGate_of_ne hoperator hdefinition]
  exact List.flatMap_eq_nil_iff.mpr fun reference _ =>
    tagged_referenceElement_of_ne hgate hbasic hhouse hevent reference

lemma tagged_basicEvents (h : tree.Renders document) :
    tree.toXml.tagged "define-basic-event" =
      (tree.declaredEvents ++ tree.undefinedEvents).map BasicEvent.definition := by
  have hhouse : ∀ event : HouseEvent, event.definition.tagged "define-basic-event" = [] :=
    tagged_houseDefinition_of_ne (by decide) (by decide)
  rw [h.tagged_toXml (by decide) (by decide) (by decide),
    flatMap_tagged_writtenGate_eq_nil (namesNoOperator_of_notMem (by decide)) (by decide) (by decide)
      (by decide) (by decide) (by decide),
    List.flatMap_eq_nil_iff.mpr fun event _ => hhouse event, List.map_eq_flatMap]
  simp only [tagged_basicDefinition, List.nil_append, List.append_nil]

lemma tagged_houseEvents (h : tree.Renders document) :
    tree.toXml.tagged "define-house-event" = tree.houseEvents.map HouseEvent.definition := by
  have hbasic : ∀ event : BasicEvent, event.definition.tagged "define-house-event" = [] :=
    tagged_basicDefinition_of_ne (by decide) (by decide)
  rw [h.tagged_toXml (by decide) (by decide) (by decide),
    flatMap_tagged_writtenGate_eq_nil (namesNoOperator_of_notMem (by decide)) (by decide) (by decide)
      (by decide) (by decide) (by decide),
    List.flatMap_eq_nil_iff.mpr fun event _ => hbasic event, List.map_eq_flatMap]
  simp only [tagged_houseDefinition, List.nil_append]

end Renders

/-! ### Top gates -/

lemma names_gates (h : tree.Renders document) :
    tree.toXml.names "define-gate" = document.gates.map GateDefinition.name := by
  unfold Xml.names
  rw [h.tagged_gates]
  exact filterMap_names GateDefinition.name (fun _ => rfl) document.gates

lemma mem_names_references_iff (h : tree.Renders document) (hdocument : document.DistinctDeclarations)
    {definition : GateDefinition} (hdefinition : definition ∈ document.gates) :
    definition.name ∈ tree.toXml.names "gate" ↔
      ∃ reference ∈ document.references, Name.key reference.name = Name.key definition.name := by
  unfold Xml.names
  rw [h.tagged_references]
  simp only [List.mem_filterMap, List.mem_flatMap]
  constructor
  · rintro ⟨element, ⟨reference, hreference, helement⟩, hname⟩
    obtain ⟨source, hsource, hargument⟩ := List.mem_flatMap.mp hreference
    refine ⟨reference, hreference, ?_⟩
    have hwritten := writtenAs hdocument hsource hargument
    generalize referenceElement document reference = written at hwritten helement
    cases hwritten with
    | gate target htarget hkey =>
      rw [Xml.tagged_leaf_self, List.mem_singleton] at helement
      subst helement
      rw [← hkey, ← Option.some.inj hname]
    | basic event => simp [Xml.tagged_leaf_of_ne] at helement
    | house state => simp [Xml.tagged_leaf_of_ne] at helement
  · rintro ⟨reference, hreference, hkey⟩
    obtain ⟨source, hsource, hargument⟩ := List.mem_flatMap.mp hreference
    have hwritten := writtenAs hdocument hsource hargument
    refine ⟨.leaf "gate" [("name", definition.name)], ⟨reference, hreference, ?_⟩, rfl⟩
    generalize referenceElement document reference = written at hwritten ⊢
    cases hwritten with
    | gate target htarget hsame =>
      rw [eq_of_nodup_keys hdocument.gates htarget hdefinition (hsame.trans hkey),
        Xml.tagged_leaf_self]
      exact List.mem_singleton_self _
    | basic event hevent hsame hgate => exact absurd hkey.symm (hgate definition hdefinition)
    | house state hstate hsame =>
      exact absurd (hkey.symm.trans hsame.symm) (hdocument.gate_ne_state hdefinition hstate)

lemma map_name_topGates (h : tree.Renders document) (hdocument : document.DistinctDeclarations) :
    document.topGates.map GateDefinition.name =
      (tree.toXml.names "define-gate").filter fun name => name ∉ tree.toXml.names "gate" := by
  rw [names_gates h, List.filter_map]
  unfold Document.topGates
  congr 1
  refine List.filter_congr fun definition hdefinition => ?_
  rw [Bool.eq_iff_iff, Function.comp_apply, decide_eq_true_iff,
    mem_names_references_iff h hdocument hdefinition]
  simp

end FaultTree

/-- The summary counts the definitions of an exchange text, and lists the gates to which no element of
it refers. -/
structure Summary.Tallies (summary : Summary) (root : Xml) : Prop where
  gates : (root.tagged "define-gate").length = summary.gates
  basicEvents : (root.tagged "define-basic-event").length =
    summary.basicEvents + summary.undefinedEvents
  houseEvents : (root.tagged "define-house-event").length = summary.houseEvents
  roots : summary.roots = (root.names "define-gate").filter fun name => name ∉ root.names "gate"

namespace FaultTree

variable {document : Document} {tree : FaultTree}

theorem Renders.tallies (h : tree.Renders document) (hdocument : document.DistinctDeclarations) :
    (ofSound document).summary.Tallies tree.toXml where
  gates := by
    rw [h.tagged_gates, List.length_map]
    unfold summary
    rw [gates_ofSound, List.length_map]
  basicEvents := by
    rw [h.tagged_basicEvents, List.length_map, (basicEvents_perm tree).length_eq,
      h.basicEvents_length, ← (basicEvents_perm (ofSound document)).length_eq, List.length_append]
    rfl
  houseEvents := by
    rw [h.tagged_houseEvents, List.length_map, h.houseEvents_eq]
    rfl
  roots := by
    unfold summary
    rw [rootGates_ofSound hdocument, List.map_map, ← map_name_topGates h hdocument]
    rfl

end FaultTree

/-! ### Checks and printed trees -/

open CommandLine

variable {settings : Settings} {file : Path} {multiTop : Bool} {files : FileTree} {tree : FaultTree}

lemma exists_tallied_text (request : TranslateRequest)
    (h : translateFile file (files.readText file) multiTop = .ok tree) :
    ∃ root, Xml.read (request.exchangeText tree) = some root ∧ tree.summary.Tallies root := by
  obtain ⟨source, -, htranslate⟩ := translateFile_eq_ok_iff.mp h
  obtain ⟨document, -, hdocument⟩ := translate_eq_ok htranslate
  obtain ⟨hsound, rfl⟩ := FaultTree.ofDocument_eq_ok_iff.mp hdocument
  have hrenders := FaultTree.renders_ofSound document
  unfold TranslateRequest.exchangeText
  cases request.defaultProbability with
  | none =>
    exact ⟨_, FaultTree.read_exchangeText _, hrenders.tallies hsound.distinctDeclarations⟩
  | some probability =>
    exact ⟨_, FaultTree.read_exchangeText _,
      (hrenders.setUndefinedProbability probability).tallies hsound.distinctDeclarations⟩

/-- What is shown of a file that has a tree: a line of text, or the only record of an array, as other
programs read it. A quiet run shows nothing. -/
inductive Summary.Shown (summary : Summary) (file : Path) : Settings → String → Prop where
  | quiet (format : OutputFormat) : Shown summary file ⟨format, true⟩ ""
  | text : Shown summary file ⟨.text, false⟩
      (s!"{file.text}: ok: tree '{summary.name}': {summary.gates} gates, " ++
        s!"{summary.basicEvents} basic events, {summary.houseEvents} house events, " ++
        s!"{summary.undefinedEvents} undefined events; top: " ++
        ", ".intercalate summary.roots ++ "\n")
  | json {output : String}
      (h : Json.readAll output = some [.array [.object [("file", .string file.text),
        ("summary", .object [("basic_events", .number summary.basicEvents),
          ("gates", .number summary.gates), ("house_events", .number summary.houseEvents),
          ("name", .string summary.name), ("roots", .array (summary.roots.map .string)),
          ("undefined_events", .number summary.undefinedEvents)])]]]) :
      Shown summary file ⟨.json, false⟩ output

lemma shown_checkOutput (settings : Settings) (file : Path) (summary : Summary) :
    summary.Shown file settings (checkOutput settings [⟨file, .ok summary⟩]) := by
  obtain ⟨format, quiet⟩ := settings
  cases quiet with
  | true => exact .quiet format
  | false =>
    cases format with
    | text =>
      have hline : checkOutput ⟨.text, false⟩ [⟨file, .ok summary⟩] =
          s!"{file.text}: ok: tree '{summary.name}': {summary.gates} gates, " ++
            s!"{summary.basicEvents} basic events, {summary.houseEvents} house events, " ++
            s!"{summary.undefinedEvents} undefined events; top: " ++
            ", ".intercalate summary.roots ++ "\n" := by
        have hroots : toString (", ".intercalate summary.roots) = ", ".intercalate summary.roots :=
          rfl
        simp [checkOutput, CheckResult.line?, asLine, String.join_cons, String.append_assoc, hroots]
      rw [hline]
      exact .text
    | json =>
      have hline : checkOutput ⟨.json, false⟩ [⟨file, .ok summary⟩] =
          String.join [asLine (Json.array
            [.object [("file", .string file.text), ("summary", summary.json)]]).pretty] := by
        simp [checkOutput, CheckResult.record?, String.join_cons]
      rw [hline]
      exact .json (Json.readAll_join (.cons (.inr rfl) .nil))

lemma output_printed (settings : Settings) (text : String) :
    (translateOutcome settings [.printed text]).output = text := by
  have hlist : writtenList settings [.printed text] = "" := by
    unfold writtenList
    cases settings.quiet <;> rfl
  unfold translateOutcome
  rw [hlist]
  simp [TranslateResult.printedText, String.join]

/-- The check of a file and the printing of its tree have the same status and report the same errors.
Where they succeed, the summary that is shown tallies with the text that is printed. -/
theorem check_agrees_with_translate {checkArguments translateArguments : List String}
    {probability : Option Binary64}
    (hcheck : readArguments checkArguments = .ok (.check settings ⟨[file], multiTop⟩))
    (htranslate : readArguments translateArguments =
      .ok (.translate settings ⟨[file], multiTop, .standardOutput, probability⟩))
    (files : FileTree) :
    ∃ checked printed, run FileTree.access checkArguments files = (checked, files) ∧
      run FileTree.access translateArguments files = (printed, files) ∧
      checked.status = printed.status ∧ checked.errors = printed.errors ∧
      (checked.status = 0 → ∃ tree root,
        translateFile file (files.readText file) multiTop = .ok tree ∧
        tree.summary.Shown file settings checked.output ∧
        Xml.read printed.output = some root ∧ tree.summary.Tallies root) := by
  have hmultiTop : (⟨[file], multiTop, .standardOutput, probability⟩ : TranslateRequest).multiTop =
      multiTop := rfl
  refine ⟨_, _, run_check hcheck files, run_print htranslate rfl (by simp) files, ?_⟩
  simp only [List.map_cons, List.map_nil]
  cases hresult : translateFile file (files.readText file) multiTop with
  | error error =>
    have hchecked : checked multiTop files file = ⟨file, .error error⟩ := by
      rw [checked, hresult]
      rfl
    have hprinted : printed ⟨[file], multiTop, .standardOutput, probability⟩ files file =
        .failed error := by
      rw [printed, hmultiTop, hresult]
    rw [hchecked, hprinted]
    refine ⟨rfl, rfl, ?_⟩
    intro hstatus
    cases hstatus
  | ok tree =>
    have hchecked : checked multiTop files file = ⟨file, .ok tree.summary⟩ := by
      rw [checked, hresult]
      rfl
    have hprinted : printed ⟨[file], multiTop, .standardOutput, probability⟩ files file =
        .printed (TranslateRequest.exchangeText ⟨[file], multiTop, .standardOutput, probability⟩
          tree) := by
      rw [printed, hmultiTop, hresult]
    obtain ⟨root, hread, htallies⟩ := exists_tallied_text _ hresult
    rw [hchecked, hprinted]
    refine ⟨rfl, rfl, fun _ => ⟨tree, root, rfl, shown_checkOutput settings file _, ?_, htallies⟩⟩
    rw [output_printed]
    exact hread

def plantFiles : FileTree :=
  (FileTree.empty ["work"]).plantAll [(⟨"plant.ft"⟩, .file (Bytes.ofText sampleSource))]

/-- The sample is checked, and printed with a probability of one half for its undefined event. -/
theorem sample_check_agrees :
    readArguments ["check", "plant.ft"] = .ok (.check ⟨.text, false⟩ ⟨[⟨"plant.ft"⟩], false⟩) ∧
    readArguments ["translate", "--stdout", "--default-probability=0.5", "plant.ft"] =
      .ok (.translate ⟨.text, false⟩
        ⟨[⟨"plant.ft"⟩], false, .standardOutput, Binary64.ofText? "0.5"⟩) ∧
    ∃ checked printed, run FileTree.access ["check", "plant.ft"] plantFiles = (checked, plantFiles) ∧
      run FileTree.access ["translate", "--stdout", "--default-probability=0.5", "plant.ft"]
        plantFiles = (printed, plantFiles) ∧
      checked.status = 0 ∧ printed.status = 0 ∧ checked.errors = printed.errors ∧
      checked.output = "plant.ft: ok: tree 'Plant': 2 gates, 1 basic events, 1 house events, " ++
        "1 undefined events; top: Top\n" ∧
      ∃ root, Xml.read printed.output = some root ∧
        Summary.Tallies ⟨"Plant", 2, 1, 1, 1, ["Top"]⟩ root := by
  have hcheck : readArguments ["check", "plant.ft"] =
      .ok (.check ⟨.text, false⟩ ⟨[⟨"plant.ft"⟩], false⟩) := by decide +kernel
  have htranslate :
      readArguments ["translate", "--stdout", "--default-probability=0.5", "plant.ft"] =
        .ok (.translate ⟨.text, false⟩
          ⟨[⟨"plant.ft"⟩], false, .standardOutput, Binary64.ofText? "0.5"⟩) := by decide +kernel
  have hread : plantFiles.readText ⟨"plant.ft"⟩ = .ok sampleSource := by decide +kernel
  have hfile : translateFile ⟨"plant.ft"⟩ (plantFiles.readText ⟨"plant.ft"⟩) false =
      .ok (FaultTree.ofSound sampleDocument) := by
    rw [hread, translateFile, translate_sampleSource]
  have hsummary : (FaultTree.ofSound sampleDocument).summary = ⟨"Plant", 2, 1, 1, 1, ["Top"]⟩ := by
    decide +kernel
  have hsucceeds : (run FileTree.access ["check", "plant.ft"] plantFiles).1.status = 0 := by
    rw [run_check hcheck]
    simp only [List.map_cons, List.map_nil, checked, hfile]
    rfl
  obtain ⟨checked, printed, hchecked, hprinted, hstatus, herrors, htallies⟩ :=
    check_agrees_with_translate hcheck htranslate plantFiles
  rw [hchecked] at hsucceeds
  obtain ⟨tree, root, htree, hshown, hroot, htally⟩ := htallies hsucceeds
  obtain rfl : FaultTree.ofSound sampleDocument = tree := by
    rw [hfile] at htree
    exact Except.ok.inj htree
  rw [hsummary] at hshown htally
  have houtput : checked.output = "plant.ft: ok: tree 'Plant': 2 gates, 1 basic events, " ++
      "1 house events, 1 undefined events; top: Top\n" := by
    generalize checked.output = shown at hshown ⊢
    cases hshown with
    | text => decide +kernel
  exact ⟨hcheck, htranslate, checked, printed, hchecked, hprinted, hsucceeds,
    hstatus ▸ hsucceeds, herrors, houtput, root, hroot, htally⟩

end FaultTreeExchange
