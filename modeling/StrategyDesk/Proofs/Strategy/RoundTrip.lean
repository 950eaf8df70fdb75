import StrategyDesk.Proofs.Strategy.Documents
import StrategyDesk.Proofs.Strategy.Editing
import StrategyDesk.Strategy.Normalized

/-!
# Exporting and importing a strategy

A document packs the label and the parameters of a node into its data, and reading takes them out
again.  This is faithful because the data of no node that comes about by editing holds the keys
under which they are packed.  Only a callback among the parameters is dropped on the way.

## Main Definitions

* `Node.Unpacked` — a node that packing and unpacking keep
* `Node.withoutCallback` — a node as it comes back
* `Graph.reread` — a graph with every number read from its text

## Main Statements

* `Graph.Reachable.unpacked` — every node that comes about by editing is such a node
* `DocumentNode.toNode_ofNode` — it comes back without its callback
* `Graph.parse_ofGraph_reread` — an exported text is read as the strategy reread
* `Graph.Reachable.document_roundtrip` — a strategy comes back from its exported text
-/

namespace StrategyDesk

/-! ## Packing -/

/-- The data holds none of the keys under which documents pack other things, and the kind is the one
that its name in documents stands for. -/
structure Node.Unpacked (node : Node) : Prop where
  data : ∀ key ∈ reservedKeys, node.data.get? key = none
  kind : NodeKind.ofName (some node.kind.canvasName) = node.kind

/-- The node without a callback among its parameters. -/
def Node.withoutCallback (node : Node) : Node :=
  { node with parameters := node.parameters.erase callbackKey }

/-- The node with every number read from its text. -/
def Node.reread (node : Node) : Node :=
  { node with
    data := node.data.reread
    parameters := node.parameters.reread
    position := node.position.reread }

theorem Node.Unpacked.reread {node : Node} (unpacked : node.Unpacked) : node.reread.Unpacked where
  data key reserved := by
    show node.data.reread.get? key = none
    rw [ParamMap.get?_reread, unpacked.data key reserved, Option.map_none]
  kind := unpacked.kind

/-- A kind that was read from a name is read from its own name. -/
theorem NodeKind.ofName_canvasName_ofName (name : Option String) :
    ofName (some (ofName name).canvasName) = ofName name := by
  cases name with
  | none => rfl
  | some name =>
      by_cases indicator :
          name = "" ∨ name = "default" ∨ name = "indicatorNode" ∨ name = "indicator"
      · simp only [ofName, if_pos indicator]
        decide
      by_cases start : name = "input"
      · subst start
        decide
      by_cases logic : name = "logicNode" ∨ name = "logic"
      · simp only [ofName, if_neg indicator, if_neg start, if_pos logic]
        decide
      by_cases action : name = "actionNode" ∨ name = "action"
      · simp only [ofName, if_neg indicator, if_neg start, if_neg logic, if_pos action]
        decide
      · simp only [ofName, if_neg indicator, if_neg start, if_neg logic, if_neg action, canvasName]

/-- A kind that computes or does something is read from its name. -/
theorem NodeKind.ofName_canvasName_of_isWorking {kind : NodeKind} (working : kind.isWorking) :
    ofName (some kind.canvasName) = kind := by
  cases kind with
  | indicator | logic | action => decide
  | start | other _ => cases working

namespace Graph

/-- A node that was read is unpacked. -/
theorem unpacked_toNode (node : DocumentNode) : node.toNode.Unpacked := by
  refine ⟨fun key reserved => ?_, NodeKind.ofName_canvasName_ofName node.type⟩
  have keys : key = labelKey ∨ key = callbackKey ∨ key = parametersKey := by
    simpa [reservedKeys] using reserved
  show (((node.data.erase callbackKey).erase labelKey).erase parametersKey).get? key = none
  rw [KeyMap.get?_erase, KeyMap.get?_erase, KeyMap.get?_erase]
  rcases keys with rfl | rfl | rfl <;> simp

/-- A new node is unpacked. -/
theorem unpacked_newNode {operation : Operation} {size : Nat} {stem : String}
    {make : String → Node} (adds : operation.newNode? size = some (stem, make)) (id : String) :
    (make id).Unpacked := by
  have apart : ∀ key ∈ reservedKeys,
      key ≠ "id" ∧ key ≠ "name" ∧ key ≠ "category" ∧ key ≠ sideKey := by decide
  cases operation with
  | addIndicator _ | addLogic | addAction _ =>
      obtain ⟨-, rfl⟩ := Prod.mk.inj (Option.some.inj adds)
      refine ⟨fun key reserved => ?_, NodeKind.ofName_canvasName_of_isWorking rfl⟩
      obtain ⟨id, name, category, side⟩ := apart key reserved
      simp [Node.ofIndicator, Node.newLogic, Node.newAction, Node.bare, KeyMap.ofList,
        KeyMap.insertAll, KeyMap.get?_insert, KeyMap.get?_empty, id, name, category, side]
  | connect _ | removeNode _ | removeEdge _ | autoLayout | rename _ | apply _ => cases adds

/-- Writing a field keeps a node unpacked, as only some fields are also written to the data. -/
theorem unpacked_writeField {node : Node} (unpacked : node.Unpacked) (field stored : String) :
    (writeField node field stored).Unpacked := by
  refine ⟨fun key reserved => ?_, unpacked.kind⟩
  have kept := unpacked.data key reserved
  unfold writeField
  dsimp only
  split
  · next shared =>
    have apart : key ≠ field := by
      rintro rfl
      have disjoint : ∀ key ∈ reservedKeys, sharedFields.contains key = false := by decide
      rw [disjoint key reserved] at shared
      cases shared
    rw [KeyMap.get?_insert_of_ne apart, kept]
  · exact kept

/-- **The data of no node that comes about by editing holds a key that documents pack things
under.** -/
theorem Reachable.unpacked {graph : Graph} (reachable : Reachable graph) :
    ∀ node ∈ graph.nodes, node.Unpacked :=
  reachable.forall_nodes Node.Unpacked ⟨fun _ _ => rfl, by decide⟩ unpacked_toNode unpacked_newNode
    (fun _ _ unpacked => ⟨unpacked.data, unpacked.kind⟩)
    (fun _ field _ stored _ unpacked => unpacked_writeField unpacked field stored)

end Graph

namespace DocumentNode

/-- The lookups in the data that a node is packed into. -/
theorem get?_data_ofNode (node : Node) (key : String) :
    (ofNode node).data.get? key =
      if key = parametersKey then some (.ofMap node.parameters)
      else if key = labelKey then (node.label.map Value.ofString).or (node.data.get? labelKey)
      else node.data.get? key := by
  unfold ofNode
  dsimp only
  rw [KeyMap.get?_insert]
  split
  · rfl
  · cases node.label with
    | none =>
        show node.data.get? key = if key = labelKey then node.data.get? labelKey else _
        by_cases same : key = labelKey
        · rw [if_pos same, same]
        · rw [if_neg same]
    | some label => exact KeyMap.get?_insert node.data labelKey (.ofString label) key

/-- **A node that was packed comes back without its callback.** -/
theorem toNode_ofNode {node : Node} (unpacked : node.Unpacked) :
    (ofNode node).toNode = node.withoutCallback := by
  have absent (key : String) (reserved : key ∈ reservedKeys) : node.data.get? key = none :=
    unpacked.data key reserved
  have label : ((ofNode node).data.get? labelKey).bind Value.text? = node.label := by
    rw [get?_data_ofNode, if_neg (by decide), if_pos rfl, absent labelKey (by decide),
      Option.or_none]
    cases node.label <;> rfl
  have parameters :
      ((ofNode node).data.get? parametersKey).bind Value.map? = some node.parameters := by
    rw [get?_data_ofNode, if_pos rfl, Option.bind_some, Value.map?_ofMap]
  have data : (((ofNode node).data.erase callbackKey).erase labelKey).erase parametersKey =
      node.data := by
    refine KeyMap.ext_get? fun key => ?_
    rw [KeyMap.get?_erase, KeyMap.get?_erase, KeyMap.get?_erase, get?_data_ofNode]
    by_cases isParameters : key = parametersKey
    · rw [if_pos isParameters, isParameters, absent parametersKey (by decide)]
    by_cases isLabel : key = labelKey
    · rw [if_neg isParameters, if_pos isLabel, isLabel, absent labelKey (by decide)]
    by_cases isCallback : key = callbackKey
    · rw [if_neg isParameters, if_neg isLabel, if_pos isCallback, isCallback,
        absent callbackKey (by decide)]
    · rw [if_neg isParameters, if_neg isLabel, if_neg isCallback, if_neg isParameters,
        if_neg isLabel]
  unfold toNode
  rw [label, parameters, data]
  have kind : NodeKind.ofName (ofNode node).type = node.kind := unpacked.kind
  rw [kind]
  rfl

/-- Packing a node without its callback packs no deeper values. -/
theorem depth_data_withoutCallback {node : Node} {limit : Nat}
    (shallow : (ofNode node).data.toJson.depth ≤ limit) :
    (ofNode node.withoutCallback).data.toJson.depth ≤ limit := by
  cases limit with
  | zero => cases shallow
  | succ limit =>
      have each := ParamMap.depth_toJson_le_iff.mp shallow
      refine ParamMap.depth_toJson_le_iff.mpr fun key value found => ?_
      rw [get?_data_ofNode] at found
      by_cases same : key = parametersKey
      · rw [if_pos same] at found
        rw [← Option.some.inj found]
        have parameters := each parametersKey (.ofMap node.parameters)
          (by rw [get?_data_ofNode, if_pos rfl])
        exact ParamMap.depth_toJson_erase parameters callbackKey
      · refine each key value ?_
        rw [get?_data_ofNode, if_neg same]
        rwa [if_neg same] at found

/-- A packed node is reread as the reread node is packed. -/
theorem reread_ofNode (node : Node) : (ofNode node).reread = ofNode node.reread := by
  have data : (ofNode node).data.reread = (ofNode node.reread).data := by
    refine KeyMap.ext_get? fun key => ?_
    rw [ParamMap.get?_reread, get?_data_ofNode, get?_data_ofNode]
    split
    · rw [Option.map_some, Value.reread_ofMap]
      rfl
    split
    · have label : node.reread.data.get? labelKey = (node.data.get? labelKey).map Value.reread :=
        ParamMap.get?_reread _ _
      have same : node.reread.label = node.label := rfl
      rw [label, same]
      cases node.label <;> rfl
    · exact (ParamMap.get?_reread _ _).symm
  unfold reread
  rw [data]
  rfl

end DocumentNode

namespace Graph

variable {graph : Graph}

/-! ## The document of a strategy -/

/-- The floats of a strategy: those of its positions, and those in the data and the parameters of
its nodes. -/
def floats (graph : Graph) : List Binary64 :=
  graph.nodes.flatMap fun node =>
    [node.position.x, node.position.y] ++ node.data.toJson.floats ++ node.parameters.toJson.floats

theorem forall_floats_iff {holds : Binary64 → Prop} : (∀ x ∈ graph.floats, holds x) ↔
    ∀ node ∈ graph.nodes, (holds node.position.x ∧ holds node.position.y) ∧
      (∀ x ∈ node.data.toJson.floats, holds x) ∧ ∀ x ∈ node.parameters.toJson.floats, holds x := by
  unfold floats
  rw [List.forall_mem_flatMap]
  simp only [List.forall_mem_append, List.forall_mem_cons, List.not_mem_nil, false_implies,
    implies_true, true_and, and_assoc]

/-- A document is nested as deeply as the data of its nodes. -/
theorem depth_ofGraph_le_iff {now : Timestamp} {limit : Nat} :
    (toJson (Document.ofGraph graph now)).depth ≤ limit + 4 ↔
      ∀ node ∈ graph.nodes, (DocumentNode.ofNode node).data.toJson.depth ≤ limit + 1 := by
  have text (text : String) : (toJson text).depth = 0 := rfl
  have text? (text : Option String) : (toJson text).depth = 0 := by cases text <;> rfl
  have number (x : Binary64) : (toJson x).depth = 0 := by
    show (Json.ofBinary64 x).depth = 0
    unfold Json.ofBinary64
    split <;> rfl
  have position (position : Position) : (toJson position).depth ≤ limit + 1 :=
    Json.depth_record_le_iff.mpr (by simp [always, number])
  have edge (edge : Edge) : (toJson edge).depth ≤ limit + 2 :=
    Json.depth_record_le_iff.mpr (by simp [always, text, text?])
  have node (node : Node) : (toJson (DocumentNode.ofNode node)).depth ≤ limit + 2 ↔
      (DocumentNode.ofNode node).data.toJson.depth ≤ limit + 1 := by
    have fields : (toJson (DocumentNode.ofNode node)).depth ≤ limit + 2 ↔
        (toJson (DocumentNode.ofNode node).data).depth ≤ limit + 1 :=
      Json.depth_record_le_iff.trans
        (by simp [always, whenPresent, text, position, DocumentNode.ofNode])
    exact fields
  have moment : (toJson now).depth = 0 := rfl
  have fields : (toJson (Document.ofGraph graph now)).depth ≤ limit + 4 ↔
      (toJson (graph.nodes.map DocumentNode.ofNode)).depth ≤ limit + 3 ∧
        (toJson graph.edges).depth ≤ limit + 3 :=
    Json.depth_record_le_iff.trans
      (by simp [always, whenPresent, text, text?, moment, Document.ofGraph])
  have edges : (toJson graph.edges).depth ≤ limit + 3 :=
    Json.depth_list_le_iff.mpr fun e _ => edge e
  rw [fields, and_iff_left edges, Json.depth_list_le_iff, List.forall_mem_map]
  exact forall₂_congr fun n _ => node n

/-- Every node stands at a place of the canvas. -/
def IsPlaced (graph : Graph) : Prop := ∀ node ∈ graph.nodes, node.position.IsFinite

/-- The strategy with every number read from its text. -/
def reread (graph : Graph) : Graph := { graph with nodes := graph.nodes.map Node.reread }

/-- A strategy is reread as it was if its floats are read back. -/
theorem reread_eq_self (numbers : ∀ x ∈ graph.floats, x.ReadsBack) : graph.reread = graph := by
  have each : ∀ node ∈ graph.nodes, node.reread = node := by
    intro node member
    obtain ⟨⟨x, y⟩, data, parameters⟩ := forall_floats_iff.mp numbers node member
    unfold Node.reread Position.reread
    rw [ParamMap.reread_eq_self data, ParamMap.reread_eq_self parameters, x.reread, y.reread]
  unfold reread
  rw [List.map_congr_left each, List.map_id']

/-- **The text of a strategy is read as the document of the strategy reread**, whatever its floats,
if its nodes stand at places of the canvas. -/
theorem parse_text_ofGraph (placed : graph.IsPlaced) {now : Timestamp} (moment : now.IsMoment)
    (nesting : (toJson (Document.ofGraph graph now)).depth ≤ Json.depthLimit) :
    Document.parse (Document.ofGraph graph now).text = .ok (Document.ofGraph graph.reread now) := by
  have finite : ∀ node ∈ (Document.ofGraph graph now).nodes, node.position.IsFinite :=
    List.forall_mem_map.mpr placed
  have back := Wire.rereads_document finite fun t same => Option.some.inj same ▸ moment
  have document : (Document.ofGraph graph now).reread = Document.ofGraph graph.reread now := by
    unfold Document.reread Document.ofGraph reread
    rw [List.map_map, List.map_map]
    congr 1
    exact List.map_congr_left fun node _ => DocumentNode.reread_ofNode node
  unfold Document.parse Document.text
  rw [back.parse?_pretty nesting, document]

/-! ## A strategy and its exported text -/

/-- The strategy as it comes back: under a name, without callbacks, its ids counted anew. -/
def reimported (graph : Graph) : Graph where
  name := if graph.name = "" then Document.importedName else graph.name
  nodes := graph.nodes.map Node.withoutCallback
  edges := graph.edges
  counter := 0

theorem toGraph_ofGraph (unpacked : ∀ node ∈ graph.nodes, node.Unpacked) (now : Timestamp) :
    (Document.ofGraph graph now).toGraph = graph.reimported := by
  have nodes : (graph.nodes.map DocumentNode.ofNode).map DocumentNode.toNode =
      graph.nodes.map Node.withoutCallback := by
    rw [List.map_map]
    exact List.map_congr_left fun node member => DocumentNode.toNode_ofNode (unpacked node member)
  unfold Document.toGraph Document.ofGraph ofParts reimported
  rw [nodes]

/-- A strategy comes back reread from its exported text, whatever its floats. -/
theorem parse_ofGraph_reread (unpacked : ∀ node ∈ graph.nodes, node.Unpacked)
    (placed : graph.IsPlaced) {now : Timestamp} (moment : now.IsMoment)
    (nesting : (toJson (Document.ofGraph graph now)).depth ≤ Json.depthLimit) :
    Graph.parse (Document.ofGraph graph now).text = .ok graph.reread.reimported := by
  have unpacked' : ∀ node ∈ graph.reread.nodes, node.Unpacked :=
    List.forall_mem_map.mpr fun node member => (unpacked node member).reread
  unfold Graph.parse
  rw [parse_text_ofGraph placed moment nesting, Except.map, toGraph_ofGraph unpacked']

/-- A strategy comes back from its exported text. -/
theorem parse_ofGraph (unpacked : ∀ node ∈ graph.nodes, node.Unpacked) {now : Timestamp}
    (moment : now.IsMoment) (numbers : ∀ x ∈ graph.floats, x.ReadsBack)
    (nesting : (toJson (Document.ofGraph graph now)).depth ≤ Json.depthLimit) :
    Graph.parse (Document.ofGraph graph now).text = .ok graph.reimported := by
  have placed : graph.IsPlaced := by
    intro node member
    obtain ⟨⟨x, y⟩, -⟩ := forall_floats_iff.mp numbers node member
    exact ⟨x.isFinite, y.isFinite⟩
  rw [parse_ofGraph_reread unpacked placed moment nesting, reread_eq_self numbers]

/-- What came back comes back as it is. -/
theorem reimported_reimported (graph : Graph) : graph.reimported.reimported = graph.reimported := by
  have named : graph.reimported.name ≠ "" := by
    unfold reimported
    dsimp only
    split
    · decide
    · assumption
  have nodes : graph.reimported.nodes.map Node.withoutCallback = graph.reimported.nodes := by
    show (graph.nodes.map Node.withoutCallback).map Node.withoutCallback = _
    rw [List.map_map]
    refine List.map_congr_left fun node _ => ?_
    show ({ node.withoutCallback with parameters := _ } : Node) = node.withoutCallback
    rw [Node.withoutCallback, KeyMap.erase_erase]
  unfold reimported at named nodes ⊢
  rw [if_neg named, nodes]

/-- What comes back has no other floats. -/
theorem forall_floats_reimported {holds : Binary64 → Prop} (all : ∀ x ∈ graph.floats, holds x) :
    ∀ x ∈ graph.reimported.floats, holds x := by
  refine forall_floats_iff.mpr fun node member => ?_
  obtain ⟨old, there, rfl⟩ := List.mem_map.mp member
  obtain ⟨position, data, parameters⟩ := forall_floats_iff.mp all old there
  exact ⟨position, data, ParamMap.forall_floats_erase parameters callbackKey⟩

/-- What comes back is not nested more deeply. -/
theorem depth_ofGraph_reimported {now later : Timestamp}
    (nesting : (toJson (Document.ofGraph graph now)).depth ≤ Json.depthLimit) :
    (toJson (Document.ofGraph graph.reimported later)).depth ≤ Json.depthLimit := by
  have limit : Json.depthLimit = 123 + 4 := rfl
  rw [limit, depth_ofGraph_le_iff] at nesting ⊢
  intro node member
  obtain ⟨old, there, rfl⟩ := List.mem_map.mp member
  exact DocumentNode.depth_data_withoutCallback (nesting old there)

/-- A node without its callback is the same node for the services. -/
theorem normalize_withoutCallback (node : Node) :
    node.withoutCallback.normalize = node.normalize := by
  have side : node.withoutCallback.side? = node.side? := by
    have apart : sideKey ≠ callbackKey := by decide
    simp [Node.side?, Node.withoutCallback, KeyMap.get?_erase, apart]
  have parameters : node.withoutCallback.normalizedParameters = node.normalizedParameters := by
    refine KeyMap.ext_get? fun key => ?_
    unfold Node.normalizedParameters
    rw [KeyMap.get?_filterKeys, KeyMap.get?_filterKeys, KeyMap.get?_overlay, KeyMap.get?_overlay]
    split
    · next open_ =>
      have apart : key ≠ callbackKey := by
        rintro rfl
        exact absurd open_ (by decide)
      simp [Node.withoutCallback, KeyMap.get?_erase, apart]
    · rfl
  have name : node.withoutCallback.normalizedName = node.normalizedName := by
    unfold Node.normalizedName Node.normalizedName.fallback
    rw [side]
    rfl
  unfold Node.normalize
  rw [parameters, name]
  rfl

/-- **A strategy comes back from its exported text.**  However it came about, the data of its nodes
holds neither a label nor parameters nor a callback.  If its floats are read back from their texts
and it is not nested too deeply, importing its exported text succeeds and gives its edges, its name
(or the name of an imported strategy for an empty one) and its nodes without callbacks among their
parameters.  What was imported comes back once more as it is, and is the same strategy for the
services. -/
theorem Reachable.document_roundtrip (reachable : Reachable graph) :
    (∀ node ∈ graph.nodes, ∀ key ∈ [labelKey, parametersKey, callbackKey],
      node.data.get? key = none) ∧
    ∀ now : Timestamp, now.IsMoment → (∀ x ∈ graph.floats, x.ReadsBack) →
      (toJson (Document.ofGraph graph now)).depth ≤ Json.depthLimit →
      ∃ imported, Graph.parse (Document.ofGraph graph now).text = .ok imported ∧
        imported.edges = graph.edges ∧
        imported.name = (if graph.name = "" then Document.importedName else graph.name) ∧
        imported.nodes = graph.nodes.map (fun node =>
          { node with parameters := node.parameters.erase callbackKey }) ∧
        (∀ later : Timestamp, later.IsMoment →
          Graph.parse (Document.ofGraph imported later).text = .ok imported) ∧
        ∀ name platform, imported.normalize name platform = graph.normalize name platform := by
  have unpacked := reachable.unpacked
  refine ⟨fun node member key reserved => ?_, fun now moment numbers nesting => ?_⟩
  · have keys : ∀ key ∈ [labelKey, parametersKey, callbackKey], key ∈ reservedKeys := by decide
    exact (unpacked node member).data key (keys key reserved)
  have first := parse_ofGraph unpacked moment numbers nesting
  refine ⟨graph.reimported, first, rfl, rfl, rfl, fun later moment' => ?_, fun name platform => ?_⟩
  · have again := parse_ofGraph (Reachable.read first).unpacked moment'
      (forall_floats_reimported numbers) (depth_ofGraph_reimported nesting)
    rwa [reimported_reimported] at again
  · have nodes : graph.reimported.nodes.map Node.normalize = graph.nodes.map Node.normalize := by
      show (graph.nodes.map Node.withoutCallback).map Node.normalize = _
      rw [List.map_map]
      exact List.map_congr_left fun node _ => normalize_withoutCallback node
    unfold normalize
    rw [nodes]
    rfl

/-- A strategy without a name, with a fraction and a callback among its parameters, comes back under
a name and without the callback. -/
theorem document_roundtrip_withCallback :
    let factor : Value := ⟨.number (.float (.ofRatio false 25 2)), by decide⟩
    let smoothed : Indicator := ⟨"sma", "SMA", "trend", none, some (.ofList [("factor", factor)])⟩
    let graph := Graph.initial.edited [.addIndicator smoothed,
      .apply ⟨"sma-1", "onParameterChange", "x"⟩, .connect (.between "start" "sma-1"), .rename ""]
    let now : Timestamp := ⟨0, 0⟩
    (Reachable graph ∧ now.IsMoment ∧ (∀ x ∈ graph.floats, x.ReadsBack) ∧
      (toJson (Document.ofGraph graph now)).depth ≤ Json.depthLimit) ∧
    (graph.nodes.map fun node => (node.parameters.get? callbackKey).isSome) = [false, true] ∧
    ∃ imported, Graph.parse (Document.ofGraph graph now).text = .ok imported ∧
      imported.name = "Imported Strategy" ∧ imported.edges = [.between "start" "sma-1"] ∧
      imported.nodes.map (fun node => node.parameters.get? "factor") = [none, some factor] ∧
      (imported.nodes.map fun node => (node.parameters.get? callbackKey).isSome) =
        [false, false] := by
  intro factor smoothed graph now
  have reachable : Reachable graph := Reachable.initial.edited _
  have moment : now.IsMoment := ⟨by decide, by decide, by decide⟩
  have numbers : ∀ x ∈ graph.floats, x.ReadsBack := by decide +kernel
  have nesting : (toJson (Document.ofGraph graph now)).depth ≤ Json.depthLimit := by decide +kernel
  obtain ⟨imported, read, edges, name, nodes, -⟩ :=
    reachable.document_roundtrip.2 now moment numbers nesting
  refine ⟨⟨reachable, moment, numbers, nesting⟩, by decide +kernel, imported, read, ?_, ?_, ?_, ?_⟩
  · rw [name]
    decide +kernel
  · rw [edges]
    decide +kernel
  · rw [nodes]
    decide +kernel
  · rw [nodes]
    decide +kernel

end Graph

end StrategyDesk
