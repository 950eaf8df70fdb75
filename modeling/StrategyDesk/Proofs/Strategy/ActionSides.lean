import Mathlib.Data.List.Induction
import StrategyDesk.Proofs.Strategy.NodeIds
import StrategyDesk.Proofs.Strategy.Normalization

/-!
# The side of an action node

A new action node holds its side twice: in its data, where its name is taken from, and among its
parameters, which are what the services act on.  An edit of the side is written to the parameters
alone.  So the name of an action node always tells the side that it was added with, while its
parameter tells the text that was typed last.

## Main Definitions

* `Graph.Operation.typed?` — the text that an operation leaves in a field of a node
* `Node.Sided` — an action node with a side in its data and a text among its parameters
* `Node.SideAgrees` — the name, the side and the parameter of a node tell the same side
* `Graph.SidedSince` — where a node comes from in a run of operations

## Main Statements

* `Graph.sidedSince_edited` — every action node comes from an operation that added it
* `Graph.action_side_after_edits` — the name, the side and the parameter of every action node
* `Graph.action_side_may_differ` — they do not agree in general
-/

namespace StrategyDesk

namespace Node

/-- An action node without a label, with a side in its data and a text for it among its
parameters. -/
structure Sided (side : Side) (text : String) (node : Node) : Prop where
  kind : node.kind = .action
  label : node.label = none
  data : node.data.get? sideKey = some (.ofString side.name)
  parameters : node.parameters.get? sideKey = some (.ofString text)

/-- The name, the side and the parameter of a node tell the same side. -/
def SideAgrees (node : Node) : Prop :=
  ∃ text, node.normalize.name = "Action " ++ text ∧
    node.normalize.parameters.get? sideKey = some (.ofString text) ∧ node.side? = some text

variable {side : Side} {text : String} {node : Node}

theorem sided_newAction (side : Side) (id : String) : (newAction side id).Sided side side.name := by
  refine ⟨rfl, rfl, ?_, ?_⟩ <;>
    simp [newAction, bare, KeyMap.ofList, KeyMap.insertAll, KeyMap.get?_insert, sideKey]

/-- The side is the one in the data. -/
theorem Sided.side? (sided : node.Sided side text) : node.side? = some side.name := by
  unfold Node.side?
  rw [sided.data]
  rfl

/-- The name is made from the side in the data. -/
theorem Sided.normalizedName (sided : node.Sided side text) :
    node.normalizedName = "Action " ++ side.name := by
  unfold Node.normalizedName normalizedName.fallback
  rw [sided.label, sided.kind, sided.side?]
  rfl

/-- The normalized parameter is the text among the parameters. -/
theorem Sided.normalizedParameters (sided : node.Sided side text) :
    node.normalizedParameters.get? sideKey = some (.ofString text) := by
  rw [get?_normalizedParameters, if_neg (by decide), param?, sided.parameters]
  rfl

theorem Sided.sideAgrees_iff (sided : node.Sided side text) :
    node.SideAgrees ↔ text = side.name := by
  constructor
  · rintro ⟨told, -, stored, read⟩
    have inData : side.name = told := Option.some.inj (sided.side?.symm.trans read)
    have values : Value.ofString text = Value.ofString told :=
      Option.some.inj (sided.normalizedParameters.symm.trans stored)
    have inParameters : text = told := Option.some.inj (congrArg Value.text? values)
    exact inParameters.trans inData.symm
  · rintro rfl
    exact ⟨side.name, sided.normalizedName, sided.normalizedParameters, sided.side?⟩

/-- An edit of the side changes the text among the parameters; no other edit changes either. -/
theorem Sided.writeField (sided : node.Sided side text) (field stored : String) :
    (Graph.writeField node field stored).Sided side (if field = sideKey then stored else text) := by
  refine ⟨sided.kind, sided.label, ?_, ?_⟩
  · unfold Graph.writeField
    dsimp only
    split
    · next shared =>
      have apart : sideKey ≠ field := by
        rintro rfl
        exact absurd shared (by decide)
      rw [KeyMap.get?_insert_of_ne apart, sided.data]
    · exact sided.data
  · show (node.parameters.insert field _).get? sideKey = _
    rw [KeyMap.get?_insert]
    by_cases same : field = sideKey
    · rw [if_pos same, if_pos same.symm]
    · rw [if_neg same, if_neg (Ne.symm same), sided.parameters]

end Node

namespace Graph

/-! ## Edits of a field -/

/-- The text that an operation leaves in a field of a node, if it is an edit of that field that is
taken. -/
def Operation.typed? (id field : String) : Operation → Option String
  | apply edit =>
    if edit.node = id ∧ edit.field = field then (acceptInput field edit.typed).toOption else none
  | addIndicator _ | addLogic | addAction _ | connect _ | removeNode _ | removeEdge _ | autoLayout
  | rename _ => none

theorem Operation.typed?_apply (id field : String) (edit : Edit) :
    (apply edit).typed? id field =
      if edit.node = id ∧ edit.field = field then (acceptInput field edit.typed).toOption
      else none :=
  rfl

/-- The text that operations leave in a field of a node which stands there from their beginning. -/
def lastTyped (id field before : String) (operations : List Operation) : String :=
  (operations.filterMap (Operation.typed? id field)).getLast?.getD before

theorem lastTyped_concat (id field before : String) (operations : List Operation)
    (operation : Operation) :
    lastTyped id field before (operations ++ [operation]) =
      (operation.typed? id field).getD (lastTyped id field before operations) := by
  unfold lastTyped
  rw [List.filterMap_append]
  cases typed : operation.typed? id field with
  | none => simp [typed]
  | some text => simp [typed]

/-! ## The nodes after one operation -/

section Step

variable {graph after : Graph} {operation : Operation} {issued : Option String} {node : Node}

/-- Changing the nodes with an id changes nothing where no node has it. -/
theorem map_change_eq_self {id : String} {change : Node → Node} {nodes : List Node}
    (absent : ∀ node ∈ nodes, node.id ≠ id) :
    (nodes.map fun node => if node.id = id then change node else node) = nodes :=
  (List.map_congr_left fun node member => if_neg (absent node member)).trans (List.map_id' nodes)

/-- Where ids are distinct, the first node with an id is the only one. -/
theorem updateFirst_eq_map {id : String} {change : Node → Node} {nodes : List Node}
    (distinct : (nodes.map Node.id).Nodup) :
    updateFirst id change nodes =
      nodes.map fun node => if node.id = id then change node else node := by
  induction nodes with
  | nil => rfl
  | cons first rest ih =>
      rw [List.map_cons, List.nodup_cons] at distinct
      unfold updateFirst
      rw [List.map_cons]
      by_cases here : first.id = id
      · have absent : ∀ node ∈ rest, node.id ≠ id := by
          intro node member same
          exact distinct.1 (List.mem_map.mpr ⟨node, member, same.trans here.symm⟩)
        rw [if_pos here, if_pos here, map_change_eq_self absent]
      · rw [if_neg here, if_neg here, ih distinct.2]

/-- Where ids are distinct, an edit that is taken changes the node with its id, and one that is not
taken changes none. -/
theorem nodes_perform_apply (distinct : (graph.nodes.map Node.id).Nodup) (edit : Edit) :
    (graph.perform (.apply edit)).1.nodes = graph.nodes.map fun node =>
      if node.id = edit.node then
        ((acceptInput edit.field edit.typed).toOption.map (writeField node edit.field)).getD node
      else node := by
  cases found : graph.node? edit.node with
  | none =>
      have absent : ∀ node ∈ graph.nodes, node.id ≠ edit.node := by
        intro node member same
        exact List.find?_eq_none.mp found node member (beq_iff_eq.mpr same)
      have kept : (graph.perform (.apply edit)).1 = graph := by simp [perform, apply, found]
      rw [kept]
      exact (map_change_eq_self absent).symm
  | some _ =>
      cases accepted : acceptInput edit.field edit.typed with
      | error why =>
          have kept : (graph.perform (.apply edit)).1 = graph := by
            simp [perform, apply, found, accepted]
          rw [kept]
          simp [Except.toOption]
      | ok stored =>
          have written : (graph.perform (.apply edit)).1.nodes =
              updateFirst edit.node (writeField · edit.field stored) graph.nodes := by
            simp [perform, apply, found, accepted]
          rw [written, updateFirst_eq_map distinct]
          rfl

/-- An edit keeps what writing a field keeps. -/
theorem feature_edit {α : Type} {feature : Node → α} {node : Node}
    (keeps : ∀ field stored, feature (writeField node field stored) = feature node) (edit : Edit) :
    feature
      (if node.id = edit.node then
        ((acceptInput edit.field edit.typed).toOption.map (writeField node edit.field)).getD node
      else node) = feature node := by
  split
  · cases (acceptInput edit.field edit.typed).toOption with
    | none => rfl
    | some stored => exact keeps edit.field stored
  · rfl

/-- A node after an operation other than an edit was there before, maybe at another position, or is
the one that the operation added. -/
theorem Performed.mem_nodes (performed : Performed graph operation after issued)
    (noEdit : ∀ edit, operation ≠ .apply edit) (member : node ∈ after.nodes) :
    (∃ old ∈ graph.nodes, ∃ position, node = { old with position := position }) ∨
      ∃ stem make, operation.newNode? graph.nodes.length = some (stem, make) ∧
        node = make node.id ∧ issued = some node.id := by
  cases performed with
  | connected _ | disconnected _ | renamed _ | kept _ => exact Or.inl ⟨node, member, _, rfl⟩
  | removed id => exact Or.inl ⟨node, List.mem_of_mem_eraseP member, _, rfl⟩
  | laidOut =>
      obtain ⟨i, inside, rfl⟩ := List.mem_mapIdx.mp member
      exact Or.inl ⟨_, List.getElem_mem inside, _, rfl⟩
  | applied _ => exact absurd rfl (noEdit _)
  | @added _ stem make adds =>
      rcases List.mem_append.mp member with there | new
      · exact Or.inl ⟨node, there, _, rfl⟩
      · have made : node = make (candidate stem (graph.freshNumber stem)) :=
          List.mem_singleton.mp new
        have id : node.id = candidate stem (graph.freshNumber stem) := by
          rw [made, Operation.newNode?_id adds]
        exact Or.inr ⟨stem, make, adds, by rw [id]; exact made, by rw [id]; rfl⟩

end Step

/-! ## Where action nodes come from -/

/-- An action node comes from one of the operations of a run: it holds the side that it was added
with, and the text that the operations after that one left for it. -/
def SidedSince (graph : Graph) (operations : List Operation) (node : Node) : Prop :=
  ∃ before side after, operations = before ++ .addAction side :: after ∧
    ((graph.edited before).perform (.addAction side)).2 = some node.id ∧
    node.Sided side (lastTyped node.id sideKey side.name after)

section Run

variable {graph : Graph} {operations : List Operation} {operation : Operation} {old node : Node}

theorem edited_concat (graph : Graph) (operations : List Operation) (operation : Operation) :
    graph.edited (operations ++ [operation]) = ((graph.edited operations).perform operation).1 := by
  simp [edited, List.foldl_append]

/-- A node that an operation changes in keeping with what it types comes from the same operation as
before. -/
theorem SidedSince.concat (since : SidedSince graph operations old) (id : node.id = old.id)
    (changed : ∀ side text, old.Sided side text →
      node.Sided side ((operation.typed? old.id sideKey).getD text)) :
    SidedSince graph (operations ++ [operation]) node := by
  obtain ⟨before, side, after, rfl, issued, sided⟩ := since
  refine ⟨before, side, after ++ [operation], by simp, id ▸ issued, ?_⟩
  rw [id, lastTyped_concat]
  exact changed side _ sided

/-- An edit leaves in the node that it names what it types there, and nothing in another node. -/
theorem sided_edit {side : Side} {text : String} (sided : old.Sided side text) (edit : Edit) :
    Node.Sided side (((Operation.apply edit).typed? old.id sideKey).getD text)
      (if old.id = edit.node then
        ((acceptInput edit.field edit.typed).toOption.map (writeField old edit.field)).getD old
      else old) := by
  rw [Operation.typed?_apply]
  by_cases here : old.id = edit.node
  · cases accepted : (acceptInput edit.field edit.typed).toOption with
    | none =>
        have untyped : (if edit.node = old.id ∧ edit.field = sideKey then
            (acceptInput sideKey edit.typed).toOption else none) = none := by
          split
          · next named => rw [← named.2, accepted]
          · rfl
        rw [if_pos here, untyped]
        exact sided
    | some stored =>
        have typed : (if edit.node = old.id ∧ edit.field = sideKey then
            (acceptInput sideKey edit.typed).toOption else none).getD text =
              if edit.field = sideKey then stored else text := by
          by_cases ofSide : edit.field = sideKey
          · rw [if_pos ⟨here.symm, ofSide⟩, if_pos ofSide, ← ofSide, accepted]
            rfl
          · rw [if_neg fun named => ofSide named.2, if_neg ofSide]
            rfl
        rw [if_pos here, typed]
        exact sided.writeField edit.field stored
  · rw [if_neg here, if_neg fun named => here named.1.symm]
    exact sided

/-- An operation other than an edit types nothing. -/
theorem Operation.typed?_of_ne_apply (id field : String)
    (noEdit : ∀ edit, operation ≠ .apply edit) : operation.typed? id field = none := by
  cases operation with
  | apply edit => exact absurd rfl (noEdit edit)
  | addIndicator _ | addLogic | addAction _ | connect _ | removeNode _ | removeEdge _ | autoLayout
  | rename _ => rfl

/-- Where all action nodes come from operations of a run, they still do after one operation more. -/
theorem sidedSince_perform (distinct : ((graph.edited operations).nodes.map Node.id).Nodup)
    (since : ∀ node ∈ (graph.edited operations).nodes, node.kind = .action →
      SidedSince graph operations node)
    (operation : Operation) :
    ∀ node ∈ ((graph.edited operations).perform operation).1.nodes, node.kind = .action →
      SidedSince graph (operations ++ [operation]) node := by
  intro node member action
  by_cases edits : ∃ edit, operation = .apply edit
  · obtain ⟨edit, rfl⟩ := edits
    rw [nodes_perform_apply distinct] at member
    obtain ⟨old, there, rfl⟩ := List.mem_map.mp member
    have kind := action.symm.trans (feature_edit (fun _ _ => rfl) edit)
    exact (since old there kind.symm).concat (feature_edit (fun _ _ => rfl) edit)
      fun side text sided => sided_edit sided edit
  · have noEdit : ∀ edit, operation ≠ .apply edit := fun edit same => edits ⟨edit, same⟩
    rcases (performed _ operation).mem_nodes noEdit member with
      ⟨old, there, position, rfl⟩ | ⟨stem, make, adds, made, issued⟩
    · refine (since old there action).concat rfl fun side text sided => ?_
      rw [Operation.typed?_of_ne_apply _ _ noEdit]
      exact ⟨sided.kind, sided.label, sided.data, sided.parameters⟩
    · cases operation with
      | apply edit => exact absurd rfl (noEdit edit)
      | connect _ | removeNode _ | removeEdge _ | autoLayout | rename _ => cases adds
      | addIndicator _ | addLogic =>
          obtain ⟨-, rfl⟩ := Prod.mk.inj (Option.some.inj adds)
          rw [made] at action
          cases action
      | addAction side =>
          obtain ⟨-, rfl⟩ := Prod.mk.inj (Option.some.inj adds)
          refine ⟨operations, side, [], rfl, issued, ?_⟩
          rw [made]
          exact Node.sided_newAction side _

/-- **Every action node comes from an operation that added it.** -/
theorem sidedSince_edited (distinct : (graph.nodes.map Node.id).Nodup)
    (noAction : ∀ node ∈ graph.nodes, node.kind ≠ .action) (operations : List Operation) :
    ∀ node ∈ (graph.edited operations).nodes, node.kind = .action →
      SidedSince graph operations node := by
  -- The induction is on the last operation, as the operations before it tell where nodes come from.
  induction operations using List.reverseRecOn with
  | nil => exact fun node member action => absurd action (noAction node member)
  | append_singleton operations operation ih =>
      rw [edited_concat]
      exact sidedSince_perform (nodup_ids_edited operations distinct) ih operation

end Run

/-! ## Names, sides and parameters -/

/-- **The name of an action node tells the side that it was added with, and its parameter the text
that was typed for the side last.**  This holds of every action node of a graph that comes about by
editing a new strategy.  So the name, the side and the parameter agree exactly when no text was
typed for the side of the node, or the last one is the side that the node was added with. -/
theorem action_side_after_edits (operations : List Operation) {node : Node}
    (member : node ∈ (initial.edited operations).nodes) (action : node.kind = .action) :
    ∃ before side after, operations = before ++ .addAction side :: after ∧
      ((initial.edited before).perform (.addAction side)).2 = some node.id ∧
      node.label = none ∧
      node.normalize.name = "Action " ++ side.name ∧ node.side? = some side.name ∧
      node.normalize.parameters.get? sideKey =
        some (.ofString (lastTyped node.id sideKey side.name after)) ∧
      (node.SideAgrees ↔ lastTyped node.id sideKey side.name after = side.name) := by
  have distinct : (initial.nodes.map Node.id).Nodup := by decide
  have noAction : ∀ node ∈ initial.nodes, node.kind ≠ .action := by decide
  obtain ⟨before, side, after, split, issued, sided⟩ :=
    sidedSince_edited distinct noAction operations node member action
  exact ⟨before, side, after, split, issued, sided.label, sided.normalizedName, sided.side?,
    sided.normalizedParameters, sided.sideAgrees_iff⟩

/-- The run in which a node is added to buy, and its side is then typed as selling. -/
def soldAfterBuying : List Operation :=
  [.addAction .buy, .apply ⟨"action-1", sideKey, "sell"⟩]

/-- The node that comes of it. -/
def soldNode : Node := writeField (.newAction .buy "action-1") sideKey "sell"

theorem soldNode_mem : soldNode ∈ (initial.edited soldAfterBuying).nodes := by decide

/-- The node was added by the first operation, so that its parameter tells what the second typed. -/
theorem action_side_after_edits_soldNode :
    soldNode ∈ (initial.edited soldAfterBuying).nodes ∧ soldNode.kind = .action ∧
      soldNode.normalize.name = "Action buy" ∧ soldNode.side? = some "buy" ∧
      soldNode.normalize.parameters.get? sideKey = some (.ofString "sell") := by
  obtain ⟨before, side, after, split, -, -, name, read, parameter, -⟩ :=
    action_side_after_edits soldAfterBuying soldNode_mem rfl
  obtain ⟨rfl, rfl⟩ : side = .buy ∧ after = [.apply ⟨"action-1", sideKey, "sell"⟩] := by
    rcases before with _ | ⟨first, before⟩
    · obtain ⟨added, rest⟩ := List.cons.inj split
      exact ⟨(Operation.addAction.inj added).symm, rest.symm⟩
    · rcases before with _ | ⟨second, before⟩
      · cases (List.cons.inj (List.cons.inj split).2).1
      · simp [soldAfterBuying] at split
  exact ⟨soldNode_mem, rfl, name, read, parameter⟩

/-- **The name and the side of an action node need not agree with its parameter.**  A node that was
added to buy still says so by its name and its side after its side was typed as selling. -/
theorem action_side_may_differ :
    ¬∀ operations : List Operation, ∀ node ∈ (initial.edited operations).nodes,
      node.kind = .action → node.label = none → node.SideAgrees := by
  intro agree
  obtain ⟨text, -, stored, read⟩ := agree soldAfterBuying soldNode soldNode_mem rfl rfl
  have bought : soldNode.side? = some "buy" := by decide
  have sold : soldNode.normalize.parameters.get? sideKey = some (.ofString "sell") := by decide
  obtain rfl : "buy" = text := Option.some.inj (bought.symm.trans read)
  exact absurd (sold.symm.trans stored) (by decide)

end Graph

end StrategyDesk
