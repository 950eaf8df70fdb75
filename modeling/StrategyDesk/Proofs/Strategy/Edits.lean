import StrategyDesk.Proofs.Strategy.ActionSides

/-!
# Edits of one field

An edit is taken, refused or addressed to nobody.  One that is taken writes one field of one node,
at one place or at two, and leaves everything else as it was.  So edits of different fields can be
made in any order, and a field holds what was stored in it last.

## Main Definitions

* `sanitized`, `Graph.Edit.IsRefused` — what a field stores of a typed text, and the texts that are
  refused
* `Node.Written`, `Graph.FirstWritten` — a node, and a graph, with fields written
* `Graph.Answered` — what becomes of an edit, and of the graph
* `Graph.lastStored?` — the text that edits left in a field

## Main Statements

* `Graph.answered_apply` — the outcome of an edit and the graph after it
* `Graph.written_edits` — a field holds the text that was stored in it last
* `Graph.apply_comm` — edits of different fields commute
* `Graph.sharesAgree_edited` — what stands in the data of a node agrees with its parameters
* `Graph.edits_write_one_field` — all of these
-/

namespace StrategyDesk

/-! ## Texts -/

/-- What a field stores of a typed text: of a number the digits and points, any other text as it
is. -/
def sanitized (field typed : String) : String :=
  if isNumericField field then String.ofList (typed.toList.filter isNumberChar) else typed

/-- A text is refused where it has several points and a number is to be typed. -/
theorem acceptInput_eq (field typed : String) :
    acceptInput field typed =
      if isNumericField field = true ∧ 1 < typed.toList.count '.' then .error ⟨field⟩
      else .ok (sanitized field typed) := by
  have points : (typed.toList.filter isNumberChar).count '.' = typed.toList.count '.' :=
    List.count_filter rfl
  unfold acceptInput sanitized
  by_cases numeric : isNumericField field = true
  · simp only [numeric, if_true, points, true_and]
  · simp only [numeric, Bool.false_eq_true, if_false, false_and]

/-! ## Nodes -/

namespace Node

/-- Texts were stored in fields of a node: among its parameters, and also in its data if the field
is one that stands there too.  Nothing else became of the node. -/
structure Written (stored : String → Option String) (old new : Node) : Prop where
  id : new.id = old.id
  kind : new.kind = old.kind
  label : new.label = old.label
  position : new.position = old.position
  parameters : ∀ field, new.parameters.get? field =
    ((stored field).map .ofString).or (old.parameters.get? field)
  data : ∀ field, new.data.get? field =
    if field ∈ Graph.sharedFields then ((stored field).map .ofString).or (old.data.get? field)
    else old.data.get? field

/-- What the data of a node holds of the fields that are written twice stands among its
parameters. -/
def SharesAgree (node : Node) : Prop :=
  ∀ field ∈ Graph.sharedFields, ∀ value, node.data.get? field = some value →
    node.parameters.get? field = some value

variable {stored later : String → Option String} {old middle new new' : Node}

/-- A node in which nothing was stored. -/
theorem Written.refl (node : Node) : node.Written (fun _ => none) node :=
  ⟨rfl, rfl, rfl, rfl, fun _ => rfl, fun _ => (ite_self _).symm⟩

/-- What is stored later takes the place of what was stored before. -/
theorem Written.trans (before : old.Written stored middle) (after : middle.Written later new) :
    old.Written (fun field => (later field).or (stored field)) new := by
  refine ⟨after.id.trans before.id, after.kind.trans before.kind, after.label.trans before.label,
    after.position.trans before.position, fun field => ?_, fun field => ?_⟩
  · rw [after.parameters, before.parameters, Option.map_or, Option.or_assoc]
  · rw [after.data, before.data]
    by_cases shared : field ∈ Graph.sharedFields
    · rw [if_pos shared, if_pos shared, if_pos shared, Option.map_or, Option.or_assoc]
    · rw [if_neg shared, if_neg shared, if_neg shared]

/-- A node is determined by what was stored in it. -/
theorem Written.unique (written : old.Written stored new) (written' : old.Written stored new') :
    new = new' := by
  have parameters : new.parameters = new'.parameters :=
    KeyMap.ext_get? fun field => (written.parameters field).trans (written'.parameters field).symm
  have data : new.data = new'.data :=
    KeyMap.ext_get? fun field => (written.data field).trans (written'.data field).symm
  have id := written.id.trans written'.id.symm
  have kind := written.kind.trans written'.kind.symm
  have label := written.label.trans written'.label.symm
  have position := written.position.trans written'.position.symm
  cases new
  cases new'
  simp_all

/-- A text is stored in the field that it is written to. -/
theorem written_writeField (node : Node) (field text : String) :
    node.Written (fun key => if key = field then some text else none)
      (Graph.writeField node field text) := by
  refine ⟨rfl, rfl, rfl, rfl, fun key => ?_, fun key => ?_⟩
  · show (node.parameters.insert field _).get? key = _
    rw [KeyMap.get?_insert]
    split
    · rfl
    · rfl
  · show (if Graph.sharedFields.contains field = true then _ else node.data).get? key = _
    by_cases here : key = field
    · subst here
      by_cases shared : key ∈ Graph.sharedFields
      · rw [if_pos (List.contains_iff_mem.mpr shared), if_pos shared, if_pos rfl,
          KeyMap.get?_insert, if_pos rfl]
        rfl
      · rw [if_neg fun found => shared (List.contains_iff_mem.mp found), if_neg shared]
    · rw [if_neg here]
      split
      · rw [KeyMap.get?_insert_of_ne here]
        exact (ite_self _).symm
      · exact (ite_self _).symm

end Node

namespace Graph

/-! ## One edit -/

/-- A number is to be typed, and the text has several points. -/
def Edit.IsRefused (edit : Edit) : Prop :=
  isNumericField edit.field = true ∧ 1 < edit.typed.toList.count '.'

instance (edit : Edit) : Decidable edit.IsRefused := inferInstanceAs (Decidable (_ ∧ _))

/-- The text that an edit stores in a field of a node, unless it is refused or made elsewhere. -/
def Edit.stored? (edit : Edit) (id field : String) : Option String :=
  if edit.node = id ∧ edit.field = field ∧ ¬edit.IsRefused then
    some (sanitized edit.field edit.typed)
  else none

/-- What an edit makes of the node that it is addressed to. -/
def Edit.change (edit : Edit) (node : Node) : Node :=
  if edit.IsRefused then node else writeField node edit.field (sanitized edit.field edit.typed)

/-- A text was stored in a field of the first node with an id, and everything else is as it was. -/
def FirstWritten (graph : Graph) (id field text : String) (after : Graph) : Prop :=
  ∃ before node later written, graph.nodes = before ++ node :: later ∧
    (∀ other ∈ before, other.id ≠ id) ∧ node.id = id ∧
    node.Written (fun key => if key = field then some text else none) written ∧
    after = { graph with nodes := before ++ written :: later }

/-- What becomes of an edit: it is addressed to nobody, refused or taken, and only an edit that is
taken changes the graph. -/
structure Answered (graph : Graph) (edit : Edit) (after : Graph) (outcome : Outcome) : Prop where
  unknown : outcome = .unknownNode ↔ ∀ node ∈ graph.nodes, node.id ≠ edit.node
  refused : ∀ why, outcome = .rejected why ↔
    (∃ node ∈ graph.nodes, node.id = edit.node) ∧ edit.IsRefused ∧ why = ⟨edit.field⟩
  taken : ∀ text, outcome = .applied text ↔
    (∃ node ∈ graph.nodes, node.id = edit.node) ∧ ¬edit.IsRefused ∧
      text = sanitized edit.field edit.typed
  kept : (∀ text, outcome ≠ .applied text) → after = graph
  written : ∀ text, outcome = .applied text →
    graph.FirstWritten edit.node edit.field text after

variable {graph : Graph} {edit : Edit}

theorem Edit.change_of_refused (refused : edit.IsRefused) : edit.change = fun node => node :=
  funext fun _ => if_pos refused

theorem Edit.change_of_taken (taken : ¬edit.IsRefused) :
    edit.change = (writeField · edit.field (sanitized edit.field edit.typed)) :=
  funext fun _ => if_neg taken

theorem Edit.stored?_of_refused (refused : edit.IsRefused) (id field : String) :
    edit.stored? id field = none :=
  if_neg fun all => all.2.2 refused

theorem Edit.stored?_of_ne {id : String} (apart : edit.node ≠ id) (field : String) :
    edit.stored? id field = none :=
  if_neg fun all => apart all.1

theorem Edit.stored?_of_taken (taken : ¬edit.IsRefused) (field : String) :
    edit.stored? edit.node field =
      if field = edit.field then some (sanitized edit.field edit.typed) else none := by
  simp only [stored?, taken, not_false_eq_true, and_true, true_and, eq_comm]

/-- An edit stores in its node what it stores there, and that is all that becomes of the node. -/
theorem Edit.written_change (edit : Edit) (node : Node) :
    node.Written (edit.stored? edit.node) (edit.change node) := by
  by_cases refused : edit.IsRefused
  · rw [change_of_refused refused, funext (stored?_of_refused refused edit.node)]
    exact .refl node
  · rw [change_of_taken refused, funext (stored?_of_taken refused)]
    exact node.written_writeField _ _

/-! ## The first node with an id -/

section First

variable {id : String} {change : Node → Node}

/-- The first node with an id, and the nodes around it. -/
theorem exists_split_of_node? {node : Node} (found : graph.node? id = some node) :
    ∃ before later, graph.nodes = before ++ node :: later ∧ (∀ other ∈ before, other.id ≠ id) ∧
      node.id = id := by
  obtain ⟨named, before, later, split, others⟩ := List.find?_eq_some_iff_append.mp found
  refine ⟨before, later, split, fun other member same => ?_, eq_of_beq named⟩
  have differs := others other member
  rw [same, beq_self_eq_true] at differs
  cases differs

theorem node?_eq_none : graph.node? id = none ↔ ∀ node ∈ graph.nodes, node.id ≠ id := by
  simp [node?]

theorem updateFirst_cons_of_eq {node : Node} (named : node.id = id) (rest : List Node) :
    updateFirst id change (node :: rest) = change node :: rest :=
  if_pos named

theorem updateFirst_cons_of_ne {node : Node} (apart : node.id ≠ id) (rest : List Node) :
    updateFirst id change (node :: rest) = node :: updateFirst id change rest :=
  if_neg apart

/-- The first node with an id is changed where it stands. -/
theorem updateFirst_append {before : List Node} {node : Node}
    (others : ∀ other ∈ before, other.id ≠ id) (named : node.id = id) (later : List Node) :
    updateFirst id change (before ++ node :: later) = before ++ change node :: later := by
  induction before with
  | nil => exact updateFirst_cons_of_eq named later
  | cons first before ih =>
      obtain ⟨apart, others⟩ := List.forall_mem_cons.mp others
      exact (updateFirst_cons_of_ne apart _).trans (congrArg (first :: ·) (ih others))

/-- Where no node has an id, none is changed. -/
theorem updateFirst_of_absent {nodes : List Node} (absent : ∀ node ∈ nodes, node.id ≠ id) :
    updateFirst id change nodes = nodes := by
  induction nodes with
  | nil => rfl
  | cons first rest ih =>
      obtain ⟨apart, absent⟩ := List.forall_mem_cons.mp absent
      rw [updateFirst_cons_of_ne apart, ih absent]

/-- Nodes that are not changed stay as they are. -/
theorem updateFirst_id (id : String) (nodes : List Node) :
    updateFirst id (fun node => node) nodes = nodes := by
  induction nodes with
  | nil => rfl
  | cons first rest ih =>
      by_cases here : first.id = id
      · rw [updateFirst_cons_of_eq here]
      · rw [updateFirst_cons_of_ne here, ih]

/-- The first node with an id, after the first one with some id was changed. -/
theorem find?_updateFirst {changed : String} (keeps : ∀ node, (change node).id = node.id)
    (nodes : List Node) :
    (updateFirst changed change nodes).find? (·.id == id) =
      (nodes.find? (·.id == id)).map fun node => if changed = id then change node else node := by
  induction nodes with
  | nil => rfl
  | cons first rest ih =>
      by_cases here : first.id = changed
      · rw [updateFirst_cons_of_eq here, List.find?_cons, List.find?_cons, keeps]
        by_cases named : first.id = id
        · have same : changed = id := here.symm.trans named
          simp only [named, same, beq_self_eq_true, if_true, Option.map_some]
        · have apart : changed ≠ id := fun same => named (here.trans same)
          simp only [beq_eq_false_iff_ne.mpr named, apart, if_false, Option.map_id']
      · rw [updateFirst_cons_of_ne here, List.find?_cons, List.find?_cons, ih]
        by_cases named : first.id = id
        · have apart : changed ≠ id := fun same => here (named.trans same.symm)
          simp only [named, apart, beq_self_eq_true, if_false, Option.map_some]
        · simp only [beq_eq_false_iff_ne.mpr named]

/-- The first nodes with two ids are changed in any order, if the changes can be made in any order
where the ids are the same. -/
theorem updateFirst_comm {id' : String} {change' : Node → Node}
    (keeps : ∀ node, (change node).id = node.id) (keeps' : ∀ node, (change' node).id = node.id)
    (commute : id = id' → ∀ node, change' (change node) = change (change' node))
    (nodes : List Node) :
    updateFirst id' change' (updateFirst id change nodes) =
      updateFirst id change (updateFirst id' change' nodes) := by
  induction nodes with
  | nil => rfl
  | cons first rest ih =>
      have named : (change first).id = first.id := keeps first
      have named' : (change' first).id = first.id := keeps' first
      by_cases here : first.id = id <;> by_cases here' : first.id = id'
      · rw [updateFirst_cons_of_eq here, updateFirst_cons_of_eq here',
          updateFirst_cons_of_eq (named.trans here'), updateFirst_cons_of_eq (named'.trans here),
          commute (here.symm.trans here')]
      · rw [updateFirst_cons_of_eq here, updateFirst_cons_of_ne here',
          updateFirst_cons_of_ne (named.trans_ne here'), updateFirst_cons_of_eq here]
      · rw [updateFirst_cons_of_ne here, updateFirst_cons_of_eq here',
          updateFirst_cons_of_eq here', updateFirst_cons_of_ne (named'.trans_ne here)]
      · rw [updateFirst_cons_of_ne here, updateFirst_cons_of_ne here',
          updateFirst_cons_of_ne here', updateFirst_cons_of_ne here, ih]

end First

/-! ## The outcome of an edit -/

theorem apply_snd (graph : Graph) (edit : Edit) :
    (graph.apply edit).2 =
      if (graph.node? edit.node).isNone then .unknownNode
      else if edit.IsRefused then .rejected ⟨edit.field⟩
      else .applied (sanitized edit.field edit.typed) := by
  unfold apply Edit.IsRefused
  cases graph.node? edit.node with
  | none => rfl
  | some node =>
      rw [acceptInput_eq]
      by_cases refused : isNumericField edit.field = true ∧ 1 < edit.typed.toList.count '.'
      · simp [refused]
      · simp [refused]

/-- The first node that an edit is addressed to is changed, which may leave it as it was. -/
theorem apply_fst (graph : Graph) (edit : Edit) :
    (graph.apply edit).1 =
      { graph with nodes := updateFirst edit.node edit.change graph.nodes } := by
  cases found : graph.node? edit.node with
  | none =>
      have kept : (graph.apply edit).1 = graph := by simp [apply, found]
      rw [kept, updateFirst_of_absent (node?_eq_none.mp found)]
  | some node =>
      by_cases refused : edit.IsRefused
      · have accepted : acceptInput edit.field edit.typed = .error ⟨edit.field⟩ :=
          (acceptInput_eq _ _).trans (if_pos refused)
        have kept : (graph.apply edit).1 = graph := by simp [apply, found, accepted]
        rw [kept, Edit.change_of_refused refused, updateFirst_id]
      · have accepted : acceptInput edit.field edit.typed =
            .ok (sanitized edit.field edit.typed) := (acceptInput_eq _ _).trans (if_neg refused)
        rw [Edit.change_of_taken refused]
        simp [apply, found, accepted]

/-- An edit that is addressed to nobody keeps the graph. -/
theorem answered_of_absent (absent : ∀ node ∈ graph.nodes, node.id ≠ edit.node) :
    graph.Answered edit graph .unknownNode := by
  have nobody : ¬∃ node ∈ graph.nodes, node.id = edit.node :=
    fun ⟨node, member, named⟩ => absent node member named
  refine ⟨iff_of_true rfl absent, fun why => ?_, fun text => ?_, fun _ => rfl, ?_⟩
  · exact iff_of_false nofun fun all => nobody all.1
  · exact iff_of_false nofun fun all => nobody all.1
  · intro text same
    cases same

/-- An edit that is refused keeps the graph. -/
theorem answered_of_refused (there : ∃ node ∈ graph.nodes, node.id = edit.node)
    (refused : edit.IsRefused) : graph.Answered edit graph (.rejected ⟨edit.field⟩) := by
  obtain ⟨node, member, named⟩ := there
  refine ⟨iff_of_false nofun fun absent => absent node member named, fun why => ?_,
    fun text => ?_, fun _ => rfl, ?_⟩
  · constructor
    · intro same
      exact ⟨⟨node, member, named⟩, refused, (Outcome.rejected.inj same).symm⟩
    · rintro ⟨-, -, rfl⟩
      rfl
  · exact iff_of_false nofun fun all => all.2.1 refused
  · intro text same
    cases same

/-- An edit that is taken tells what it has stored. -/
theorem answered_of_taken {after : Graph} (there : ∃ node ∈ graph.nodes, node.id = edit.node)
    (taken : ¬edit.IsRefused)
    (written : graph.FirstWritten edit.node edit.field (sanitized edit.field edit.typed) after) :
    graph.Answered edit after (.applied (sanitized edit.field edit.typed)) := by
  obtain ⟨node, member, named⟩ := there
  refine ⟨iff_of_false nofun fun absent => absent node member named, fun why => ?_,
    fun text => ?_, ?_, ?_⟩
  · exact iff_of_false nofun fun all => taken all.2.1
  · constructor
    · intro same
      exact ⟨⟨node, member, named⟩, taken, (Outcome.applied.inj same).symm⟩
    · rintro ⟨-, -, rfl⟩
      rfl
  · intro untaken
    exact absurd rfl (untaken _)
  · intro text same
    obtain rfl := Outcome.applied.inj same
    exact written

/-- **What becomes of an edit and of the graph.** -/
theorem answered_apply (graph : Graph) (edit : Edit) :
    graph.Answered edit (graph.apply edit).1 (graph.apply edit).2 := by
  rw [apply_fst, apply_snd]
  cases found : graph.node? edit.node with
  | none =>
      have absent := node?_eq_none.mp found
      rw [updateFirst_of_absent absent]
      exact answered_of_absent absent
  | some node =>
      have there : ∃ node ∈ graph.nodes, node.id = edit.node := ⟨node, of_node? found⟩
      by_cases refused : edit.IsRefused
      · rw [if_pos refused, Edit.change_of_refused refused, updateFirst_id]
        exact answered_of_refused there refused
      · rw [if_neg refused]
        obtain ⟨before, later, split, others, named⟩ := exists_split_of_node? found
        have written := edit.written_change node
        rw [funext (Edit.stored?_of_taken refused)] at written
        refine answered_of_taken there refused
          ⟨before, node, later, edit.change node, split, others, named, written, ?_⟩
        rw [split, updateFirst_append others named]

/-! ## Edits in turn -/

/-- The text that edits stored last in a field of a node. -/
def lastStored? (id : String) (edits : List Edit) (field : String) : Option String :=
  (edits.filterMap (Edit.stored? · id field)).getLast?

theorem lastStored?_concat (id : String) (edits : List Edit) (edit : Edit) (field : String) :
    lastStored? id (edits ++ [edit]) field =
      (edit.stored? id field).or (lastStored? id edits field) := by
  unfold lastStored?
  rw [List.filterMap_append]
  cases stored : edit.stored? id field with
  | none => simp [stored]
  | some text => simp [stored]

/-- The first node with an id after an edit. -/
theorem node?_apply (graph : Graph) (edit : Edit) (id : String) :
    (graph.apply edit).1.node? id =
      (graph.node? id).map fun node => if edit.node = id then edit.change node else node := by
  rw [apply_fst]
  exact find?_updateFirst (fun node => (edit.written_change node).id) graph.nodes

/-- **A field holds the text that was stored in it last**, or what it held before if nothing was. -/
theorem written_edits {id : String} {node : Node} (found : graph.node? id = some node)
    (edits : List Edit) :
    ∃ after, (graph.edited (edits.map .apply)).node? id = some after ∧
      node.Written (lastStored? id edits) after := by
  induction edits using List.reverseRecOn with
  | nil => exact ⟨node, found, .refl node⟩
  | append_singleton edits edit ih =>
      obtain ⟨middle, there, before⟩ := ih
      rw [List.map_append, List.map_singleton, edited_concat]
      show ∃ after, ((Graph.apply _ edit).1).node? id = some after ∧ _
      rw [node?_apply, there, funext (lastStored?_concat id edits edit)]
      by_cases here : edit.node = id
      · subst here
        exact ⟨_, congrArg some (if_pos rfl), before.trans (edit.written_change middle)⟩
      · have nothing : edit.stored? id = fun _ => none := funext (Edit.stored?_of_ne here)
        rw [nothing]
        exact ⟨middle, congrArg some (if_neg here), before⟩

/-- Of edits of different fields only one stores a text in a field. -/
theorem Edit.stored?_or_comm {first second : Edit}
    (apart : (first.node, first.field) ≠ (second.node, second.field)) (id field : String) :
    (first.stored? id field).or (second.stored? id field) =
      (second.stored? id field).or (first.stored? id field) := by
  by_cases here : first.node = id ∧ first.field = field
  · have elsewhere : second.stored? id field = none := by
      refine if_neg fun all => apart ?_
      rw [here.1, here.2, all.1, all.2.1]
    rw [elsewhere, Option.or_none, Option.none_or]
  · have elsewhere : first.stored? id field = none := if_neg fun all => here ⟨all.1, all.2.1⟩
    rw [elsewhere, Option.or_none, Option.none_or]

/-- **Edits of different fields are made in any order**, and each of them has the outcome that it
has without the other. -/
theorem apply_comm {first second : Edit}
    (apart : (first.node, first.field) ≠ (second.node, second.field)) (graph : Graph) :
    ((graph.apply first).1.apply second).1 = ((graph.apply second).1.apply first).1 ∧
      ((graph.apply first).1.apply second).2 = (graph.apply second).2 := by
  constructor
  · have commute : first.node = second.node →
        ∀ node, second.change (first.change node) = first.change (second.change node) := by
      intro same node
      have written := (first.written_change node).trans (second.written_change _)
      have written' := (second.written_change node).trans (first.written_change _)
      rw [← same, funext (Edit.stored?_or_comm apart.symm first.node)] at written
      rw [← same] at written'
      exact written.unique written'
    simp only [apply_fst]
    rw [updateFirst_comm (fun node => (first.written_change node).id)
      (fun node => (second.written_change node).id) commute]
  · rw [apply_snd, apply_snd, node?_apply, Option.isNone_map]

/-! ## Data and parameters -/

/-- New nodes hold none of these fields in their data. -/
theorem sharesAgree_new {operation : Operation} {size : Nat} {stem : String} {make : String → Node}
    (adds : operation.newNode? size = some (stem, make)) (id : String) :
    (make id).SharesAgree := by
  intro field shared value held
  have apart : field ≠ "id" ∧ field ≠ "name" ∧ field ≠ "category" ∧ field ≠ sideKey := by
    refine ⟨?_, ?_, ?_, ?_⟩ <;> rintro rfl <;> exact absurd shared (by decide)
  have nothing : (make id).data.get? field = none := by
    cases operation with
    | addIndicator _ | addLogic | addAction _ =>
        obtain ⟨-, rfl⟩ := Prod.mk.inj (Option.some.inj adds)
        simp [Node.ofIndicator, Node.newLogic, Node.newAction, Node.bare, KeyMap.ofList,
          KeyMap.insertAll, KeyMap.get?_insert, KeyMap.get?_empty, apart]
    | connect _ | removeNode _ | removeEdge _ | autoLayout | rename _ | apply _ => cases adds
  rw [nothing] at held
  cases held

/-- A field that is written twice is written the same both times. -/
theorem sharesAgree_writeField {node : Node} (agree : node.SharesAgree) (field text : String) :
    (writeField node field text).SharesAgree := by
  intro key shared value held
  have written := node.written_writeField field text
  rw [written.data, if_pos shared] at held
  rw [written.parameters]
  by_cases here : key = field
  · rw [if_pos here] at held ⊢
    exact held
  · rw [if_neg here] at held ⊢
    exact agree key shared value held

/-- **The data of every node agrees with its parameters**, however a new strategy is edited. -/
theorem sharesAgree_edited (operations : List Operation) :
    ∀ node ∈ (initial.edited operations).nodes, node.SharesAgree := by
  induction operations using List.reverseRecOn with
  | nil =>
      intro node member field shared value held
      rw [List.mem_singleton.mp member] at held
      cases held
  | append_singleton operations operation ih =>
      rw [edited_concat]
      exact (performed _ operation).forall_nodes Node.SharesAgree sharesAgree_new
        (fun _ _ agree => agree)
        (fun _ field _ text _ agree => sharesAgree_writeField agree field text) ih

/-! ## All of it -/

/-- **An edit writes one field or nothing.**  It is answered as its id, its field and its text say,
and writes just that field of the first node with the id; fields hold what was stored in them last;
edits of different fields can be made in any order; and in a strategy that was edited from the
beginning the ids are distinct and the data of the nodes agrees with their parameters. -/
theorem edits_write_one_field :
    (∀ (graph : Graph) (edit : Edit),
      graph.Answered edit (graph.apply edit).1 (graph.apply edit).2) ∧
    (∀ (graph : Graph) (edits : List Edit) (id : String) (node : Node),
      graph.node? id = some node →
      ∃ after, (graph.edited (edits.map .apply)).node? id = some after ∧
        node.Written (lastStored? id edits) after) ∧
    (∀ (graph : Graph) (first second : Edit),
      (first.node, first.field) ≠ (second.node, second.field) →
      ((graph.apply first).1.apply second).1 = ((graph.apply second).1.apply first).1 ∧
        ((graph.apply first).1.apply second).2 = (graph.apply second).2 ∧
        ((graph.apply second).1.apply first).2 = (graph.apply first).2) ∧
    ∀ operations : List Operation,
      ((initial.edited operations).nodes.map Node.id).Nodup ∧
        ∀ node ∈ (initial.edited operations).nodes, node.SharesAgree := by
  refine ⟨answered_apply, ?_, ?_, ?_⟩
  · intro graph edits id node found
    exact written_edits found edits
  · intro graph first second apart
    obtain ⟨same, outcome⟩ := apply_comm apart graph
    exact ⟨same, outcome, (apply_comm apart.symm graph).2⟩
  · intro operations
    exact ⟨nodup_ids_edited operations (by decide), sharesAgree_edited operations⟩

/-- Of two action nodes with one id the first is edited.  Its stop loss is what was typed before a
text with two points, without the sign behind it, and stands in its data too. -/
theorem edits_write_one_field_sharedId :
    let graph : Graph :=
      .ofParts "Imported" [.newAction .buy "action-1", .newAction .sell "action-1"] []
    let percent : Edit := ⟨"action-1", "stopLoss", "2.5%"⟩
    let version : Edit := ⟨"action-1", "stopLoss", "1.2.3"⟩
    let side : Edit := ⟨"action-1", sideKey, "hold"⟩
    (graph.apply percent).2 = .applied "2.5" ∧ (graph.apply version).2 = .rejected ⟨"stopLoss"⟩ ∧
      (graph.apply version).1 = graph ∧
      ((graph.apply percent).1.apply side).1 = ((graph.apply side).1.apply percent).1 ∧
      ∃ after, (graph.edited ([percent, side, version].map .apply)).node? "action-1" = some after ∧
        after.data.get? "stopLoss" = some (.ofString "2.5") ∧
        after.parameters.get? "stopLoss" = some (.ofString "2.5") ∧
        after.data.get? sideKey = some (.ofString "buy") ∧
        after.parameters.get? sideKey = some (.ofString "hold") := by
  intro graph percent version side
  obtain ⟨answered, last, commute, -⟩ := edits_write_one_field
  have there : ∃ node ∈ graph.nodes, node.id = "action-1" := ⟨_, List.mem_cons_self, rfl⟩
  have refused : (graph.apply version).2 = .rejected ⟨"stopLoss"⟩ :=
    ((answered graph version).refused _).mpr ⟨there, by decide, rfl⟩
  have taken : (graph.apply percent).2 = .applied "2.5" :=
    ((answered graph percent).taken _).mpr ⟨there, by decide, by decide⟩
  have kept : (graph.apply version).1 = graph :=
    (answered graph version).kept fun text same => Outcome.noConfusion (refused.symm.trans same)
  obtain ⟨same, -, -⟩ := commute graph percent side (by decide)
  obtain ⟨after, found, written⟩ :=
    last graph [percent, side, version] "action-1" (.newAction .buy "action-1") rfl
  refine ⟨taken, refused, kept, same, after, found, ?_, ?_, ?_, ?_⟩
  · exact (written.data "stopLoss").trans (by decide)
  · exact (written.parameters "stopLoss").trans (by decide)
  · exact (written.data sideKey).trans (by decide)
  · exact (written.parameters sideKey).trans (by decide)

end Graph

end StrategyDesk
