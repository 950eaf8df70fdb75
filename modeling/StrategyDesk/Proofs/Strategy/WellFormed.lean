import StrategyDesk.Proofs.Strategy.NodeIds
import StrategyDesk.Proofs.Strategy.RoundTrip

/-!
# Well-formed strategies

A strategy begins with its only start node, and its nodes have distinct ids.  Every operation keeps
it so, except the removal of the start node; and so do writing and reading a document, which keep
the ids and the kinds of the nodes in their order.

## Main Definitions

* `Graph.outline` — the ids and the kinds of the nodes
* `Graph.WellFormed` — a strategy that begins with its only start node

## Main Statements

* `Graph.Performed.wellFormed` — an operation that does not remove the start node keeps a strategy
  well-formed
* `Graph.Performed.isPlaced` — an operation keeps the nodes at places of the canvas
* `Graph.WellFormed.reimported` — a strategy comes back well-formed
-/

namespace StrategyDesk

namespace Graph

/-- The ids and the kinds of the nodes, in their order. -/
def outline (graph : Graph) : List (String × NodeKind) :=
  graph.nodes.map fun node => (node.id, node.kind)

/-- A strategy begins with its only start node, and no two of its nodes have one id. -/
structure WellFormed (graph : Graph) : Prop where
  begins : ∃ others, graph.outline = (startId, .start) :: others ∧
    ∀ node ∈ others, node.1 ≠ startId ∧ node.2 ≠ .start
  distinct : (graph.nodes.map Node.id).Nodup

variable {graph after : Graph}

theorem map_fst_outline (graph : Graph) : graph.outline.map Prod.fst = graph.nodes.map Node.id := by
  unfold outline
  rw [List.map_map]
  rfl

/-- Whether a strategy is well-formed depends on its outline. -/
theorem WellFormed.of_outline (wellFormed : graph.WellFormed)
    (same : after.outline = graph.outline) : after.WellFormed where
  begins := by
    rw [same]
    exact wellFormed.begins
  distinct := by
    rw [← map_fst_outline, same, map_fst_outline]
    exact wellFormed.distinct

theorem wellFormed_initial : Graph.initial.WellFormed :=
  ⟨⟨[], rfl, nofun⟩, List.nodup_singleton _⟩

theorem isPlaced_initial : Graph.initial.IsPlaced := by
  intro node member
  rw [List.mem_singleton.mp member]
  exact ⟨by decide +kernel, by decide +kernel⟩

/-! ## Under operations -/

section Operations

variable {operation : Operation} {issued : Option String}

/-- No new node gets the id of the start node. -/
theorem candidate_ne_startId (stem : String) (number : Nat) : candidate stem number ≠ startId := by
  intro same
  have dash : '-' ∈ startId.toList := by
    rw [← same, toList_candidate]
    simp
  exact absurd dash (by decide)

/-- A new node computes or does something. -/
theorem Operation.newNode?_isWorking {size : Nat} {stem : String} {make : String → Node}
    (adds : operation.newNode? size = some (stem, make)) (id : String) :
    (make id).kind.isWorking = true := by
  cases operation with
  | addIndicator _ | addLogic | addAction _ =>
      obtain ⟨-, rfl⟩ := Prod.mk.inj (Option.some.inj adds)
      rfl
  | connect _ | removeNode _ | removeEdge _ | autoLayout | rename _ | apply _ => cases adds

/-- **An operation that does not remove the start node keeps a strategy well-formed.** -/
theorem Performed.wellFormed (performed : Performed graph operation after issued)
    (spares : operation ≠ .removeNode startId) (wellFormed : graph.WellFormed) :
    after.WellFormed := by
  have distinct := performed.nodup_ids wellFormed.distinct
  cases performed with
  | connected _ | disconnected _ | renamed _ | kept _ => exact wellFormed.of_outline rfl
  | laidOut => exact wellFormed.of_outline (map_autoLayout (fun _ _ => rfl) graph)
  | @applied edit stored _ =>
      have keeps (node : Node) : ((writeField node edit.field stored).id,
        (writeField node edit.field stored).kind) = (node.id, node.kind) := rfl
      exact wellFormed.of_outline (map_updateFirst keeps graph.nodes)
  | @added _ stem make adds =>
      obtain ⟨others, nodes, other⟩ := wellFormed.begins
      let id := candidate stem (graph.freshNumber stem)
      have outline : (graph.addNode stem make).1.outline =
          (startId, .start) :: (others ++ [(id, (make id).kind)]) := by
        have appended : (graph.addNode stem make).1.outline =
            graph.outline ++ [((make id).id, (make id).kind)] := List.map_append
        rw [appended, nodes, Operation.newNode?_id adds, List.cons_append]
      refine ⟨⟨_, outline, List.forall_mem_append.mpr ⟨other, ?_⟩⟩, distinct⟩
      have kind : (make id).kind ≠ .start := by
        intro start
        have working := Operation.newNode?_isWorking adds id
        rw [start] at working
        cases working
      exact List.forall_mem_singleton.mpr ⟨candidate_ne_startId _ _, kind⟩
  | removed id =>
      obtain ⟨others, nodes, other⟩ := wellFormed.begins
      obtain ⟨first, rest, split, start, tail⟩ := List.map_eq_cons_iff.mp nodes
      have kept : ¬(first.id == id) = true := by
        intro same
        have named : first.id = startId := (Prod.mk.inj start).1
        exact spares (congrArg Operation.removeNode ((beq_iff_eq.mp same).symm.trans named))
      refine ⟨⟨(rest.eraseP (·.id == id)).map fun node => (node.id, node.kind), ?_, ?_⟩, distinct⟩
      · show (graph.nodes.eraseP (·.id == id)).map (fun node => (node.id, node.kind)) = _
        rw [split, List.eraseP_cons_of_neg (p := fun node : Node => node.id == id) kept,
          List.map_cons, start]
      · intro node member
        obtain ⟨old, there, rfl⟩ := List.mem_map.mp member
        refine other _ (tail ▸ List.mem_map_of_mem (List.mem_of_mem_eraseP there))

/-- A new node is at a place of the canvas. -/
theorem Operation.newNode?_isFinite {size : Nat} {stem : String} {make : String → Node}
    (adds : operation.newNode? size = some (stem, make)) (id : String) :
    (make id).position.IsFinite := by
  have finite {n : Nat} (small : n < 1000) : (Binary64.ofNat n).isFinite = true :=
    Binary64.isFinite_ofNat (lt_trans small (by decide +kernel))
  cases operation with
  | addIndicator _ =>
      obtain ⟨-, rfl⟩ := Prod.mk.inj (Option.some.inj adds)
      exact ⟨finite (by omega), finite (by omega)⟩
  | addLogic =>
      obtain ⟨-, rfl⟩ := Prod.mk.inj (Option.some.inj adds)
      exact ⟨finite (n := 400) (by decide), finite (n := 300) (by decide)⟩
  | addAction _ =>
      obtain ⟨-, rfl⟩ := Prod.mk.inj (Option.some.inj adds)
      exact ⟨finite (n := 600) (by decide), finite (n := 300) (by decide)⟩
  | connect _ | removeNode _ | removeEdge _ | autoLayout | rename _ | apply _ => cases adds

/-- **An operation keeps the nodes at places of the canvas**, as long as they can be counted. -/
theorem Performed.isPlaced (performed : Performed graph operation after issued)
    (few : after.nodes.length < wordSize 64) (placed : graph.IsPlaced) : after.IsPlaced := by
  cases performed with
  | connected _ | disconnected _ | renamed _ | kept _ => exact placed
  | added adds =>
      refine List.forall_mem_append.mpr ⟨placed, List.forall_mem_singleton.mpr ?_⟩
      exact Operation.newNode?_isFinite adds _
  | removed id => exact fun node member => placed node (List.mem_of_mem_eraseP member)
  | applied _ =>
      intro node member
      rcases mem_updateFirst member with there | ⟨old, there, rfl⟩
      · exact placed node there
      · exact placed old there
  | laidOut =>
      intro node member
      obtain ⟨i, inside, rfl⟩ := List.mem_mapIdx.mp member
      -- The farther a node comes in the row, the farther to the right it is placed.
      have index : i < wordSize 64 := by
        have same : graph.autoLayout.nodes.length = graph.nodes.length := List.length_mapIdx
        omega
      have word : wordSize 64 = 2 ^ 64 := rfl
      have far {n : Nat} (small : n < 2 ^ 80) : n < 2 ^ 1000 := lt_trans small (by decide +kernel)
      exact ⟨Binary64.isFinite_ofNat (far (by omega)),
        Binary64.isFinite_ofNat (far (by omega))⟩

end Operations

/-! ## In documents -/

/-- **A strategy comes back well-formed** from its exported text. -/
theorem WellFormed.reimported (wellFormed : graph.WellFormed) :
    graph.reread.reimported.WellFormed := by
  refine wellFormed.of_outline ?_
  show ((graph.nodes.map Node.reread).map Node.withoutCallback).map _ = graph.nodes.map _
  rw [List.map_map, List.map_map]
  rfl

theorem IsPlaced.reimported (placed : graph.IsPlaced) : graph.reread.reimported.IsPlaced :=
  List.forall_mem_map.mpr (List.forall_mem_map.mpr fun node member => (placed node member).reread)

end Graph

end StrategyDesk
