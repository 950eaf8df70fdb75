import Mathlib.Data.List.Nodup
import Mathlib.Data.List.Perm.Subperm
import StrategyDesk.Proofs.Strategy.Editing

/-!
# The ids of new nodes

The id of a new node is a text, a dash and a number.  The number is searched for above the one last
used, until no node has the id.  As the numbers only grow within a graph, and an id determines its
number whatever the text before it is, no id is handed out a second time.

## Main Definitions

* `Graph.Search` — the search for a number, with the rounds that it takes

## Main Statements

* `Graph.candidate_inj` — an id determines its text and its number
* `Graph.search_freshNumber` — the search ends within one round more than there are nodes
* `Graph.node_ids_never_repeat` — however a graph is edited, its ids stay distinct and every new
  node gets an id that no node has and none was given before
-/

namespace StrategyDesk

namespace Graph

/-! ## Numbered ids -/

theorem dash_notMem_toDigits (number : Nat) : '-' ∉ Nat.toDigits 10 number := by
  intro member
  have digit : '-'.isDigit := Nat.isDigit_of_mem_toDigits (by decide) (by decide) member
  exact absurd digit (by decide)

/-- What stands before and behind the last dash of a text is determined by the text. -/
theorem append_dash_inj {s t ds es : List Char} (noDash : '-' ∉ ds) (noDash' : '-' ∉ es)
    (same : s ++ '-' :: ds = t ++ '-' :: es) : s = t ∧ ds = es := by
  rcases List.append_eq_append_iff.mp same with ⟨between, rfl, rest⟩ | ⟨between, rfl, rest⟩
  · cases between with
    | nil => exact ⟨(List.append_nil s).symm, (List.cons.inj rest).2⟩
    | cons c between =>
        have inside : ds = between ++ '-' :: es := (List.cons.inj rest).2
        exact absurd (inside ▸ List.mem_append_right _ List.mem_cons_self) noDash
  · cases between with
    | nil => exact ⟨List.append_nil t, (List.cons.inj rest).2.symm⟩
    | cons c between =>
        have inside : es = between ++ '-' :: ds := (List.cons.inj rest).2
        exact absurd (inside ▸ List.mem_append_right _ List.mem_cons_self) noDash'

theorem toList_candidate (stem : String) (number : Nat) :
    (candidate stem number).toList = stem.toList ++ '-' :: Nat.toDigits 10 number := by
  have text : candidate stem number = stem ++ "-" ++ toString number := rfl
  simp [text, Nat.toString_eq_repr, Nat.toList_repr]

/-- **An id determines its text and its number**, also where the text itself ends in a dash and a
number. -/
theorem candidate_inj {stem stem' : String} {number number' : Nat}
    (same : candidate stem number = candidate stem' number') : stem = stem' ∧ number = number' := by
  have chars : stem.toList ++ '-' :: Nat.toDigits 10 number =
      stem'.toList ++ '-' :: Nat.toDigits 10 number' := by
    rw [← toList_candidate, ← toList_candidate, same]
  obtain ⟨stems, digits⟩ :=
    append_dash_inj (dash_notMem_toDigits number) (dash_notMem_toDigits number') chars
  have numbers : Nat.ofDigitChars 10 (Nat.toDigits 10 number) 0 =
      Nat.ofDigitChars 10 (Nat.toDigits 10 number') 0 := by rw [digits]
  exact ⟨String.toList_inj.mp stems, by simpa using numbers⟩

/-! ## The search -/

/-- The search for the number of a new node from a number on, which goes on for as long as some node
has the id: the rounds that it takes and the number that it ends with. -/
inductive Search (graph : Graph) (stem : String) : Nat → Nat → Nat → Prop
  | free {counter : Nat} (free : graph.node? (candidate stem (counter + 1)) = none) :
      Search graph stem counter 1 (counter + 1)
  | taken {counter rounds number : Nat} (taken : graph.node? (candidate stem (counter + 1)) ≠ none)
      (later : Search graph stem (counter + 1) rounds number) :
      Search graph stem counter (rounds + 1) number

variable {graph : Graph} {stem : String}

/-- The search ends with a higher number, whose id no node has. -/
theorem Search.fresh {counter rounds number : Nat}
    (search : Search graph stem counter rounds number) :
    counter < number ∧ graph.node? (candidate stem number) = none := by
  induction search with
  | free free => exact ⟨Nat.lt_succ_self _, free⟩
  | taken _ _ ih => exact ⟨Nat.lt_of_succ_lt ih.1, ih.2⟩

/-- The search passes over no number whose id is free. -/
theorem Search.least {counter rounds number : Nat}
    (search : Search graph stem counter rounds number) :
    ∀ smaller, counter < smaller → smaller < number →
      graph.node? (candidate stem smaller) ≠ none := by
  induction search with
  | free _ =>
      intro smaller above below
      omega
  | @taken counter _ _ taken _ ih =>
      intro smaller above below
      by_cases next : smaller = counter + 1
      · exact next ▸ taken
      · exact ih smaller (by omega) below

/-- Where one of the next numbers is free, trying so many finds what the search ends with. -/
theorem search_nextNumber : ∀ (fuel counter : Nat),
    (∃ number, counter < number ∧ number ≤ counter + fuel + 1 ∧
      graph.node? (candidate stem number) = none) →
    ∃ rounds ≤ fuel + 1, Search graph stem counter rounds (graph.nextNumber stem fuel counter)
  | 0, counter, ⟨number, above, upTo, free⟩ => by
      have next : number = counter + 1 := by omega
      exact ⟨1, Nat.le_refl _, .free (next ▸ free)⟩
  | fuel + 1, counter, ⟨number, above, upTo, free⟩ => by
      unfold nextNumber
      by_cases here : graph.node? (candidate stem (counter + 1)) = none
      · rw [if_pos (Option.isNone_iff_eq_none.mpr here)]
        exact ⟨1, by omega, .free here⟩
      · have other : number ≠ counter + 1 := fun same => here (same ▸ free)
        obtain ⟨rounds, few, search⟩ :=
          search_nextNumber fuel (counter + 1) ⟨number, by omega, by omega, free⟩
        rw [if_neg fun none => here (Option.isNone_iff_eq_none.mp none)]
        exact ⟨rounds + 1, by omega, .taken here search⟩

/-- The node of an id is one of the nodes. -/
theorem of_node? {id : String} {node : Node} (found : graph.node? id = some node) :
    node ∈ graph.nodes ∧ node.id = id := by
  unfold node? at found
  have named := List.find?_some found
  exact ⟨List.mem_of_find?_eq_some found, eq_of_beq named⟩

/-- Among one number more than there are nodes, the id of one is free. -/
theorem exists_free_number (graph : Graph) (stem : String) (counter : Nat) :
    ∃ number, counter < number ∧ number ≤ counter + graph.nodes.length + 1 ∧
      graph.node? (candidate stem number) = none := by
  by_contra all
  push Not at all
  let tried := (List.range (graph.nodes.length + 1)).map fun i => candidate stem (counter + 1 + i)
  have distinct : tried.Nodup :=
    List.nodup_range.map fun i j same => by have := (candidate_inj same).2; omega
  have taken : tried ⊆ graph.nodes.map Node.id := by
    intro id member
    obtain ⟨i, inside, rfl⟩ := List.mem_map.mp member
    have few : i < graph.nodes.length + 1 := List.mem_range.mp inside
    obtain ⟨node, found⟩ :=
      Option.ne_none_iff_exists'.mp (all (counter + 1 + i) (by omega) (by omega))
    obtain ⟨member, named⟩ := of_node? found
    exact List.mem_map.mpr ⟨node, member, named⟩
  have count : tried.length ≤ (graph.nodes.map Node.id).length := (distinct.subperm taken).length_le
  rw [List.length_map, List.length_map, List.length_range] at count
  omega

/-- **The search ends within one round more than there are nodes**, with the number that a new node
is given. -/
theorem search_freshNumber (graph : Graph) (stem : String) :
    ∃ rounds ≤ graph.nodes.length + 1,
      Search graph stem graph.counter rounds (graph.freshNumber stem) :=
  search_nextNumber _ _ (exists_free_number graph stem graph.counter)

theorem counter_lt_freshNumber (graph : Graph) (stem : String) :
    graph.counter < graph.freshNumber stem := by
  obtain ⟨_, -, search⟩ := search_freshNumber graph stem
  exact search.fresh.1

/-- No node has the id of a new one. -/
theorem ne_candidate_freshNumber (graph : Graph) (stem : String) :
    ∀ node ∈ graph.nodes, node.id ≠ candidate stem (graph.freshNumber stem) := by
  obtain ⟨_, -, search⟩ := search_freshNumber graph stem
  intro node member same
  have other : ¬(node.id == candidate stem (graph.freshNumber stem)) = true :=
    List.find?_eq_none.mp search.fresh.2 node member
  exact other (beq_iff_eq.mpr same)

/-! ## The ids over a run -/

variable {after : Graph} {operation : Operation} {issued : Option String}

/-- Distinct ids stay distinct under an operation. -/
theorem Performed.nodup_ids (performed : Performed graph operation after issued)
    (distinct : (graph.nodes.map Node.id).Nodup) : (after.nodes.map Node.id).Nodup := by
  cases performed with
  | connected _ | disconnected _ | renamed _ | kept _ => exact distinct
  | @added _ stem make adds =>
      have ids : ((graph.addNode stem make).1.nodes.map Node.id) =
          graph.nodes.map Node.id ++ [candidate stem (graph.freshNumber stem)] := by
        simp [addNode, Operation.newNode?_id adds]
      rw [ids]
      refine List.nodup_append.mpr ⟨distinct, List.nodup_singleton _, ?_⟩
      intro id member id' member' same
      obtain ⟨node, there, rfl⟩ := List.mem_map.mp member
      exact ne_candidate_freshNumber graph stem node there
        (same.trans (List.mem_singleton.mp member'))
  | removed id => exact distinct.sublist (List.eraseP_sublist.map Node.id)
  | laidOut =>
      have ids := @map_autoLayout _ Node.id (fun _ _ => rfl) graph
      exact ids.symm ▸ distinct
  | @applied edit stored _ =>
      have keeps (node : Node) : (writeField node edit.field stored).id = node.id := rfl
      exact (map_updateFirst keeps graph.nodes).symm ▸ distinct

/-- The counter never goes back, and an id that is handed out ends in its new value. -/
theorem Performed.counter_le (performed : Performed graph operation after issued) :
    graph.counter ≤ after.counter ∧
      ∀ id, issued = some id → graph.counter < after.counter ∧
        ∃ stem, id = candidate stem after.counter := by
  cases performed with
  | connected _ | disconnected _ | renamed _ | kept _ | removed _ | laidOut | applied _ =>
      exact ⟨Nat.le_refl _, fun _ none => nomatch none⟩
  | @added _ stem make adds =>
      have above := counter_lt_freshNumber graph stem
      exact ⟨Nat.le_of_lt above, fun id same => ⟨above, stem, (Option.some.inj same).symm⟩⟩

theorem nodup_ids_edited (operations : List Operation) :
    ∀ {graph : Graph}, (graph.nodes.map Node.id).Nodup →
      ((graph.edited operations).nodes.map Node.id).Nodup := by
  induction operations with
  | nil => exact fun distinct => distinct
  | cons operation rest ih => exact fun distinct => ih ((performed _ operation).nodup_ids distinct)

/-- An id that is handed out in a run ends in a number above the counter at its beginning. -/
theorem of_mem_issued (operations : List Operation) : ∀ {graph : Graph} {id : String},
    id ∈ graph.issued operations →
      ∃ stem number, id = candidate stem number ∧ graph.counter < number := by
  induction operations with
  | nil => exact fun member => nomatch member
  | cons operation rest ih =>
      intro graph id member
      have step := (performed graph operation).counter_le
      rcases List.mem_append.mp member with now | later
      · obtain ⟨above, stem, same⟩ := step.2 id (Option.mem_toList.mp now)
        exact ⟨stem, _, same, above⟩
      · obtain ⟨stem, number, same, above⟩ := ih later
        exact ⟨stem, number, same, Nat.lt_of_le_of_lt step.1 above⟩

/-- No id is handed out twice in a run. -/
theorem nodup_issued (operations : List Operation) :
    ∀ graph : Graph, (graph.issued operations).Nodup := by
  induction operations with
  | nil => exact fun _ => List.nodup_nil
  | cons operation rest ih =>
      intro graph
      refine List.nodup_append.mpr ⟨?_, ih _, ?_⟩
      · cases (graph.perform operation).2 with
        | none => exact List.nodup_nil
        | some id => exact List.nodup_singleton id
      · intro id now id' later same
        obtain ⟨-, stem, ends⟩ :=
          (performed graph operation).counter_le.2 id (Option.mem_toList.mp now)
        obtain ⟨stem', number, ends', above⟩ := of_mem_issued rest later
        have numbers := (candidate_inj ((ends.symm.trans same).trans ends')).2
        omega

/-- An operation that adds a node appends it, under the next free id. -/
theorem perform_of_newNode? {make : String → Node}
    (adds : operation.newNode? graph.nodes.length = some (stem, make)) :
    graph.perform operation = ((graph.addNode stem make).1, some (graph.addNode stem make).2) := by
  cases operation with
  | addIndicator _ | addLogic | addAction _ =>
      obtain ⟨rfl, rfl⟩ := Prod.mk.inj (Option.some.inj adds)
      rfl
  | connect _ | removeNode _ | removeEdge _ | autoLayout | rename _ | apply _ => cases adds

/-- **However a graph with distinct ids is edited, its ids stay distinct, and no id is handed out
twice**, even after nodes were removed and whatever texts the ids begin with.  At any point of the
run, an operation that adds a node gives an id that no node has, and the search for it ends within
one round more than there are nodes. -/
theorem node_ids_never_repeat {graph : Graph} (distinct : (graph.nodes.map Node.id).Nodup)
    (operations : List Operation) :
    ((graph.edited operations).nodes.map Node.id).Nodup ∧ (graph.issued operations).Nodup ∧
      ∀ (operation : Operation) (stem : String) (make : String → Node),
        operation.newNode? (graph.edited operations).nodes.length = some (stem, make) →
        ∃ number, ∃ rounds ≤ (graph.edited operations).nodes.length + 1,
          Search (graph.edited operations) stem (graph.edited operations).counter rounds number ∧
          (∀ node ∈ (graph.edited operations).nodes, node.id ≠ candidate stem number) ∧
          ((graph.edited operations).perform operation).2 = some (candidate stem number) ∧
          ((graph.edited operations).perform operation).1.nodes =
            (graph.edited operations).nodes ++ [make (candidate stem number)] := by
  refine ⟨nodup_ids_edited operations distinct, nodup_issued operations graph, ?_⟩
  intro operation stem make adds
  obtain ⟨rounds, few, search⟩ := search_freshNumber (graph.edited operations) stem
  rw [perform_of_newNode? adds]
  exact ⟨_, rounds, few, search, ne_candidate_freshNumber _ stem, rfl, rfl⟩

/-- A strategy whose first logic node was imported gets logic nodes 2 and 3, though node 2 was
removed in between. -/
theorem node_ids_never_repeat_afterRemoval :
    let graph : Graph := .ofParts "Imported" [startNode, .bare "logic-1" .logic] []
    let operations : List Operation := [.addLogic, .removeNode "logic-2"]
    (graph.nodes.map Node.id).Nodup ∧
      (graph.issued operations = ["logic-2"] ∧ (graph.issued operations).Nodup) ∧
      ∃ number, ∃ rounds ≤ 3,
        Search (graph.edited operations) "logic" 2 rounds number ∧
        (∀ node ∈ (graph.edited operations).nodes, node.id ≠ candidate "logic" number) ∧
        ((graph.edited operations).perform .addLogic).2 = some (candidate "logic" number) := by
  intro graph operations
  have distinct : (graph.nodes.map Node.id).Nodup := by decide
  have counter : (graph.edited operations).counter = 2 := by decide
  have size : (graph.edited operations).nodes.length = 2 := by decide
  obtain ⟨-, issued, adds⟩ := node_ids_never_repeat distinct operations
  obtain ⟨number, rounds, few, search, fresh, given, -⟩ := adds .addLogic "logic" .newLogic rfl
  rw [size] at few
  rw [counter] at search
  exact ⟨distinct, ⟨by decide, issued⟩, number, rounds, few, search, fresh, given⟩

end Graph

end StrategyDesk
