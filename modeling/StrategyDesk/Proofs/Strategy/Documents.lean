import StrategyDesk.Proofs.Json.RoundTrips
import StrategyDesk.Proofs.Timestamps
import StrategyDesk.Strategy.Document

/-!
# Documents that are read back

The text of a strategy document is read as the document with its numbers reread, if all positions
are finite.

## Main Definitions

* `Position.reread`, `DocumentNode.reread`, `Document.reread` — what a document is read back as

## Main Statements

* `Wire.rereads_document` — a document with finite positions is read back
-/

namespace StrategyDesk

/-! ## Rereading -/

/-- Both coordinates are numbers in documents. -/
def Position.IsFinite (position : Position) : Prop :=
  position.x.isFinite = true ∧ position.y.isFinite = true

/-- The position that a position is read back as. -/
def Position.reread (position : Position) : Position := ⟨position.x.reread, position.y.reread⟩

theorem Position.IsFinite.reread {position : Position} (finite : position.IsFinite) :
    position.reread.IsFinite :=
  ⟨Binary64.isFinite_reread finite.1, Binary64.isFinite_reread finite.2⟩

/-- The node that a node of a document is read back as. -/
def DocumentNode.reread (node : DocumentNode) : DocumentNode :=
  { node with data := node.data.reread, position := node.position.reread }

/-- The document that a document is read back as. -/
def Document.reread (document : Document) : Document :=
  { document with nodes := document.nodes.map DocumentNode.reread }

namespace Wire

theorem rereads_position {position : Position} (finite : position.IsFinite) :
    Rereads position position.reread := by
  have first := rereads_binary64 finite.1
  have second := rereads_binary64 finite.2
  refine ⟨Json.legible_record ?_, (Json.reread_record _).trans ?_, ?_⟩
  · simp [always, first.legible, second.legible]
  · simp only [always, List.map_cons, List.map_nil, Option.map_some, first.reread, second.reread]
    rfl
  · refine Json.read_record rfl (by simp) ?_
    simp [always, Slot.required, Position.reread, first.read, second.read]

/-- An optional text is read back, whether it is written or not. -/
theorem roundTrips_text? (text : Option String) : RoundTrips text := by
  cases text with
  | none => exact roundTrips_none
  | some text => exact (roundTrips_string text).some nofun

theorem roundTrips_edge (edge : Edge) : RoundTrips edge := by
  refine ⟨?_, Json.stable_record ?_⟩
  · refine Json.read_record rfl (by simp) ?_
    simp [always, Slot.required, (roundTrips_text? _).optional_given, (roundTrips_string _).read]
  · simp [always, (roundTrips_text? _).stable, (roundTrips_string _).stable]

/-- A node of a document is read back if its position is finite. -/
theorem rereads_documentNode {node : DocumentNode} (finite : node.position.IsFinite) :
    Rereads node node.reread := by
  have id := (roundTrips_string node.id).rereads
  have type := roundTrips_text? node.type
  have data := rereads_paramMap node.data
  have position := rereads_position finite
  refine ⟨Json.legible_record ?_, (Json.reread_record _).trans ?_, ?_⟩
  · simpa [always, whenPresent, id.legible, data.legible, position.legible] using
      type.legible_of_mem
  · simp only [always, whenPresent, List.map_cons, List.map_nil, Option.map_some, id.reread,
      type.map_reread, data.reread, position.reread]
    rfl
  · refine Json.read_record rfl (by simp) ?_
    simp [always, whenPresent, Slot.required, Slot.orElse, DocumentNode.reread, id.read,
      type.optional_ofField, data.read, position.read]

/-- **A document is read back if the positions of its nodes are finite**, and its moment is one. -/
theorem rereads_document {document : Document}
    (finite : ∀ node ∈ document.nodes, node.position.IsFinite)
    (moment : ∀ t ∈ document.exportedAt, t.IsMoment) : Rereads document document.reread := by
  have name := (roundTrips_text? document.name).rereads
  have nodes : Rereads document.nodes (document.nodes.map DocumentNode.reread) :=
    rereads_list fun node member => rereads_documentNode (finite node member)
  have edges : Rereads document.edges document.edges := by
    have back := rereads_list fun edge (_ : edge ∈ document.edges) => (roundTrips_edge edge).rereads
    rwa [List.map_id'] at back
  have version := roundTrips_text? document.version
  have exported : RoundTrips document.exportedAt := by
    cases exported : document.exportedAt with
    | none => exact roundTrips_none
    | some t => exact (roundTrips_timestamp (moment t exported)).some nofun
  refine ⟨Json.legible_record ?_, (Json.reread_record _).trans ?_, ?_⟩
  · have legible := And.intro version.legible_of_mem exported.legible_of_mem
    simpa [always, whenPresent, name.legible, nodes.legible, edges.legible] using legible
  · simp only [always, whenPresent, List.map_cons, List.map_nil, Option.map_some, name.reread,
      nodes.reread, edges.reread, version.map_reread, exported.map_reread]
    rfl
  · refine Json.read_record rfl (by simp) ?_
    simp [always, whenPresent, Slot.orElse, Document.reread, (roundTrips_text? _).optional_given,
      nodes.read, edges.read, version.optional_ofField, exported.optional_ofField]

end Wire

end StrategyDesk
