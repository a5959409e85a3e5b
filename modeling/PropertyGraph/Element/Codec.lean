import PropertyGraph.Element
import PropertyGraph.Query.Request
import PropertyGraph.Json.Source
import PropertyGraph.Json.Reader

/-!
# The JSON form of elements, modes and results

Each type has one JSON form, in which absent parts are left out, and is read from any source.
-/

namespace PropertyGraph

variable {τ : Type}

/-- The names of the query modes. -/
def QueryMode.names : List (String × QueryMode) := [("read", .read), ("write", .write)]

/-- The names of the write modes. -/
def WriteMode.names : List (String × WriteMode) := [("merge", .merge), ("create", .create)]

/-- The names of the fetch modes. -/
def FetchMode.names : List (String × FetchMode) :=
  [("vertex_ids", .vertexIds), ("complete_vertex", .completeVertex)]

/-- The name of a query mode. -/
def QueryMode.text : QueryMode → String
  | .read => "read"
  | .write => "write"

/-- The name of a write mode. -/
def WriteMode.text : WriteMode → String
  | .merge => "merge"
  | .create => "create"

/-- The name of a fetch mode. -/
def FetchMode.text : FetchMode → String
  | .vertexIds => "vertex_ids"
  | .completeVertex => "complete_vertex"

/-- The capitalised name of a write mode. -/
def WriteMode.title : WriteMode → String
  | .merge => "Merge"
  | .create => "Create"

namespace Identifier

/-- An identifier is its text. -/
def toJson (id : Identifier) : Json := .string id.text

@[inherit_doc toJson]
def read? (src : Source τ) (t : τ) : Option Identifier := (src.text? t).map Identifier.mk

end Identifier

namespace Vertex

/-- The JSON form of a vertex. -/
def toJson (v : Vertex) : Json :=
  Json.struct [
    ("id", v.id.map Identifier.toJson),
    ("labels", some (Json.texts v.labels)),
    ("properties", some (Json.ofDict v.properties))]

/-- The fields of a vertex, in order. -/
def fieldNames : List String := ["id", "labels", "properties"]

/-- Reads a vertex; without properties it has none. -/
def read? (src : ValueSource τ) (t : τ) : Option Vertex := do
  let part ← src.struct? fieldNames t
  let id ← src.optional? (Identifier.read? src.toSource) (part "id")
  let labels ← Source.required? src.texts? (part "labels")
  let properties ← Source.defaulted? ∅ src.properties? (part "properties")
  some { id, labels, properties }

end Vertex

namespace Edge

/-- The JSON form of an edge. -/
def toJson (e : Edge) : Json :=
  Json.struct [
    ("id", e.id.map Identifier.toJson),
    ("edge_type", some (.string e.edgeType)),
    ("source_id", e.sourceId.map Identifier.toJson),
    ("source", e.source.map Vertex.toJson),
    ("destination_id", e.destinationId.map Identifier.toJson),
    ("destination", e.destination.map Vertex.toJson),
    ("properties", some (Json.ofDict e.properties))]

/-- The fields of an edge, in order. -/
def fieldNames : List String :=
  ["id", "edge_type", "source_id", "source", "destination_id", "destination", "properties"]

/-- Reads an edge; without properties it has none. -/
def read? (src : ValueSource τ) (t : τ) : Option Edge := do
  let part ← src.struct? fieldNames t
  let id ← src.optional? (Identifier.read? src.toSource) (part "id")
  let edgeType ← Source.required? src.text? (part "edge_type")
  let sourceId ← src.optional? (Identifier.read? src.toSource) (part "source_id")
  let source ← src.optional? (Vertex.read? src) (part "source")
  let destinationId ← src.optional? (Identifier.read? src.toSource) (part "destination_id")
  let destination ← src.optional? (Vertex.read? src) (part "destination")
  let properties ← Source.defaulted? ∅ src.properties? (part "properties")
  some { id, edgeType, sourceId, source, destinationId, destination, properties }

end Edge

namespace EdgeRequest

/-- The JSON form of a request, with every field. -/
def toJson (r : EdgeRequest) : Json :=
  Json.struct [
    ("label", some (.string r.label)),
    ("start_labels", some (Json.texts r.startLabels)),
    ("end_labels", some (Json.texts r.endLabels)),
    ("start_selectors", some (Json.ofDict r.startSelectors)),
    ("end_selectors", some (Json.ofDict r.endSelectors)),
    ("selectors", some (Json.ofDict r.selectors)),
    ("start_filters", some (Json.ofDict r.startFilters)),
    ("end_filters", some (Json.ofDict r.endFilters)),
    ("filters", some (Json.ofDict r.filters)),
    ("params", some (Json.ofDict r.params)),
    ("fetch_mode", some (.string r.fetchMode.text))]

/-- The fields of a request, in order. -/
def fieldNames : List String :=
  ["label", "start_labels", "end_labels", "start_selectors", "end_selectors", "selectors",
    "start_filters", "end_filters", "filters", "params", "fetch_mode"]

/-- Reads a request, of which only the label has to be given. -/
def read? (src : ValueSource τ) (t : τ) : Option EdgeRequest := do
  let part ← src.struct? fieldNames t
  let texts := fun name => Source.defaulted? [] src.texts? (part name)
  let properties := fun name => Source.defaulted? ∅ src.properties? (part name)
  let label ← Source.required? src.text? (part "label")
  let startLabels ← texts "start_labels"
  let endLabels ← texts "end_labels"
  let startSelectors ← properties "start_selectors"
  let endSelectors ← properties "end_selectors"
  let selectors ← properties "selectors"
  let startFilters ← properties "start_filters"
  let endFilters ← properties "end_filters"
  let filters ← properties "filters"
  let params ← properties "params"
  let fetchMode ← Source.defaulted? .vertexIds (src.oneOf? FetchMode.names) (part "fetch_mode")
  some {
    label, startLabels, endLabels, startSelectors, endSelectors, selectors, startFilters
    endFilters, filters, params, fetchMode }

end EdgeRequest

namespace QueryResult

/-- The JSON form of a query result. -/
def toJson (r : QueryResult) : Json :=
  Json.struct [("rows", some (.array (r.rows.map Json.ofDict)))]

/-- Reads a query result. -/
def read? (src : ValueSource τ) (t : τ) : Option QueryResult := do
  let part ← src.struct? ["rows"] t
  let items ← Source.required? src.items? (part "rows")
  let rows ← items.mapM src.properties?
  some { rows }

end QueryResult

/-- Reads a typed value from JSON text. -/
def Json.decode? {α : Type} (read : Nested → Option α) (s : String) : Option α :=
  (Json.document? s).bind fun d => read ⟨Document.maxDepth, d⟩

end PropertyGraph
