import PropertyGraph.Element
import PropertyGraph.Query.VertexPattern
import PropertyGraph.Query.EdgePattern

/-!
# Statements for databases that take query text

Each operation on a remote graph is one statement.  Results are bound to fixed variables, so
that rows can be read without knowing the request: `v` for a vertex that is asked for, `r`
for an edge, `sv` and `ev` for its endpoints, and `rel` for an edge that is stored.
-/

namespace PropertyGraph.Query

/-- The variable of a vertex that is asked for. -/
def vertexVariable : String := "v"

/-- The variable of an edge that is asked for. -/
def edgeVariable : String := "r"

/-- The variable of the start vertex. -/
def startVariable : String := "sv"

/-- The variable of the end vertex. -/
def endVariable : String := "ev"

/-- The variable of an edge that is stored. -/
def storedEdgeVariable : String := "rel"

/-- Asks for the vertices with a label. -/
def matchVertex (label : String) (selectors filters : PropertyMap) : Except GraphError String :=
  (VertexPattern.ofSettings [
    .queryMode .read,
    .label label,
    .selector selectors,
    .filters filters,
    .variableName vertexVariable]).build

/-- The names given to the endpoints of a request: fixed ones when they are fetched in full. -/
def endpointNames : FetchMode → List EdgeSetting
  | .completeVertex => [.startVariableName startVariable, .endVariableName endVariable]
  | .vertexIds => []

/-- Asks for the edges of a request. -/
def matchEdge (r : EdgeRequest) : Except GraphError String :=
  ((EdgePattern.ofRequest r).setAll
    ([.queryMode .read, .variableName edgeVariable] ++ endpointNames r.fetchMode)).build

/-- The properties that have a value; a pattern must not name a null property. -/
def present (properties : PropertyMap) : PropertyMap := properties.filter fun _ v => !v.isNull

/-- Stores one vertex. -/
def storeVertex (v : Vertex) (mode : WriteMode) : Except GraphError String :=
  (VertexPattern.ofSettings [
    .queryMode .write,
    .labels v.labels,
    .selector (present v.properties),
    .variableName startVariable,
    .writeMode mode]).build

/-- An edge is stored with both of its endpoints in full. -/
def missingEndpoint (role : String) : GraphError :=
  .validation .missingEndpoint (role ++ " vertex must be specified for an edge")

/-- The endpoints of an edge that is to be stored. -/
def endpoints (e : Edge) : Except GraphError (Vertex × Vertex) :=
  match e.source, e.destination with
  | none, _ => .error (missingEndpoint "source")
  | _, none => .error (missingEndpoint "destination")
  | some source, some destination => .ok (source, destination)

/-- Stores one edge and its endpoints.  Edges are always merged. -/
def storeEdge (e : Edge) : Except GraphError String :=
  match endpoints e with
  | .error err => .error err
  | .ok (source, destination) =>
    (EdgePattern.setAll {} [
      .queryMode .write,
      .fetchMode .completeVertex,
      .startLabels source.labels,
      .startSelector (present source.properties),
      .startVariableName startVariable,
      .endLabels destination.labels,
      .endSelector (present destination.properties),
      .endVariableName endVariable,
      .label e.edgeType,
      .selector (present e.properties),
      .variableName storedEdgeVariable]).build

end PropertyGraph.Query
