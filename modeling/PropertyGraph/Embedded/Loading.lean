import PropertyGraph.Element.Codec
import PropertyGraph.Embedded.Graph
import PropertyGraph.Embedded.Tables

/-!
# Loading a graph

The graph of stored rows: a node for each vertex and an arc for each edge, both in ascending
order of their numbers.  Edges whose endpoints are not stored are left out, but their text
has to be readable all the same.  A graph that is loaded again keeps nothing of what it held.
-/

namespace PropertyGraph.Embedded

/-- Stored text is not what it should be. -/
def unreadable (what : String) : GraphError := .serialization ("stored " ++ what ++ " not readable")

/-- Reads stored labels. -/
def readLabels (s : String) : Except GraphError (List String) :=
  match Json.decode? Nested.source.texts? s with
  | some labels => .ok labels
  | none => .error (unreadable "labels")

/-- Reads stored properties. -/
def readProperties (s : String) : Except GraphError PropertyMap :=
  match Json.decode? Nested.source.properties? s with
  | some properties => .ok properties
  | none => .error (unreadable "properties")

/-- The node of a stored vertex. -/
def VertexRow.toNode (row : VertexRow) : Except GraphError Node :=
  match readLabels row.labels with
  | .error e => .error e
  | .ok labels =>
    match readProperties row.properties with
    | .error e => .error e
    | .ok properties => .ok ⟨row.id, labels, properties⟩

/-- What a stored edge carries. -/
def EdgeRow.toData (row : EdgeRow) : Except GraphError EdgeData :=
  match readProperties row.properties with
  | .error e => .error e
  | .ok properties => .ok ⟨row.id, row.edgeType, properties⟩

namespace Graph

/-- Adds stored vertices in the given order. -/
def addRows (g : Graph) : List VertexRow → Except GraphError Graph
  | [] => .ok g
  | row :: rest =>
    match row.toNode with
    | .error e => .error e
    | .ok n => addRows (g.addNode n) rest

/-- Adds stored edges in the given order, leaving out those without endpoints. -/
def addEdgeRows (g : Graph) : List EdgeRow → Except GraphError Graph
  | [] => .ok g
  | row :: rest =>
    match row.toData with
    | .error e => .error e
    | .ok data => addEdgeRows ((g.addEdge? row.sourceId row.targetId data).getD g) rest

/-- Adds stored rows: the vertices and then the edges, both in ascending order of their
numbers. -/
def addTables (g : Graph) (t : Tables) : Except GraphError Graph :=
  match addRows g (t.vertices.mergeSort fun a b => decide (a.id ≤ b.id)) with
  | .error e => .error e
  | .ok g => addEdgeRows g (t.edges.mergeSort fun a b => decide (a.id ≤ b.id))

/-- The graph of stored rows. -/
def load (t : Tables) : Except GraphError Graph := addTables empty t

/-- Loads stored rows into a graph, in place of what it held. -/
def reload (g : Graph) (t : Tables) : Except GraphError Graph := addTables g.clear t

end Graph
end PropertyGraph.Embedded
