import PropertyGraph.Element
import PropertyGraph.Error
import PropertyGraph.Json.Text
import PropertyGraph.Json.Source
import PropertyGraph.Text.Numeral

/-!
# Stored rows

The rows of a graph in their database: one table of vertices and one of edges, with labels
and properties as JSON text.  Numbers are handed out in ascending order and never again; an
edge joins two stored vertices and goes with either of them.
-/

namespace PropertyGraph.Embedded

/-- A stored vertex. -/
structure VertexRow where
  id : Int
  labels : String
  properties : String
  deriving DecidableEq, Repr

/-- A stored edge. -/
structure EdgeRow where
  id : Int
  sourceId : Int
  targetId : Int
  edgeType : String
  properties : String
  deriving DecidableEq, Repr

/-- The two tables, and the greatest number that each of them has ever held. -/
structure Tables where
  vertices : List VertexRow := []
  edges : List EdgeRow := []
  lastVertexId : Int := 0
  lastEdgeId : Int := 0
  deriving DecidableEq, Repr, Inhabited

/-- The database refused an operation. -/
def storageError (reason : String) : GraphError :=
  .connection .operationFailed "sqlite operation failed" (some reason)

namespace Tables

/-- The tables with a vertex put in as it is. -/
def putVertex (t : Tables) (row : VertexRow) : Tables :=
  { t with vertices := t.vertices ++ [row], lastVertexId := max t.lastVertexId row.id }

/-- The tables with an edge put in as it is. -/
def putEdge (t : Tables) (row : EdgeRow) : Tables :=
  { t with edges := t.edges ++ [row], lastEdgeId := max t.lastEdgeId row.id }

/-- Whether a vertex is stored. -/
def hasVertex (t : Tables) (id : Int) : Bool := t.vertices.any fun row => row.id == id

/-- The number after the greatest one, unless there is none. -/
def nextId (last : Int) : Except GraphError Int :=
  if Text.int64Max ≤ last then .error (storageError "database or disk is full") else .ok (last + 1)

/-- Stores a vertex under a new number. -/
def saveVertex (t : Tables) (labels : List String) (properties : PropertyMap) :
    Except GraphError (Int × Tables) :=
  match nextId t.lastVertexId with
  | .error e => .error e
  | .ok id =>
    .ok (id, t.putVertex ⟨id, (Json.texts labels).text, (Json.ofDict properties).text⟩)

/-- Stores an edge between two stored vertices under a new number. -/
def saveEdge (t : Tables) (source target : Int) (edgeType : String) (properties : PropertyMap) :
    Except GraphError (Int × Tables) :=
  match nextId t.lastEdgeId with
  | .error e => .error e
  | .ok id =>
    if t.hasVertex source && t.hasVertex target then
      .ok (id, t.putEdge ⟨id, source, target, edgeType, (Json.ofDict properties).text⟩)
    else .error (storageError "FOREIGN KEY constraint failed")

end Tables
end PropertyGraph.Embedded
