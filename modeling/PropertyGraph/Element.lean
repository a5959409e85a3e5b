import PropertyGraph.Json.Value

/-!
# Vertices and edges

The elements of a property graph as they travel to and from a database.  An identifier is
whatever text the database reports; an element has none until it is stored.
-/

namespace PropertyGraph

/-- The identifier that a database gave to an element. -/
structure Identifier where
  text : String
  deriving DecidableEq, Repr

namespace Identifier

/-- The identifier that a number is written as. -/
def ofInt (n : Int) : Identifier := ⟨toString n⟩

end Identifier

/-- A vertex. -/
structure Vertex where
  id : Option Identifier := none
  labels : List String
  properties : PropertyMap := ∅

/-- An edge, with its endpoints by identifier, in full, or both. -/
structure Edge where
  id : Option Identifier := none
  edgeType : String
  sourceId : Option Identifier := none
  source : Option Vertex := none
  destinationId : Option Identifier := none
  destination : Option Vertex := none
  properties : PropertyMap := ∅

namespace Vertex

/-- A vertex with labels only. -/
def ofLabels (labels : List String) : Vertex := { labels }

/-- The vertex with an identifier. -/
def withId (v : Vertex) (id : Identifier) : Vertex := { v with id := some id }

/-- The vertex with one property set. -/
def withProperty (v : Vertex) (key : String) (value : Json) : Vertex :=
  { v with properties := v.properties.insert key value }

/-- The vertex with its properties replaced. -/
def withProperties (v : Vertex) (properties : PropertyMap) : Vertex := { v with properties }

/-- Whether the vertex carries every given label. -/
def hasLabels (v : Vertex) (labels : List String) : Bool := labels.all v.labels.contains

end Vertex

namespace Edge

/-- An edge with a type only. -/
def ofType (edgeType : String) : Edge := { edgeType }

/-- The edge with an identifier. -/
def withId (e : Edge) (id : Identifier) : Edge := { e with id := some id }

/-- The edge with a source vertex, whose identifier it takes over. -/
def withSource (e : Edge) (v : Vertex) : Edge := { e with sourceId := v.id, source := some v }

/-- The edge with a destination vertex, whose identifier it takes over. -/
def withDestination (e : Edge) (v : Vertex) : Edge :=
  { e with destinationId := v.id, destination := some v }

/-- The edge with its endpoints known by identifier. -/
def withEndpointIds (e : Edge) (source destination : Identifier) : Edge :=
  { e with sourceId := some source, destinationId := some destination }

/-- The edge with one property set. -/
def withProperty (e : Edge) (key : String) (value : Json) : Edge :=
  { e with properties := e.properties.insert key value }

/-- The edge with its properties replaced. -/
def withProperties (e : Edge) (properties : PropertyMap) : Edge := { e with properties }

/-- The labels of an edge: its type alone. -/
def labels (e : Edge) : List String := [e.edgeType]

end Edge
end PropertyGraph
