import PropertyGraph.Element
import PropertyGraph.Query.Request
import PropertyGraph.Text.Numeral

/-!
# A property graph in memory

Nodes and edges stand in the order in which they were added, and are referred to by their
position.  An index leads from the number of a vertex to the position of its node; of nodes
with one number it knows the last.
-/

namespace PropertyGraph.Embedded

/-- A vertex of the graph, with the number it is stored under. -/
structure Node where
  id : Int
  labels : List String
  properties : PropertyMap

/-- What an edge of the graph carries, with the number it is stored under. -/
structure EdgeData where
  id : Int
  edgeType : String
  properties : PropertyMap

/-- An edge and the positions of the nodes it joins. -/
structure Arc where
  source : Nat
  target : Nat
  data : EdgeData

/-- Whether every entry of `expected` is present with an equal value. -/
def satisfies (properties expected : PropertyMap) : Bool :=
  expected.entries.all fun e =>
    match properties.get? e.1 with
    | some v => v == e.2
    | none => false

/-- The number that an identifier denotes. -/
def storedId? (id : Identifier) : Option Int := Text.signed64? id.text

namespace Node

/-- Whether the node carries every given label. -/
def hasLabels (n : Node) (labels : List String) : Bool := labels.all n.labels.contains

/-- Whether the node carries every label and satisfies every map. -/
def fits (n : Node) (labels : List String) (constraints : List PropertyMap) : Bool :=
  n.hasLabels labels && constraints.all (satisfies n.properties)

/-- The node as a vertex. -/
def toVertex (n : Node) : Vertex where
  id := some (Identifier.ofInt n.id)
  labels := n.labels
  properties := n.properties

end Node

/-- A graph: nodes, arcs, and the positions of nodes by their number. -/
structure Graph where
  nodes : List Node := []
  arcs : List Arc := []
  index : List (Int × Nat) := []

namespace Graph

/-- The graph without nodes. -/
def empty : Graph := {}

instance : Inhabited Graph := ⟨empty⟩

/-- The graph with all nodes and arcs taken out, and the index with them. -/
def clear (g : Graph) : Graph := { g with nodes := [], arcs := [], index := [] }

/-- The position of the node with a number. -/
def position? (g : Graph) (id : Int) : Option Nat := g.index.lookup id

/-- Enters a position into an index, in place of an earlier one. -/
def enter (id : Int) (position : Nat) (index : List (Int × Nat)) : List (Int × Nat) :=
  (id, position) :: index.filter fun e => e.1 != id

/-- The graph with one more node. -/
def addNode (g : Graph) (n : Node) : Graph where
  nodes := g.nodes ++ [n]
  arcs := g.arcs
  index := enter n.id g.nodes.length g.index

/-- The graph with one more edge, whose endpoints have to be known. -/
def addEdge? (g : Graph) (source target : Int) (data : EdgeData) : Option Graph :=
  match g.position? source, g.position? target with
  | some s, some t => some { g with arcs := g.arcs ++ [⟨s, t, data⟩] }
  | _, _ => none

/-- The node at a position. -/
def node? (g : Graph) (position : Nat) : Option Node := g.nodes[position]?

/-- The arc at a position. -/
def arc? (g : Graph) (position : Nat) : Option Arc := g.arcs[position]?

/-- The positions of the elements that satisfy a test, in order. -/
def positions {α : Type} (p : α → Bool) (xs : List α) : List Nat :=
  (xs.zipIdx.filter fun x => p x.1).map Prod.snd

/-- The positions of the nodes that carry the labels and satisfy the maps. -/
def findNodes (g : Graph) (labels : List String) (constraints : List PropertyMap) : List Nat :=
  positions (fun n => n.fits labels constraints) g.nodes

/-- Whether an arc leads from one position to another, is of a type and satisfies a map. -/
def joins (source target : Nat) (edgeType : String) (properties : PropertyMap) (a : Arc) : Bool :=
  a.source == source && a.target == target && a.data.edgeType == edgeType &&
    satisfies a.data.properties properties

/-- The position of the arc added last of those that lead from one node to another, are of a
type and satisfy a map. -/
def findEdge (g : Graph) (source target : Nat) (edgeType : String) (properties : PropertyMap) :
    Option Nat :=
  (positions (joins source target edgeType properties) g.arcs).getLast?

/-- Whether the node at a position carries labels and satisfies selectors and filters. -/
def nodeFits (g : Graph) (position : Nat) (labels : List String)
    (selectors filters : PropertyMap) : Bool :=
  match g.node? position with
  | some n => n.fits labels [selectors, filters]
  | none => false

/-- Whether two nodes can be the start and the end that a request asks for. -/
def orientedFits (g : Graph) (r : EdgeRequest) (first last : Nat) : Bool :=
  g.nodeFits first r.startLabels r.startSelectors r.startFilters &&
    g.nodeFits last r.endLabels r.endSelectors r.endFilters

/-- Whether an arc is of the type of a request and satisfies its selectors and filters. -/
def dataFits (r : EdgeRequest) (data : EdgeData) : Bool :=
  data.edgeType == r.label && satisfies data.properties r.selectors &&
    satisfies data.properties r.filters

/-- Whether an arc fits a request, in one direction or the other. -/
def arcFits (g : Graph) (r : EdgeRequest) (a : Arc) : Bool :=
  dataFits r a.data && (g.orientedFits r a.source a.target || g.orientedFits r a.target a.source)

/-- The positions of the arcs that fit a request, in order. -/
def findEdges (g : Graph) (r : EdgeRequest) : List Nat := positions (g.arcFits r) g.arcs

/-- The vertex at a position. -/
def vertex? (g : Graph) (position : Nat) : Option Vertex := (g.node? position).map Node.toVertex

/-- An arc as an edge between two nodes. -/
def toEdge (data : EdgeData) (source target : Node) : FetchMode → Edge
  | .vertexIds =>
    { id := some (Identifier.ofInt data.id)
      edgeType := data.edgeType
      sourceId := some (Identifier.ofInt source.id)
      destinationId := some (Identifier.ofInt target.id)
      properties := data.properties }
  | .completeVertex =>
    { id := some (Identifier.ofInt data.id)
      edgeType := data.edgeType
      sourceId := some (Identifier.ofInt source.id)
      source := some source.toVertex
      destinationId := some (Identifier.ofInt target.id)
      destination := some target.toVertex
      properties := data.properties }

/-- The edge at a position, in its stored direction. -/
def edge? (g : Graph) (position : Nat) (mode : FetchMode) : Option Edge := do
  let a ← g.arc? position
  let source ← g.node? a.source
  let target ← g.node? a.target
  some (toEdge a.data source target mode)

end Graph
end PropertyGraph.Embedded
