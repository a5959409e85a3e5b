import PropertyGraph.Connection
import PropertyGraph.Embedded.Loading

/-!
# The state of an embedded graph

The stored rows and the graph in memory are kept in step: what is stored is also added to the
graph, under the number that the rows gave it.  Merging looks for an element that has
everything the new one has, and reuses it.

Both ends of an edge are checked before anything is written.
-/

namespace PropertyGraph.Embedded

/-- Stored rows and their graph. -/
structure State where
  tables : Tables := {}
  graph : Graph := {}

/-- An endpoint of an edge that is to be stored. -/
inductive Role
  | source
  | destination
  deriving DecidableEq, Repr

/-- How an endpoint is called. -/
def Role.text : Role → String
  | .source => "source"
  | .destination => "destination"

/-- An endpoint after its check: a stored vertex, or the vertex that the edge comes with, which
is still to be stored. -/
inductive Endpoint
  | stored (id : Int)
  | fresh
  deriving DecidableEq, Repr

/-- A vertex without labels cannot be stored. -/
def unlabelled (what : String) : GraphError :=
  .validation .missingLabel (what ++ " has no labels")

/-- An endpoint is not among the stored vertices. -/
def endpointNotFound (role : Role) : GraphError :=
  .validation .missingEndpoint (role.text ++ " vertex not found")

/-- An edge came with a vertex when its endpoint was checked, and without one when that was to
be stored. -/
def vanished (role : Role) : GraphError :=
  .internal (role.text ++ " vertex vanished while storing an edge")

/-- An edge without a type cannot be stored. -/
def untyped : GraphError := .validation .missingLabel "edge has no type"

/-- An edge was stored but its endpoints are not in the graph. -/
def notIndexed (id : Int) : GraphError :=
  .internal ("edge " ++ toString id ++ " stored without indexed endpoints")

namespace State

/-- The state of stored rows. -/
def ofTables (t : Tables) : Except GraphError State :=
  match Graph.load t with
  | .error e => .error e
  | .ok g => .ok ⟨t, g⟩

/-- The number of the first vertex that carries the labels and satisfies the properties. -/
def existingVertex? (s : State) (labels : List String) (properties : PropertyMap) : Option Int :=
  (s.graph.findNodes labels [properties]).findSome? fun i => (s.graph.node? i).map Node.id

/-- Stores a vertex under a new number. -/
def insertVertex (s : State) (labels : List String) (properties : PropertyMap) :
    Reply State Int :=
  match s.tables.saveVertex labels properties with
  | .error e => (.error e, s)
  | .ok (id, tables) => (.ok id, ⟨tables, s.graph.addNode ⟨id, labels, properties⟩⟩)

/-- Stores a vertex, or finds one to reuse when merging. -/
def upsertVertex (mode : WriteMode) (s : State) (labels : List String)
    (properties : PropertyMap) : Reply State Int :=
  match mode with
  | .create => s.insertVertex labels properties
  | .merge =>
    match s.existingVertex? labels properties with
    | some id => (.ok id, s)
    | none => s.insertVertex labels properties

/-- Checks an endpoint without writing anything.  A vertex without an identifier is to be
stored and needs a label; any other has to be stored already. -/
def checkEndpoint (s : State) (role : Role) (vertex : Option Vertex) (id : Option Identifier) :
    Except GraphError Endpoint :=
  let known (id : Option Identifier) : Except GraphError Endpoint :=
    match id.bind storedId? with
    | some n =>
      if (s.graph.position? n).isSome then .ok (.stored n) else .error (endpointNotFound role)
    | none => .error (endpointNotFound role)
  match vertex with
  | some v =>
    match v.id with
    | some vid => known (some vid)
    | none =>
      if v.labels.isEmpty then .error (unlabelled (role.text ++ " vertex"))
      else .ok .fresh
  | none => known id

/-- Stores the vertex of an endpoint that is not stored yet. -/
def settle (mode : WriteMode) (s : State) (role : Role) (vertex : Option Vertex) :
    Endpoint → Reply State Int
  | .stored id => (.ok id, s)
  | .fresh =>
    match vertex with
    | none => (.error (vanished role), s)
    | some v => s.upsertVertex mode v.labels v.properties

/-- The number of the arc that merging reuses. -/
def existingEdge? (s : State) (source target : Int) (edgeType : String)
    (properties : PropertyMap) : Option Int := do
  let first ← s.graph.position? source
  let last ← s.graph.position? target
  let i ← s.graph.findEdge first last edgeType properties
  let a ← s.graph.arc? i
  some a.data.id

/-- Stores an edge between two stored vertices under a new number. -/
def insertEdge (s : State) (source target : Int) (edgeType : String)
    (properties : PropertyMap) : Reply State Int :=
  match s.tables.saveEdge source target edgeType properties with
  | .error e => (.error e, s)
  | .ok (id, tables) =>
    -- The rows know both endpoints here, so the graph knows them unless the two differ.
    match s.graph.addEdge? source target ⟨id, edgeType, properties⟩ with
    | none => (.error (notIndexed id), { s with tables })
    | some graph => (.ok id, ⟨tables, graph⟩)

/-- Stores an edge between two stored vertices, or finds one to reuse when merging. -/
def upsertEdge (mode : WriteMode) (s : State) (source target : Int) (edgeType : String)
    (properties : PropertyMap) : Reply State Int :=
  match mode with
  | .create => s.insertEdge source target edgeType properties
  | .merge =>
    match s.existingEdge? source target edgeType properties with
    | some id => (.ok id, s)
    | none => s.insertEdge source target edgeType properties

/-- Stores a vertex. -/
def storeVertex (mode : WriteMode) (s : State) (v : Vertex) : Stored Vertex × State :=
  if v.labels.isEmpty then (⟨.error (unlabelled "vertex"), v⟩, s)
  else
    match s.upsertVertex mode v.labels v.properties with
    | (.error e, s) => (⟨.error e, v⟩, s)
    | (.ok id, s) => (⟨.ok (), v.withId (Identifier.ofInt id)⟩, s)

/-- A vertex after it was settled as an endpoint: a fresh one takes its identifier. -/
def settled (endpoint : Endpoint) (id : Int) (vertex : Option Vertex) : Option Vertex :=
  match endpoint with
  | .stored _ => vertex
  | .fresh => vertex.map fun v => v.withId (Identifier.ofInt id)

/-- Stores an edge whose endpoints were checked. -/
def storeChecked (mode : WriteMode) (s : State) (e : Edge) (source destination : Endpoint) :
    Stored Edge × State :=
  match s.settle mode .source e.source source with
  | (.error err, s) => (⟨.error err, e⟩, s)
  | (.ok sourceId, s) =>
    -- The source is stored by now and keeps its identifier, whatever follows.
    let e := { e with source := settled source sourceId e.source }
    match s.settle mode .destination e.destination destination with
    | (.error err, s) => (⟨.error err, e⟩, s)
    | (.ok targetId, s) =>
      let e := { e with destination := settled destination targetId e.destination }
      match s.upsertEdge mode sourceId targetId e.edgeType e.properties with
      | (.error err, s) => (⟨.error err, e⟩, s)
      | (.ok id, s) =>
        (⟨.ok (),
          { e with
            id := some (Identifier.ofInt id)
            sourceId := some (Identifier.ofInt sourceId)
            destinationId := some (Identifier.ofInt targetId) }⟩, s)

/-- Stores an edge and those of its endpoints that are not stored yet. -/
def storeEdge (mode : WriteMode) (s : State) (e : Edge) : Stored Edge × State :=
  if e.edgeType.isEmpty then (⟨.error untyped, e⟩, s)
  else
    match s.checkEndpoint .source e.source e.sourceId with
    | .error err => (⟨.error err, e⟩, s)
    | .ok source =>
      match s.checkEndpoint .destination e.destination e.destinationId with
      | .error err => (⟨.error err, e⟩, s)
      | .ok destination => s.storeChecked mode e source destination

/-- The vertices with a label that satisfy selectors and filters. -/
def queryVertex (s : State) (label : String) (selectors filters : PropertyMap) :
    Except GraphError (List Vertex) :=
  if label.isEmpty then .error (.validation .missingLabel "vertex label is required")
  else .ok ((s.graph.findNodes [label] [selectors, filters]).filterMap s.graph.vertex?)

/-- The edges of a request. -/
def queryEdge (s : State) (r : EdgeRequest) : Except GraphError (List Edge) :=
  if r.label.isEmpty then .error (.validation .missingLabel "edge label is required")
  else .ok ((s.graph.findEdges r).filterMap fun i => s.graph.edge? i r.fetchMode)

end State
end PropertyGraph.Embedded
