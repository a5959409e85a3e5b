import PropertyGraph.Config
import PropertyGraph.Connection
import PropertyGraph.Element.Codec
import PropertyGraph.Embedded.State

/-!
# Embedded sessions

A session is an open embedded graph.  A graph that is kept in a file is loaded on opening; a
graph in memory starts empty and ends with its session.
-/

namespace PropertyGraph.Embedded

/-- An open graph and how it is written to. -/
structure Session where
  state : State := {}
  writeMode : WriteMode := .merge

/-- Where a graph is kept. -/
inductive Place
  | memory
  | file (path : String)
  deriving DecidableEq, Repr

/-- The place that a database name stands for. -/
def Place.ofDatabase : Option String → Place
  | none => .memory
  | some name => if name = "" ∨ name = ":memory:" then .memory else .file name

namespace Session

/-- Opens the graph of stored rows. -/
def ofTables (t : Tables) (mode : WriteMode) : Except GraphError Session :=
  match State.ofTables t with
  | .error e => .error e
  | .ok state => .ok ⟨state, mode⟩

/-- Opens a graph as configured.  `disk` knows the rows of each file; a new file has none, and
a file that cannot be opened is not there. -/
def connect (disk : String → Option Tables) (c : Config) : Except GraphError Session :=
  match Place.ofDatabase c.database with
  | .memory => ofTables {} c.writeMode
  | .file path =>
    match disk path with
    | some t => ofTables t c.writeMode
    | none => .error (storageError ("unable to open database file: " ++ path))

/-- The session with another write mode. -/
def withWriteMode (s : Session) (mode : WriteMode) : Session := { s with writeMode := mode }

/-- The number of vertices. -/
def vertexCount (s : Session) : Nat := s.state.graph.nodes.length

/-- The number of edges. -/
def edgeCount (s : Session) : Nat := s.state.graph.arcs.length

/-- A session as it is shown to a reader. -/
def summary (s : Session) : String :=
  "EmbeddedConnection \x7b vertex_count: " ++ toString s.vertexCount ++ ", edge_count: " ++
    toString s.edgeCount ++ ", write_mode: " ++ s.writeMode.title ++ " \x7d"

/-- Query text is not understood. -/
def noQueryText : GraphError := .unsupported "the embedded graph does not execute query text"

/-- Sessions as connections. -/
def connection : Connection Session where
  queryVertex label selectors filters _ s := (s.state.queryVertex label selectors filters, s)
  queryEdge r s := (s.state.queryEdge r, s)
  executeQuery _ _ _ s := (.error noQueryText, s)
  storeVertex v s :=
    let (stored, state) := s.state.storeVertex s.writeMode v
    (stored, { s with state })
  storeEdge e s :=
    let (stored, state) := s.state.storeEdge s.writeMode e
    (stored, { s with state })
  close s := (.ok (), s)

end Session
end PropertyGraph.Embedded
