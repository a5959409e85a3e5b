import PropertyGraph.Connection
import PropertyGraph.Query.Statement

/-!
# Remote graphs

A remote graph is a database that takes query text.  Every operation on it is at most one
statement: the statement is built first, so a request that no statement can express reaches
nobody, and what comes back is a list of rows.  How a statement is run and how the elements
of a row are read is left to the database; the rest is the same for all of them.

Storing is all or nothing for the element that is stored: it takes its identifiers from the
first row, and keeps what it had when anything fails.
-/

namespace PropertyGraph.Remote

variable {σ ρ α : Type}

/-- How the columns of a row are read. -/
structure RowReader (ρ : Type) where
  /-- The vertex in a column. -/
  vertex : String → ρ → Except GraphError Vertex
  /-- The edge in a column. -/
  edge : String → ρ → Except GraphError Edge
  /-- All columns as values. -/
  values : ρ → Row

/-- Runs one statement. -/
abbrev Run (σ ρ : Type) := String → QueryMode → PropertyMap → σ → Reply σ (List ρ)

/-- Runs a statement, if there is one, and reads the rows that come back. -/
def ask (run : Run σ ρ) (statement : Except GraphError String) (mode : QueryMode)
    (params : PropertyMap) (read : List ρ → Except GraphError α) (s : σ) : Reply σ α :=
  match statement with
  | .error e => (.error e, s)
  | .ok text =>
    -- From here on the request has been made, whatever becomes of it.
    match run text mode params s with
    | (.error e, s) => (.error e, s)
    | (.ok rows, s) => (read rows, s)

/-- Puts the two vertices of a row at the ends of its edge.  A pattern without a direction may
bind them either way round, so the start goes to the end of the edge that has its identifier. -/
def attachEndpoints (e : Edge) (start finish : Vertex) : Edge :=
  if start.id.isSome && start.id == e.sourceId then (e.withSource start).withDestination finish
  else (e.withSource finish).withDestination start

/-- The edge of a row, with its endpoints where they were asked for. -/
def readEdge (reader : RowReader ρ) (mode : FetchMode) (row : ρ) : Except GraphError Edge := do
  let e ← reader.edge Query.edgeVariable row
  match mode with
  | .vertexIds => .ok e
  | .completeVertex =>
    let start ← reader.vertex Query.startVariable row
    let finish ← reader.vertex Query.endVariable row
    .ok (attachEndpoints e start finish)

/-- The first of the rows that a store reports. -/
def firstRow (what : String) : List ρ → Except GraphError ρ
  | [] => .error (.unexpectedResult ("failed to store " ++ what))
  | row :: _ => .ok row

/-- The vertex that a store reports. -/
def storedVertex (reader : RowReader ρ) (rows : List ρ) : Except GraphError Vertex := do
  reader.vertex Query.startVariable (← firstRow "vertex" rows)

/-- An edge that a store reports, with the endpoints that it was stored between. -/
structure StoredEdge where
  source : Vertex
  destination : Vertex
  edge : Edge

/-- The edge that a store reports. -/
def storedEdge (reader : RowReader ρ) (rows : List ρ) : Except GraphError StoredEdge := do
  let row ← firstRow "edge" rows
  let source ← reader.vertex Query.startVariable row
  let destination ← reader.vertex Query.endVariable row
  let edge ← reader.edge Query.storedEdgeVariable row
  .ok { source, destination, edge }

/-- A vertex that takes over the identifier under which it was stored. -/
def identifyVertex (v : Vertex) : Except GraphError Vertex → Stored Vertex
  | .ok found => ⟨.ok (), { v with id := found.id }⟩
  | .error e => ⟨.error e, v⟩

/-- An edge that takes over the identifiers under which it and its endpoints were stored. -/
def identifyEdge (e : Edge) : Except GraphError StoredEdge → Stored Edge
  | .ok found =>
    ⟨.ok (),
      { e with
        id := found.edge.id
        sourceId := found.source.id
        source := e.source.map fun v => { v with id := found.source.id }
        destinationId := found.destination.id
        destination := e.destination.map fun v => { v with id := found.destination.id } }⟩
  | .error err => ⟨.error err, e⟩

/-- A remote graph as a connection. -/
def connection (run : Run σ ρ) (reader : RowReader ρ) (writeMode : σ → WriteMode)
    (close : σ → Reply σ Unit) : Connection σ where
  queryVertex label selectors filters params s :=
    ask run (Query.matchVertex label selectors filters) .read params
      (·.mapM (reader.vertex Query.vertexVariable)) s
  queryEdge r s :=
    ask run (Query.matchEdge r) .read r.params (·.mapM (readEdge reader r.fetchMode)) s
  executeQuery text mode params s :=
    ask run (.ok text) mode params (fun rows => .ok { rows := rows.map reader.values }) s
  storeVertex v s :=
    let (found, s) := ask run (Query.storeVertex v (writeMode s)) .write ∅
      (storedVertex reader) s
    (identifyVertex v found, s)
  storeEdge e s :=
    let (found, s) := ask run (Query.storeEdge e) .write ∅ (storedEdge reader) s
    (identifyEdge e found, s)
  close := close

/-- The text of a number of seconds. -/
def secondsText (seconds : UInt64) : String :=
  if seconds = 0 then "0ns" else toString seconds.toNat ++ "s"

end PropertyGraph.Remote
