import PropertyGraph.Agens.Entity
import PropertyGraph.Config
import PropertyGraph.Remote
import PropertyGraph.Text.Numeral
import PropertyGraph.Text.Quoted

/-!
# AgensGraph sessions

A session draws the connections to its database from a pool.  Every statement names the graph
it is about and runs in a transaction of its own, which only reads where the query does.
Results come back as text.

Nothing is dialled on opening: only the configuration is checked.
-/

namespace PropertyGraph.Agens

/-- A row of text columns, some of them null. -/
abbrev TextRow := Dict (Option String)

/-- The rows that one part of a statement yields. -/
structure ResultSet where
  columns : List String
  rows : List (List (Option String))

/-- The rows of a result set by column; of two columns with one name the later counts. -/
def ResultSet.toRows (r : ResultSet) : List TextRow :=
  r.rows.map fun cells => Dict.ofList (r.columns.zip cells)

/-- What a server is asked for: a statement in a transaction. -/
structure Request where
  readOnly : Bool
  statement : String

/-- What becomes of a request. -/
inductive Response
  /-- It was carried out. -/
  | done (sets : List ResultSet)
  /-- The statement or its transaction failed, or the line broke. -/
  | failed
  /-- No answer came in time. -/
  | silent

/-- A database server with states of type `σ`. -/
structure Server (σ : Type) where
  /-- Whether a new connection is accepted. -/
  accepts : σ → Bool
  answer : Request → σ → Response × σ

/-- An open session.  `server` is the state of the other end. -/
structure Session (σ : Type) where
  graphName : String
  queryTimeout : UInt64
  writeMode : WriteMode
  /-- How many connections there may be at once. -/
  poolSize : Nat
  /-- Whether a connection can be made at all. -/
  canConnect : Bool
  isOpen : Bool := true
  server : σ

/-- The protocol that asks for an encrypted line, which is not offered. -/
def tlsProtocol : String := "tls"

/-- The number of connections in a pool unless the configuration tells. -/
def defaultPoolSize : Nat := 16

/-- The name of the database that holds the graph. -/
def requiredDatabase (c : Config) : Except GraphError String :=
  match c.database.or (c.option? "dbName") with
  | some name => .ok name
  | none => .error (.configuration "agensgraph requires a database name")

/-- The name of the graph. -/
def requiredGraphName (c : Config) : Except GraphError String :=
  match c.graphName.or (c.option? "graphName") with
  | none => .error (.configuration "graph name must be specified")
  | some name =>
    if isGraphName name then .ok name
    else .error (.configuration ("invalid graph name: " ++ name))

/-- The number of connections in the pool. -/
def requestedPoolSize (c : Config) : Except GraphError Nat :=
  match c.option? "poolSize" with
  | none => .ok defaultPoolSize
  | some size =>
    match Text.unsigned? 64 size with
    | some n => .ok n
    | none => .error (.configuration ("poolSize must be a number, got " ++ size))

/-- Whether a text can be sent: none holds the character that ends texts on the line. -/
def isSendable (s : String) : Bool := !s.contains '\u0000'

namespace Session

variable {σ : Type}

/-- Opens a session as configured. -/
def connect (server : σ) (c : Config) : Except GraphError (Session σ) := do
  if c.host = "" then
    .error (.configuration "hostname must be specified to establish connection")
  let (username, _) ← c.credentials "agensgraph"
  let database ← requiredDatabase c
  let graphName ← requiredGraphName c
  let poolSize ← requestedPoolSize c
  .ok {
    graphName
    poolSize
    queryTimeout := c.queryTimeout
    writeMode := c.writeMode
    canConnect := c.protocol != tlsProtocol && isSendable username && isSendable database
    server }

/-- A session as it is shown to a reader. -/
def summary (s : Session σ) : String :=
  "AgensConnection \x7b graph_name: " ++ Text.quoted s.graphName ++ ", query_timeout: " ++
    Remote.secondsText s.queryTimeout ++ ", write_mode: " ++ s.writeMode.title ++ " \x7d"

/-- There is no connection to be had. -/
def noConnection : GraphError :=
  .connection .connectionFailed "failed to get connection from pool" none

/-- The statement was not carried out. -/
def queryFailed : GraphError := .connection .operationFailed "agensgraph query failed" none

/-- The statement took too long. -/
def timedOut (s : Session σ) : GraphError :=
  .timeout ("agensgraph query timed out after " ++ Remote.secondsText s.queryTimeout)

/-- The statement for a query text. -/
def statement (s : Session σ) (text : String) : String :=
  "SET graph_path = " ++ s.graphName ++ ";" ++ text

/-- Runs a query text.  A closed pool refuses at once; an empty pool, or no time to wait for a
connection, ends in a timeout. -/
def run (server : Server σ) : Remote.Run (Session σ) TextRow := fun text mode _ s =>
  let statement := s.statement text
  -- What the pool decides comes before what the database is asked.
  if !s.isOpen then (.error noConnection, s)
  else if s.queryTimeout = 0 ∨ s.poolSize = 0 then (.error s.timedOut, s)
  else if !s.canConnect || !server.accepts s.server then (.error noConnection, s)
  else if !isSendable statement then (.error queryFailed, s)
  else
    let (response, far) := server.answer ⟨decide (mode = .read), statement⟩ s.server
    let s := { s with server := far }
    match response with
    | .done sets => (.ok (sets.flatMap ResultSet.toRows), s)
    | .failed => (.error queryFailed, s)
    | .silent => (.error s.timedOut, s)

/-- The text in a column, which has to be there. -/
def column (name : String) (row : TextRow) : Except GraphError String :=
  match row.get? name with
  | some (some text) => .ok text
  | _ => .error (.unexpectedResult ("column " ++ name ++ " is missing from the result"))

/-- Rows of text hold elements in their text form. -/
def reader : Remote.RowReader TextRow where
  vertex name row := (column name row).bind readVertex
  edge name row := (column name row).bind readEdge
  values row := row.map fun
    | some text => .string text
    | none => .null

/-- Closes the pool. -/
def close (s : Session σ) : Reply (Session σ) Unit := (.ok (), { s with isOpen := false })

/-- Sessions as connections. -/
def connection (server : Server σ) : Connection (Session σ) :=
  Remote.connection (run server) reader writeMode close

end Session
end PropertyGraph.Agens
