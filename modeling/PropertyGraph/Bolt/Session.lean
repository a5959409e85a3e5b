import PropertyGraph.Bolt.Address
import PropertyGraph.Bolt.Value
import PropertyGraph.Config
import PropertyGraph.Element.Codec
import PropertyGraph.Remote
import PropertyGraph.Text.Quoted

/-!
# Neo4j and Memgraph sessions

Both databases speak Bolt.  Opening a session checks the credentials and the address; the line
is only used with the first statement.  Parameters travel beside a statement and are not part
of its text.
-/

namespace PropertyGraph.Bolt

/-- The databases that speak Bolt. -/
inductive Backend
  | neo4j
  | memgraph
  deriving DecidableEq, Repr

/-- The name of a database. -/
def Backend.name : Backend → String
  | .neo4j => "neo4j"
  | .memgraph => "memgraph"

/-- The user name and the password of a configuration.  Memgraph knows a user of its own and
needs no password. -/
def Backend.credentials (b : Backend) (c : Config) : Except GraphError (String × String) :=
  match b with
  | .neo4j => c.credentials b.name
  | .memgraph => .ok (c.username.getD "memgraph", c.password.getD "")

/-- What a server is asked for. -/
structure Request where
  database : String
  statement : String
  params : List (String × Value)

/-- What becomes of a request. -/
inductive Response
  /-- It was carried out. -/
  | done (columns : List String) (rows : List (List Value))
  /-- There was no connection, the statement was rejected, or the line broke. -/
  | failed
  /-- No answer came in time. -/
  | silent

/-- A database server with states of type `σ`. -/
structure Server (σ : Type) where
  answer : Request → σ → Response × σ

/-- An open session.  `server` is the state of the other end. -/
structure Session (σ : Type) where
  backend : Backend
  address : Address
  username : String
  password : String
  database : String
  queryTimeout : UInt64
  writeMode : WriteMode
  server : σ

/-- The database that is used unless the configuration tells. -/
def defaultDatabase : String := "neo4j"

/-- A row: a value for each column. -/
abbrev Record := Dict Value

namespace Session

variable {σ : Type}

/-- The address of a configuration leads nowhere. -/
def noAddress (b : Backend) (uri : String) : GraphError :=
  .connection .connectionFailed ("failed to connect to " ++ b.name ++ " at " ++ uri) none

/-- Opens a session as configured. -/
def connect (b : Backend) (server : σ) (c : Config) : Except GraphError (Session σ) := do
  let (username, password) ← b.credentials c
  match Address.parse? c.targetUri with
  | none => .error (noAddress b c.targetUri)
  | some address =>
    .ok {
      backend := b
      address
      username
      password
      database := c.database.getD defaultDatabase
      queryTimeout := c.queryTimeout
      writeMode := c.writeMode
      server }

/-- A session as it is shown to a reader. -/
def summary (s : Session σ) : String :=
  "Neo4jConnection \x7b backend: " ++ Text.quoted s.backend.name ++ ", query_timeout: " ++
    Remote.secondsText s.queryTimeout ++ ", write_mode: " ++ s.writeMode.title ++ " \x7d"

/-- The statement was not carried out. -/
def queryFailed : GraphError := .connection .operationFailed "query failed" none

/-- The statement took too long. -/
def timedOut (s : Session σ) : GraphError :=
  .timeout (s.backend.name ++ " query timed out after " ++ Remote.secondsText s.queryTimeout)

/-- Runs a query text with its parameters. -/
def run (server : Server σ) : Remote.Run (Session σ) Record := fun text _ params s =>
  let request := ⟨s.database, text, Value.ofMembers params.entries⟩
  let (response, far) := server.answer request s.server
  let s := { s with server := far }
  match response with
  | .done columns rows => (.ok (rows.map fun cells => Dict.ofList (columns.zip cells)), s)
  | .failed => (.error queryFailed, s)
  | .silent => (.error s.timedOut, s)

/-- What a column holds, which has to be there and of the kind that is read. -/
def column {α : Type} (read : Value → Option α) (name : String) (row : Record) :
    Except GraphError α :=
  match (row.get? name).bind read with
  | some a => .ok a
  | none =>
    .error (.unexpectedResult ("column " ++ name ++ " is missing or has the wrong type"))

/-- Records hold nodes and relationships. -/
def reader : Remote.RowReader Record where
  vertex := column Value.vertex?
  edge := column Value.edge?
  values row := row.map Value.toJson

/-- Sessions as connections.  Closing one is left to the line itself. -/
def connection (server : Server σ) : Connection (Session σ) :=
  Remote.connection (run server) reader writeMode fun s => (.ok (), s)

end Session
end PropertyGraph.Bolt
