import PropertyGraph.Config
import PropertyGraph.Config.Dotenv
import PropertyGraph.Text.Case
import PropertyGraph.Text.Numeral

/-!
# Configuration from the environment

Each setting has a variable.  A variable that is not set leaves the default; of several
that are wrong the first in the order of the settings is reported.
-/

namespace PropertyGraph.Config

/-- Reads an optional variable. -/
def fromVariable {α : Type} (default : α) (read : String → Except GraphError α) :
    Option String → Except GraphError α
  | some s => read s
  | none => .ok default

/-- Reads a port. -/
def readPort (s : String) : Except GraphError (Option UInt16) :=
  match Text.unsigned? 16 s with
  | some n => .ok (some (UInt16.ofNat n))
  | none => .error (.configuration ("OMGRAPH_PORT is not a valid port: " ++ s))

/-- Reads a write mode, ignoring case. -/
def readWriteMode (s : String) : Except GraphError WriteMode :=
  let name := Text.lower s
  if name = "create" then .ok .create
  else if name = "merge" then .ok .merge
  else .error (.configuration ("OMGRAPH_WRITE_MODE must be merge or create, got " ++ name))

/-- Reads a number of seconds. -/
def readSeconds (s : String) : Except GraphError UInt64 :=
  match Text.unsigned? 64 s with
  | some n => .ok (UInt64.ofNat n)
  | none => .error (.configuration ("OMGRAPH_QUERY_TIMEOUT_SECS is not a number: " ++ s))

/-- The configuration that variables describe. -/
def fromVariables (vs : Dict String) : Except GraphError Config := do
  let base : Config := {}
  let get := vs.get?
  let port ← fromVariable base.port readPort (get "OMGRAPH_PORT")
  let writeMode ← fromVariable base.writeMode readWriteMode (get "OMGRAPH_WRITE_MODE")
  let queryTimeout ←
    fromVariable base.queryTimeout readSeconds (get "OMGRAPH_QUERY_TIMEOUT_SECS")
  return {
    graphType := ((get "OMGRAPH_GRAPH_TYPE").map Text.lower).getD base.graphType
    protocol := (get "OMGRAPH_PROTOCOL").getD base.protocol
    host := (get "OMGRAPH_HOST").getD base.host
    port
    username := get "OMGRAPH_USERNAME"
    password := get "OMGRAPH_PASSWORD"
    database := get "OMGRAPH_DATABASE"
    graphName := get "OMGRAPH_GRAPH_NAME"
    writeMode
    queryTimeout }

/-- The configuration of an environment, to which a file of variables may add. -/
def fromEnvironment (environment : Dict String) (file : Option String) :
    Except GraphError Config :=
  match file with
  | some content => fromVariables (Dotenv.load environment content)
  | none => fromVariables environment

end PropertyGraph.Config
