import PropertyGraph.Dict
import PropertyGraph.Error
import PropertyGraph.Query.Request

/-!
# Connection configuration

What is needed to open a connection.  The graph type selects the connector; what the other
settings mean is up to it, and settings that only one of them knows are options.
-/

namespace PropertyGraph

/-- The settings of a connection, with their defaults. -/
structure Config where
  graphType : String := "embedded"
  protocol : String := "bolt"
  host : String := "localhost"
  /-- Without a port the connector uses its own. -/
  port : Option UInt16 := none
  username : Option String := none
  password : Option String := none
  database : Option String := none
  /-- The graph within the database, where a database holds several. -/
  graphName : Option String := none
  writeMode : WriteMode := .merge
  /-- How long one query may take, in seconds. -/
  queryTimeout : UInt64 := 5
  options : Dict String := ∅
  deriving DecidableEq

instance : Inhabited Config := ⟨{}⟩

namespace Config

/-- The address of the database. -/
def targetUri (c : Config) : String :=
  match c.port with
  | some port => c.protocol ++ "://" ++ c.host ++ ":" ++ toString port.toNat
  | none => c.protocol ++ "://" ++ c.host

/-- The value of an option. -/
def option? (c : Config) (name : String) : Option String := c.options.get? name

/-- The user name and the password, both of which have to be set. -/
def credentials (c : Config) (backend : String) : Except GraphError (String × String) :=
  match c.username, c.password with
  | some username, some password => .ok (username, password)
  | _, _ => .error (.configuration (backend ++ " requires both a username and a password"))

/-- One setting of a configuration. -/
inductive Setting
  | graphType (name : String)
  | protocol (protocol : String)
  | host (host : String)
  | port (port : UInt16)
  | credentials (username password : String)
  | database (name : String)
  | graphName (name : String)
  | writeMode (mode : WriteMode)
  | queryTimeout (seconds : UInt64)
  | option (name value : String)

/-- The configuration after one setting. -/
def set (c : Config) : Setting → Config
  | .graphType name => { c with graphType := name }
  | .protocol protocol => { c with protocol }
  | .host host => { c with host }
  | .port port => { c with port := some port }
  | .credentials username password =>
    { c with username := some username, password := some password }
  | .database name => { c with database := some name }
  | .graphName name => { c with graphName := some name }
  | .writeMode mode => { c with writeMode := mode }
  | .queryTimeout seconds => { c with queryTimeout := seconds }
  | .option name value => { c with options := c.options.insert name value }

/-- The configuration that a sequence of settings makes. -/
def ofSettings (settings : List Setting) : Config := settings.foldl set {}

end Config
end PropertyGraph
