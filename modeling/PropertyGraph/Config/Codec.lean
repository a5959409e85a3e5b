import PropertyGraph.Config
import PropertyGraph.Element.Codec

/-!
# The JSON form of configurations

Settings that are not set are left out, as are empty options.  On reading, whatever is left
out has its default.
-/

namespace PropertyGraph.Config

variable {τ : Type}

/-- The JSON form of a configuration. -/
def toJson (c : Config) : Json :=
  Json.struct [
    ("graph_type", some (.string c.graphType)),
    ("protocol", some (.string c.protocol)),
    ("host", some (.string c.host)),
    ("port", c.port.map fun p => .integer p.toNat),
    ("username", c.username.map .string),
    ("password", c.password.map .string),
    ("database", c.database.map .string),
    ("graph_name", c.graphName.map .string),
    ("write_mode", some (.string c.writeMode.text)),
    ("query_timeout_secs", some (.integer c.queryTimeout.toNat)),
    ("options", if c.options.isEmpty then none else some (Json.ofDict (c.options.map .string)))]

/-- The fields of a configuration, in order. -/
def fieldNames : List String :=
  ["graph_type", "protocol", "host", "port", "username", "password", "database", "graph_name",
    "write_mode", "query_timeout_secs", "options"]

/-- Reads a configuration. -/
def read? (src : Source τ) (t : τ) : Option Config := do
  let part ← src.struct? fieldNames t
  let base : Config := {}
  let text? := src.nullable? src.text?
  let graphType ← Source.defaulted? base.graphType src.text? (part "graph_type")
  let protocol ← Source.defaulted? base.protocol src.text? (part "protocol")
  let host ← Source.defaulted? base.host src.text? (part "host")
  let port ← Source.defaulted? base.port (src.nullable? fun t =>
    (src.natural? 16 t).map UInt16.ofNat) (part "port")
  let username ← Source.defaulted? base.username text? (part "username")
  let password ← Source.defaulted? base.password text? (part "password")
  let database ← Source.defaulted? base.database text? (part "database")
  let graphName ← Source.defaulted? base.graphName text? (part "graph_name")
  let writeMode ← Source.defaulted? base.writeMode (src.oneOf? WriteMode.names)
    (part "write_mode")
  let queryTimeout ← Source.defaulted? base.queryTimeout (fun t =>
    (src.natural? 64 t).map UInt64.ofNat) (part "query_timeout_secs")
  let options ← Source.defaulted? base.options (src.dict? src.text?) (part "options")
  some {
    graphType, protocol, host, port, username, password, database, graphName, writeMode
    queryTimeout, options }

end PropertyGraph.Config
