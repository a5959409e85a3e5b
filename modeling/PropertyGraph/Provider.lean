import PropertyGraph.Agens.Session
import PropertyGraph.Bolt.Session
import PropertyGraph.Embedded.Session
import PropertyGraph.Registry

/-!
# Providers of graphs

The kinds of graph that a configuration can name.  What lies beyond the library, the files on
disk and the servers on the network, is given as `Surroundings`.
-/

namespace PropertyGraph

/-- A kind of graph. -/
inductive Provider
  | embedded
  | neo4j
  | memgraph
  | agens
  deriving DecidableEq, Repr

/-- What connections lead to. -/
structure Surroundings where
  /-- The rows in each file that can be opened. -/
  disk : String → Option Embedded.Tables
  BoltState : Type
  boltServer : Bolt.Server BoltState
  boltState : BoltState
  AgensState : Type
  agensServer : Agens.Server AgensState
  agensState : AgensState

namespace Provider

/-- All providers. -/
def all : List Provider := [.embedded, .neo4j, .memgraph, .agens]

/-- The graph type that names a provider. -/
def name : Provider → String
  | .embedded => "embedded"
  | .neo4j => "neo4j"
  | .memgraph => "memgraph"
  | .agens => "agens"

/-- The provider that a graph type names. -/
def ofName? : String → Option Provider
  | "embedded" => some .embedded
  | "neo4j" => some .neo4j
  | "memgraph" => some .memgraph
  | "agens" => some .agens
  | _ => none

/-- The graph types of all providers. -/
def supported : List String := all.map name

/-- An open connection of an open session. -/
def opened {σ : Type} (connection : Connection σ) :
    Except GraphError σ → Except GraphError Opened
  | .ok state => .ok ⟨σ, connection, state⟩
  | .error e => .error e

/-- Opens a connection to a graph of one kind. -/
def connect (w : Surroundings) (p : Provider) (c : Config) : Except GraphError Opened :=
  match p with
  | .embedded => opened Embedded.Session.connection (Embedded.Session.connect w.disk c)
  | .neo4j =>
    opened (Bolt.Session.connection w.boltServer) (Bolt.Session.connect .neo4j w.boltState c)
  | .memgraph =>
    opened (Bolt.Session.connection w.boltServer) (Bolt.Session.connect .memgraph w.boltState c)
  | .agens =>
    opened (Agens.Session.connection w.agensServer) (Agens.Session.connect w.agensState c)

end Provider

/-- Opens a connection to a graph of the kind that the configuration names. -/
def Config.connect (w : Surroundings) (c : Config) : Except GraphError Opened :=
  match Provider.ofName? c.graphType with
  | some p => p.connect w c
  | none => .error (.unsupportedProvider c.graphType)

/-- A registry that knows every provider. -/
def Registry.ofProviders (w : Surroundings) : Registry :=
  Provider.supported.foldl (fun r graphType => r.register graphType (Config.connect w)) .empty

end PropertyGraph
