import PropertyGraph.Config
import PropertyGraph.Connection
import PropertyGraph.Text.Quoted

/-!
# Registries of connectors

A registry knows how to open a connection for each of a set of graph types.  Registering a
graph type again replaces what was known about it.

Opening a connection may have effects on what the connection leads to.  A registry is the same
whatever these are, so they are left open: connectors answer in some `m`, and a registry only
needs to know how an answer is given there without any effect.
-/

namespace PropertyGraph

universe u

/-- Opens a connection as configured, with effects in `m`. -/
abbrev ConnectorIn (m : Type 1 → Type u) := Config → m (Except GraphError Opened)

/-- Opens a connection as configured. -/
abbrev Connector := ConnectorIn Id

/-- Connectors with effects in `m`, by graph type. -/
structure RegistryIn (m : Type 1 → Type u) where
  connectors : Dict (ConnectorIn m) := ∅

/-- Connectors by graph type. -/
abbrev Registry := RegistryIn Id

namespace RegistryIn

variable {m : Type 1 → Type u}

/-- The registry that knows no graph type. -/
def empty : RegistryIn m := {}

/-- The registry with the connector of one graph type set. -/
def register (r : RegistryIn m) (graphType : String) (connector : ConnectorIn m) : RegistryIn m :=
  ⟨r.connectors.insert graphType connector⟩

/-- The connector of a graph type. -/
def get? (r : RegistryIn m) (graphType : String) : Option (ConnectorIn m) :=
  r.connectors.get? graphType

/-- Whether a graph type is known. -/
def contains (r : RegistryIn m) (graphType : String) : Bool := r.connectors.contains graphType

/-- The known graph types, ascending. -/
def names (r : RegistryIn m) : List String := r.connectors.keys

/-- Opens a connection with the connector that the configuration names. -/
def connect [Pure m] (r : RegistryIn m) (c : Config) : m (Except GraphError Opened) :=
  match r.get? c.graphType with
  | some connector => connector c
  | none => pure (.error (.unsupportedProvider c.graphType))

/-- A registry as it is shown to a reader. -/
def summary (r : RegistryIn m) : String :=
  "ConnectorRegistry \x7b connectors: [" ++ ", ".intercalate (r.names.map Text.quoted) ++
    "] \x7d"

end RegistryIn
end PropertyGraph
