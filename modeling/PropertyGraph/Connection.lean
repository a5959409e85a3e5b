import PropertyGraph.Element
import PropertyGraph.Error
import PropertyGraph.Query.Request

/-!
# Connections

A connection answers questions about a property graph and stores elements in it.  It is a
record of functions on a state, which is whatever the database remembers between two calls:
a graph in memory, or the other end of a line.
-/

namespace PropertyGraph

/-- An answer, and the state that the call leaves. -/
abbrev Reply (σ α : Type) := Except GraphError α × σ

/-- How storing an element went, and the element as the call left it. -/
structure Stored (α : Type) where
  outcome : Except GraphError Unit
  element : α

/-- Access to a property graph with states of type `σ`. -/
structure Connection (σ : Type) where
  /-- The vertices with a label that satisfy selectors and filters. -/
  queryVertex : String → PropertyMap → PropertyMap → PropertyMap → σ → Reply σ (List Vertex)
  /-- The edges of a request. -/
  queryEdge : EdgeRequest → σ → Reply σ (List Edge)
  /-- The rows that a query text yields. -/
  executeQuery : String → QueryMode → PropertyMap → σ → Reply σ QueryResult
  /-- Stores a vertex, which takes the identifier it is given. -/
  storeVertex : Vertex → σ → Stored Vertex × σ
  /-- Stores an edge, which takes its identifier and those of its endpoints. -/
  storeEdge : Edge → σ → Stored Edge × σ
  close : σ → Reply σ Unit

/-- An open connection to whatever kind of database: the functions and the state they are at. -/
structure Opened where
  State : Type
  connection : Connection State
  state : State

end PropertyGraph
