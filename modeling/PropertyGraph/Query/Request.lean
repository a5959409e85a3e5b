import PropertyGraph.Json.Value

/-!
# Requests and results

What can be asked of a property graph, independently of how a database is asked.
-/

namespace PropertyGraph

/-- Whether a query reads from the graph or writes to it. -/
inductive QueryMode
  | read
  | write
  deriving DecidableEq, Repr, Inhabited

/-- How a write introduces what it stores: by reusing a match or unconditionally. -/
inductive WriteMode
  | merge
  | create
  deriving DecidableEq, Repr, Inhabited

/-- How much of the endpoints of an edge is fetched. -/
inductive FetchMode
  | vertexIds
  | completeVertex
  deriving DecidableEq, Repr, Inhabited

/-- A request for the edges of one type.  Selectors belong to the pattern that is matched,
filters are applied to what it matches. -/
structure EdgeRequest where
  label : String
  startLabels : List String := []
  endLabels : List String := []
  startSelectors : PropertyMap := ∅
  endSelectors : PropertyMap := ∅
  selectors : PropertyMap := ∅
  startFilters : PropertyMap := ∅
  endFilters : PropertyMap := ∅
  filters : PropertyMap := ∅
  params : PropertyMap := ∅
  fetchMode : FetchMode := .vertexIds

/-- One row of a query result: a value for each column. -/
abbrev Row := Dict Json

/-- The rows that a query text yields. -/
structure QueryResult where
  rows : List Row := []

namespace QueryResult

/-- The number of rows. -/
def size (r : QueryResult) : Nat := r.rows.length

/-- Whether there are no rows. -/
def isEmpty (r : QueryResult) : Bool := r.rows.isEmpty

end QueryResult
end PropertyGraph
