import PropertyGraph.Store

/-!
# Recorded calls

The store of objects knows a database by its connection only.  A connection that keeps the calls
it is given (`Connection.recorded`) shows what the store asked for, whatever the answers are:

> `callsMade_persistVertex` and its siblings: an operation makes the one call of its request, or
> none where the request is refused.
-/

namespace PropertyGraph

variable {σ α β γ δ κ : Type}

/-- What comes of a request: nothing where it is refused. -/
def requestsOf (requests : α → List κ) : Except GraphError α → List κ
  | .error _ => []
  | .ok request => requests request

/-- A call on a connection. -/
inductive Call
  | queryVertex (label : String) (selectors filters params : PropertyMap)
  | queryEdge (request : EdgeRequest)
  | executeQuery (text : String) (mode : QueryMode) (params : PropertyMap)
  | storeVertex (vertex : Vertex)
  | storeEdge (edge : Edge)
  | close

/-- The call that stores what a relation asks for. -/
def Persisted.call : Persisted → Call
  | .vertex v => .storeVertex v
  | .edge e => .storeEdge e

/-- An answer, after which the call is kept. -/
def Call.keep (call : Call) (answer : σ → δ × σ) (s : σ × List Call) : δ × (σ × List Call) :=
  ((answer s.1).1, (answer s.1).2, s.2 ++ [call])

/-- A connection that keeps the calls it is given. -/
def Connection.recorded (c : Connection σ) : Connection (σ × List Call) where
  queryVertex label selectors filters params :=
    (Call.queryVertex label selectors filters params).keep
      (c.queryVertex label selectors filters params)
  queryEdge request := (Call.queryEdge request).keep (c.queryEdge request)
  executeQuery text mode params :=
    (Call.executeQuery text mode params).keep (c.executeQuery text mode params)
  storeVertex v := (Call.storeVertex v).keep (c.storeVertex v)
  storeEdge e := (Call.storeEdge e).keep (c.storeEdge e)
  close := Call.close.keep c.close

namespace Store

/-- The calls that an operation makes on a connection that keeps them. -/
def callsMade (operation : σ × List Call → Reply (σ × List Call) δ) (s : σ) : List Call :=
  (operation (s, [])).2.2

variable (c : Connection σ) (s : σ)

/-- A request that is carried out with one call makes this call, or none if it is refused. -/
theorem callsMade_checked {request : Except GraphError α}
    {call : α → σ × List Call → Reply (σ × List Call) δ} {made : α → Call}
    (hcall : ∀ r, callsMade (call r) s = [made r]) :
    callsMade (checked request call) s = requestsOf (fun r => [made r]) request := by
  cases request with
  | error e => rfl
  | ok r => exact hcall r

theorem callsMade_persistVertex (t : ObjectType α) (object : α) :
    callsMade (persistVertex c.recorded t object) s =
      requestsOf (fun v => [.storeVertex v]) (vertexRequest t object) :=
  callsMade_checked s fun _ => rfl

theorem callsMade_readVertex (t : ObjectType α) (sample : α) :
    callsMade (readVertex c.recorded t sample) s =
      requestsOf (fun selectors => [.queryVertex (t.label sample) selectors ∅ ∅])
        (exampleRequest t sample) :=
  callsMade_checked s fun _ => rfl

theorem callsMade_persistRelation (ts : ObjectType α) (tr : ObjectType β) (td : ObjectType γ)
    (relation : Relation α β γ) :
    callsMade (persistRelation c.recorded ts tr td relation) s =
      requestsOf (fun request => [request.call]) (relationRequest ts tr td relation) := by
  refine callsMade_checked s fun request => ?_
  cases request <;> rfl

theorem callsMade_readRelation (ts : ObjectType α) (tr : ObjectType β) (td : ObjectType γ)
    (relation : Relation α β γ) :
    callsMade (readRelation c.recorded ts tr td relation) s =
      requestsOf (fun request => [.queryEdge request]) (edgeRequest ts tr td relation) :=
  callsMade_checked s fun _ => rfl

end Store
end PropertyGraph
