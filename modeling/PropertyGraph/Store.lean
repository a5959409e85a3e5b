import PropertyGraph.Connection
import PropertyGraph.Record.Mapping

/-!
# Storing objects

Objects of an application are stored and read through any connection.  A property without a
value is left out, so that what an object does not say is neither written nor asked for.

Kinds, parts and mappings are checked first; only a request that passed every check leads to
a call, and then to exactly one.
-/

namespace PropertyGraph

/-- A source, a relationship and a destination, any of which may be left open.  A source on
its own stands for a single vertex. -/
structure Relation (α β γ : Type) where
  source : Option α := none
  relationship : Option β := none
  destination : Option γ := none

/-- What storing a relation wrote. -/
inductive Persisted
  | vertex (vertex : Vertex)
  | edge (edge : Edge)

/-- The properties that have a value. -/
def nonNull (properties : PropertyMap) : PropertyMap := properties.filter fun _ v => !v.isNull

namespace ObjectType

variable {α : Type} (t : ObjectType α)

/-- Refuses an object that is not of the expected kind. -/
def expectKind (object : α) (kind : ObjectKind) (role : String) : Except GraphError Unit :=
  if t.kind object = kind then .ok ()
  else .error (.validation .kindMismatch
    (role ++ " must be a " ++ kind.title ++ ", got " ++ (t.kind object).title))

/-- An object as a vertex that is to be stored. -/
def vertexOf (object : α) : Except GraphError Vertex :=
  match t.toVertex object [t.label object] with
  | .error e => .error e
  | .ok v => .ok (v.withProperties (nonNull v.properties))

/-- An object as an edge that is to be stored. -/
def edgeOf (object : α) : Except GraphError Edge :=
  match t.toEdge object (some (t.label object)) with
  | .error e => .error e
  | .ok e => .ok (e.withProperties (nonNull e.properties))

/-- What a vertex has to have to be like an object. -/
def vertexSelectors (object : α) : Except GraphError PropertyMap :=
  match t.vertexOf object with
  | .error e => .error e
  | .ok v => .ok v.properties

/-- What an edge has to have to be like an object. -/
def edgeSelectors (object : α) : Except GraphError PropertyMap :=
  match t.edgeOf object with
  | .error e => .error e
  | .ok e => .ok e.properties

end ObjectType

namespace Store

variable {σ α β γ : Type} (c : Connection σ)

/-- A part of a relation is missing. -/
def invalidRelation (reason : String) : GraphError := .validation .invalidRelation reason

/-- An edge came back without its endpoints. -/
def withoutEndpoints (e : Edge) : GraphError :=
  .unexpectedResult ("edge " ++ e.edgeType ++ " was returned without its endpoints")

/-- Makes one call for a request that passed its checks; otherwise makes none. -/
def checked {ρ δ : Type} (request : Except GraphError ρ) (call : ρ → σ → Reply σ δ) (s : σ) :
    Reply σ δ :=
  match request with
  | .error e => (.error e, s)
  | .ok r => call r s

/-- Stores a vertex and returns it as the call left it. -/
def callVertex (v : Vertex) (s : σ) : Reply σ Vertex :=
  let (stored, s) := c.storeVertex v s
  (stored.outcome.map fun _ => stored.element, s)

/-- Stores an edge and returns it as the call left it. -/
def callEdge (e : Edge) (s : σ) : Reply σ Edge :=
  let (stored, s) := c.storeEdge e s
  (stored.outcome.map fun _ => stored.element, s)

/-- The vertex that an object asks to store. -/
def vertexRequest (t : ObjectType α) (object : α) : Except GraphError Vertex := do
  t.expectKind object .vertex "object"
  t.vertexOf object

/-- Stores an object as a vertex. -/
def persistVertex (t : ObjectType α) (object : α) : σ → Reply σ Vertex :=
  checked (vertexRequest t object) (callVertex c)

/-- The selectors that an example asks for. -/
def exampleRequest (t : ObjectType α) (sample : α) : Except GraphError PropertyMap := do
  t.expectKind sample .vertex "object"
  t.vertexSelectors sample

/-- Reads the objects that agree with an example wherever it has a value. -/
def readVertex (t : ObjectType α) (sample : α) : σ → Reply σ (List α) :=
  checked (exampleRequest t sample) fun selectors s =>
    let (found, s) := c.queryVertex (t.label sample) selectors ∅ ∅ s
    (found.bind fun vs => vs.mapM fun v => t.fromVertex v t.initial, s)

/-- What a relation asks to store: a single vertex, or an edge with its endpoints. -/
def relationRequest (ts : ObjectType α) (tr : ObjectType β) (td : ObjectType γ)
    (relation : Relation α β γ) : Except GraphError Persisted := do
  match relation.source with
  | none => .error (invalidRelation "source vertex must be specified")
  | some source =>
    ts.expectKind source .vertex "source"
    match relation.relationship, relation.destination with
    -- Nothing but a source: a vertex of its own.
    | none, none => return .vertex (← ts.vertexOf source)
    | some relationship, some destination =>
      tr.expectKind relationship .relationship "relationship"
      td.expectKind destination .vertex "destination"
      let start ← ts.vertexOf source
      let finish ← td.vertexOf destination
      let edge ← tr.edgeOf relationship
      return .edge ((edge.withSource start).withDestination finish)
    | none, some _ =>
      .error (invalidRelation
        "relationship must be specified when a destination vertex is present")
    | some _, none =>
      .error (invalidRelation
        "destination vertex must be specified when a relationship is present")

/-- Stores a relation: a single vertex, or an edge with both endpoints. -/
def persistRelation (ts : ObjectType α) (tr : ObjectType β) (td : ObjectType γ)
    (relation : Relation α β γ) : σ → Reply σ Persisted :=
  checked (relationRequest ts tr td relation) fun request s =>
    match request with
    | .vertex v =>
      let (stored, s) := callVertex c v s
      (stored.map .vertex, s)
    | .edge e =>
      let (stored, s) := callEdge c e s
      (stored.map .edge, s)

/-- The request for the edges that agree with a relation, all of whose parts are given. -/
def edgeRequest (ts : ObjectType α) (tr : ObjectType β) (td : ObjectType γ)
    (relation : Relation α β γ) : Except GraphError EdgeRequest := do
  match relation.source, relation.relationship, relation.destination with
  | some source, some relationship, some destination =>
    ts.expectKind source .vertex "source"
    tr.expectKind relationship .relationship "relationship"
    td.expectKind destination .vertex "destination"
    let startSelectors ← ts.vertexSelectors source
    let endSelectors ← td.vertexSelectors destination
    let selectors ← tr.edgeSelectors relationship
    return {
      label := tr.label relationship
      startLabels := [ts.label source]
      endLabels := [td.label destination]
      startSelectors, endSelectors, selectors
      fetchMode := .completeVertex }
  | _, _, _ =>
    .error (invalidRelation "source, relationship and destination must all be specified")

/-- Reads an edge and its endpoints as a relation. -/
def relationOf (ts : ObjectType α) (tr : ObjectType β) (td : ObjectType γ) (e : Edge) :
    Except GraphError (Relation α β γ) := do
  match e.source, e.destination with
  | some start, some finish =>
    let source ← ts.fromVertex start ts.initial
    let relationship ← tr.fromEdge e tr.initial
    let destination ← td.fromVertex finish td.initial
    return ⟨some source, some relationship, some destination⟩
  | _, _ => .error (withoutEndpoints e)

/-- Reads the relations that agree with a given one wherever its parts have a value. -/
def readRelation (ts : ObjectType α) (tr : ObjectType β) (td : ObjectType γ)
    (relation : Relation α β γ) : σ → Reply σ (List (Relation α β γ)) :=
  checked (edgeRequest ts tr td relation) fun request s =>
    let (found, s) := c.queryEdge request s
    (found.bind fun es => es.mapM (relationOf ts tr td), s)

end Store
end PropertyGraph
