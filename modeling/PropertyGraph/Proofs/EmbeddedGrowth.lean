import Mathlib.Logic.Relation
import PropertyGraph.Embedded.State

/-!
# How an embedded graph grows

Storing a vertex or an edge runs through several functions, each with its own ways to fail or
to reuse what is there.  All they ever do to the state is one of two things: put in one vertex
under the next number, or put in one edge under the next number between two stored vertices.
This file says so once.

> `Grows`: one such insertion, in the rows and in the graph together.

A call is a few steps, each of which stores one vertex or one edge or nothing at all, and stops
on the way when a step fails (`storeVertex_step`, `storeEdge_steps`).  `storeVertex_grows` and
`storeEdge_grows` reduce both calls to runs of insertions, and `run_grows` any sequence of calls.
An invariant of the state therefore needs two cases, not one for every path through the code.
-/

namespace PropertyGraph.Embedded

open Relation (ReflTransGen)

/-- The row that a node is stored as. -/
def Node.row (n : Node) : VertexRow :=
  ⟨n.id, (Json.texts n.labels).text, (Json.ofDict n.properties).text⟩

/-- The row that an edge between two vertices is stored as. -/
def EdgeData.row (d : EdgeData) (source target : Int) : EdgeRow :=
  ⟨d.id, source, target, d.edgeType, (Json.ofDict d.properties).text⟩

/-- A call that may write. -/
inductive Write
  | vertex (mode : WriteMode) (vertex : Vertex)
  | edge (mode : WriteMode) (edge : Edge)

namespace State

/-- The state after a call, whether it succeeded or not. -/
def write (s : State) : Write → State
  | .vertex mode v => (s.storeVertex mode v).2
  | .edge mode e => (s.storeEdge mode e).2

/-- The state after a sequence of calls. -/
def run (s : State) (writes : List Write) : State := writes.foldl write s

/-- One insertion: a vertex or an edge gets the next number, in the rows and in the graph.
An edge whose endpoints the graph does not know would get a row only. -/
inductive Grows (s : State) : State → Prop
  | node (n : Node) (room : s.tables.lastVertexId < Text.int64Max)
      (next : n.id = s.tables.lastVertexId + 1) :
      Grows s ⟨s.tables.putVertex n.row, s.graph.addNode n⟩
  | arc (d : EdgeData) (source target : Int) (room : s.tables.lastEdgeId < Text.int64Max)
      (next : d.id = s.tables.lastEdgeId + 1) (hsource : s.tables.hasVertex source = true)
      (htarget : s.tables.hasVertex target = true) :
      Grows s ⟨s.tables.putEdge (d.row source target),
        (s.graph.addEdge? source target d).getD s.graph⟩

/-! ## Vertices -/

/-- A vertex is inserted under the next number unless there is none. -/
theorem insertVertex_eq (s : State) (labels : List String) (properties : PropertyMap) :
    s.insertVertex labels properties =
      if Text.int64Max ≤ s.tables.lastVertexId then
        (.error (storageError "database or disk is full"), s)
      else
        (.ok (s.tables.lastVertexId + 1),
          ⟨s.tables.putVertex (Node.row ⟨s.tables.lastVertexId + 1, labels, properties⟩),
            s.graph.addNode ⟨s.tables.lastVertexId + 1, labels, properties⟩⟩) := by
  unfold insertVertex Tables.saveVertex Tables.nextId
  by_cases hfull : Text.int64Max ≤ s.tables.lastVertexId
  · simp only [if_pos hfull]
  · simp only [if_neg hfull, Node.row]

theorem insertVertex_grows (s : State) (labels : List String) (properties : PropertyMap) :
    ReflTransGen Grows s (s.insertVertex labels properties).2 := by
  rw [insertVertex_eq]
  by_cases hfull : Text.int64Max ≤ s.tables.lastVertexId
  · rw [if_pos hfull]
  · rw [if_neg hfull]
    exact ReflTransGen.single (.node _ (Int.not_le.1 hfull) rfl)

theorem upsertVertex_grows (mode : WriteMode) (s : State) (labels : List String)
    (properties : PropertyMap) :
    ReflTransGen Grows s (s.upsertVertex mode labels properties).2 := by
  unfold upsertVertex
  cases mode with
  | create => exact insertVertex_grows s labels properties
  | merge =>
    cases s.existingVertex? labels properties with
    | some id => exact ReflTransGen.refl
    | none => exact insertVertex_grows s labels properties

/-! ## Edges -/

/-- An edge is inserted under the next number when there is one and both endpoints are stored;
the graph has to know them too for the call to succeed. -/
theorem insertEdge_eq (s : State) (source target : Int) (edgeType : String)
    (properties : PropertyMap) :
    s.insertEdge source target edgeType properties =
      if Text.int64Max ≤ s.tables.lastEdgeId then
        (.error (storageError "database or disk is full"), s)
      else if s.tables.hasVertex source && s.tables.hasVertex target then
        let d : EdgeData := ⟨s.tables.lastEdgeId + 1, edgeType, properties⟩
        (match s.graph.addEdge? source target d with
          | none => .error (notIndexed d.id)
          | some _ => .ok d.id,
          ⟨s.tables.putEdge (d.row source target),
            (s.graph.addEdge? source target d).getD s.graph⟩)
      else (.error (storageError "FOREIGN KEY constraint failed"), s) := by
  unfold insertEdge Tables.saveEdge Tables.nextId
  by_cases hfull : Text.int64Max ≤ s.tables.lastEdgeId
  · simp only [if_pos hfull]
  · by_cases hends : (s.tables.hasVertex source && s.tables.hasVertex target) = true
    · simp only [if_neg hfull, if_pos hends, EdgeData.row]
      cases s.graph.addEdge? source target ⟨s.tables.lastEdgeId + 1, edgeType, properties⟩ <;> rfl
    · simp only [if_neg hfull, if_neg hends]

theorem insertEdge_grows (s : State) (source target : Int) (edgeType : String)
    (properties : PropertyMap) :
    ReflTransGen Grows s (s.insertEdge source target edgeType properties).2 := by
  rw [insertEdge_eq]
  by_cases hfull : Text.int64Max ≤ s.tables.lastEdgeId
  · rw [if_pos hfull]
  · rw [if_neg hfull]
    by_cases hends : (s.tables.hasVertex source && s.tables.hasVertex target) = true
    · obtain ⟨hsource, htarget⟩ := Bool.and_eq_true_iff.1 hends
      rw [if_pos hends]
      exact ReflTransGen.single (.arc _ _ _ (Int.not_le.1 hfull) rfl hsource htarget)
    · rw [if_neg hends]

theorem upsertEdge_grows (mode : WriteMode) (s : State) (source target : Int)
    (edgeType : String) (properties : PropertyMap) :
    ReflTransGen Grows s (s.upsertEdge mode source target edgeType properties).2 := by
  unfold upsertEdge
  cases mode with
  | create => exact insertEdge_grows s source target edgeType properties
  | merge =>
    cases s.existingEdge? source target edgeType properties with
    | some id => exact ReflTransGen.refl
    | none => exact insertEdge_grows s source target edgeType properties

/-! ## Steps -/

section Steps

variable {mode : WriteMode} {s s' : State}

/-- A step that stores a vertex, or nothing. -/
def VertexStep (mode : WriteMode) (s s' : State) : Prop :=
  s' = s ∨ ∃ labels properties, s' = (s.upsertVertex mode labels properties).2

/-- A step that stores an edge, or nothing. -/
def EdgeStep (mode : WriteMode) (s s' : State) : Prop :=
  s' = s ∨ ∃ source target edgeType properties,
    s' = (s.upsertEdge mode source target edgeType properties).2

theorem storeVertex_step (mode : WriteMode) (s : State) (v : Vertex) :
    VertexStep mode s (s.storeVertex mode v).2 := by
  unfold storeVertex
  split
  next => exact Or.inl rfl
  next =>
    refine Or.inr ⟨v.labels, v.properties, ?_⟩
    split
    next heq => rw [heq]
    next heq => rw [heq]

theorem settle_step (mode : WriteMode) (s : State) (role : Role) (vertex : Option Vertex)
    (endpoint : Endpoint) : VertexStep mode s (s.settle mode role vertex endpoint).2 := by
  cases endpoint with
  | stored id => exact Or.inl rfl
  | fresh =>
    cases vertex with
    | none => exact Or.inl rfl
    | some v => exact Or.inr ⟨v.labels, v.properties, rfl⟩

/-- Storing an edge whose endpoints were checked stores the one, the other and the edge, or
stops on the way. -/
theorem storeChecked_steps (mode : WriteMode) (s : State) (e : Edge)
    (source destination : Endpoint) : ∃ s₁ s₂, VertexStep mode s s₁ ∧ VertexStep mode s₁ s₂ ∧
      EdgeStep mode s₂ (s.storeChecked mode e source destination).2 := by
  have hfirst := settle_step mode s .source e.source source
  unfold storeChecked
  generalize s.settle mode .source e.source source = reply at hfirst ⊢
  obtain ⟨err | sourceId, s₁⟩ := reply
  · exact ⟨s₁, s₁, hfirst, Or.inl rfl, Or.inl rfl⟩
  have hsecond := settle_step mode s₁ .destination e.destination destination
  dsimp only
  generalize s₁.settle mode .destination e.destination destination = reply at hsecond ⊢
  obtain ⟨err | targetId, s₂⟩ := reply
  · exact ⟨s₁, s₂, hfirst, hsecond, Or.inl rfl⟩
  refine ⟨s₁, s₂, hfirst, hsecond, Or.inr ⟨sourceId, targetId, e.edgeType, e.properties, ?_⟩⟩
  dsimp only
  split
  next heq => rw [heq]
  next heq => rw [heq]

theorem storeEdge_steps (mode : WriteMode) (s : State) (e : Edge) :
    ∃ s₁ s₂, VertexStep mode s s₁ ∧ VertexStep mode s₁ s₂ ∧
      EdgeStep mode s₂ (s.storeEdge mode e).2 := by
  have hnothing : ∃ s₁ s₂, VertexStep mode s s₁ ∧ VertexStep mode s₁ s₂ ∧ EdgeStep mode s₂ s :=
    ⟨s, s, Or.inl rfl, Or.inl rfl, Or.inl rfl⟩
  unfold storeEdge
  split
  next => exact hnothing
  next =>
    split
    next => exact hnothing
    next source _ =>
      split
      next => exact hnothing
      next destination _ => exact storeChecked_steps mode s e source destination

theorem VertexStep.grows (h : VertexStep mode s s') : ReflTransGen Grows s s' := by
  rcases h with rfl | ⟨labels, properties, rfl⟩
  · exact ReflTransGen.refl
  · exact upsertVertex_grows mode s labels properties

theorem EdgeStep.grows (h : EdgeStep mode s s') : ReflTransGen Grows s s' := by
  rcases h with rfl | ⟨source, target, edgeType, properties, rfl⟩
  · exact ReflTransGen.refl
  · exact upsertEdge_grows mode s source target edgeType properties

/-- Storing a vertex inserts at most that vertex. -/
theorem storeVertex_grows (mode : WriteMode) (s : State) (v : Vertex) :
    ReflTransGen Grows s (s.storeVertex mode v).2 :=
  (storeVertex_step mode s v).grows

theorem settle_grows (mode : WriteMode) (s : State) (role : Role) (vertex : Option Vertex)
    (endpoint : Endpoint) : ReflTransGen Grows s (s.settle mode role vertex endpoint).2 :=
  (settle_step mode s role vertex endpoint).grows

/-- Storing an edge inserts at most its endpoints and then the edge. -/
theorem storeEdge_grows (mode : WriteMode) (s : State) (e : Edge) :
    ReflTransGen Grows s (s.storeEdge mode e).2 := by
  obtain ⟨s₁, s₂, hfirst, hsecond, hedge⟩ := storeEdge_steps mode s e
  exact (hfirst.grows.trans hsecond.grows).trans hedge.grows

end Steps

/-! ## Sequences of calls -/

theorem write_grows (s : State) (w : Write) : ReflTransGen Grows s (s.write w) := by
  cases w with
  | vertex mode v => exact storeVertex_grows mode s v
  | edge mode e => exact storeEdge_grows mode s e

/-- Any sequence of calls is a run of insertions. -/
theorem run_grows (writes : List Write) : ∀ s : State, ReflTransGen Grows s (s.run writes) := by
  induction writes with
  | nil => intro s; exact ReflTransGen.refl
  | cons w rest ih => intro s; exact (write_grows s w).trans (ih (s.write w))

end State
end PropertyGraph.Embedded
