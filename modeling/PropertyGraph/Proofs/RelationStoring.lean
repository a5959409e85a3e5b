import PropertyGraph.Proofs.EmbeddedOutcomes
import PropertyGraph.Proofs.RecordListing
import PropertyGraph.Proofs.StoredRecords

/-!
# Graphs of relations

Two types of vertices and a type of relationships store their objects in one embedded graph.
Merging may put an object in the place of an earlier and richer one, or a source in the place of
a destination.  The graph stays in order all the same (`Filed`): every node holds a vertex
record, every arc a relationship record, and what it joins are a source and a destination.

> `Filed.storeEdge`: storing a relation keeps the graph in order, and leaves the relation there
> if it succeeds.

> `Filed.carryOutAll`: any sequence of calls keeps the graph in order, whether they succeed or
> not.

The two types of vertices have to be one and the same or differ in their labels (`EndsApart`).
With a label in common, a source could be merged into a destination and then be read as what it
is not.
-/

open Relation (ReflTransGen)

namespace PropertyGraph.Embedded

/-! ## Graphs in order -/

/-- A node holds a record. -/
structure Node.Holds {α : Type} (n : Node) (S : VertexType α) : Prop where
  labels : n.labels = [S.label]
  record : ∃ x, n.properties = S.properties x

/-- A node fits a label and properties if it carries the one and has the others. -/
theorem Node.fits_iff {n : Node} {label : String} {properties : PropertyMap} :
    n.fits [label] [properties] = true ↔
      label ∈ n.labels ∧ satisfies n.properties properties = true := by
  simp only [Node.fits, Node.hasLabels, List.all_cons, List.all_nil, Bool.and_true,
    Bool.and_eq_true, List.contains_iff_mem]

/-- An arc holds a record. -/
structure Arc.Holds {β : Type} (a : Arc) (R : RelationshipType β) : Prop where
  edgeType : a.data.edgeType = R.label
  record : ∃ r, a.data.properties = R.properties r

section Filed

variable {α β γ : Type} (S : VertexType α) (R : RelationshipType β) (D : VertexType γ)

/-- The two types of vertices are one and the same, or differ in their labels. -/
def EndsApart : Prop := S.label ≠ D.label ∨ ∃ h : α = γ, h ▸ S.type = D.type

/-- A type of vertices that has its place in the graph: its records may be stored there, and
what they are merged into is a record of it. -/
structure Belongs {δ : Type} (T : VertexType δ) : Prop where
  stored : ∀ n : Node, n.Holds T → n.Holds S ∨ n.Holds D
  merged : ∀ n : Node, n.Holds S ∨ n.Holds D → T.label ∈ n.labels → n.Holds T

/-- The graph is in order: nodes and arcs hold records, and what an arc joins are a source and
a destination. -/
structure Filed (s : State) : Prop where
  inStep : s.InStep
  nodes : ∀ n ∈ s.graph.nodes, n.Holds S ∨ n.Holds D
  arcs : ∀ a ∈ s.graph.arcs, a.Holds R
  sources : ∀ a ∈ s.graph.arcs, ∃ n, s.graph.node? a.source = some n ∧ n.Holds S
  targets : ∀ a ∈ s.graph.arcs, ∃ m, s.graph.node? a.target = some m ∧ m.Holds D

/-- An arc and the nodes it joins have every value of a relation. -/
structure Present (s : State) (x : α) (r : β) (y : γ) (a : Arc) (n m : Node) : Prop where
  arc : a ∈ s.graph.arcs
  source : s.graph.node? a.source = some n
  target : s.graph.node? a.target = some m
  sourceFits : n.fits [S.label] [S.properties x] = true
  targetFits : m.fits [D.label] [D.properties y] = true
  edgeType : a.data.edgeType = R.label
  relationship : satisfies a.data.properties (R.properties r) = true

variable {S R D} {s s' : State}

/-- What is present stays present. -/
theorem Present.of_reflTransGen {x : α} {r : β} {y : γ} {a : Arc} {n m : Node}
    (h : Present S R D s x r y a n m) (hrun : ReflTransGen State.Grows s s') :
    Present S R D s' x r y a n m :=
  { h with
    arc := State.mem_arcs_of_reflTransGen h.arc hrun
    source := State.node?_of_reflTransGen h.source hrun
    target := State.node?_of_reflTransGen h.target hrun }

theorem EndsApart.symm (h : EndsApart S D) : EndsApart D S := by
  rcases h with hne | ⟨rfl, heq⟩
  · exact Or.inl hne.symm
  · exact Or.inr ⟨rfl, heq.symm⟩

/-- Among the nodes of a graph in order, those with the label of a type hold records of it. -/
theorem EndsApart.holds (h : EndsApart S D) {n : Node} (hn : n.Holds S ∨ n.Holds D)
    (hlabel : S.label ∈ n.labels) : n.Holds S := by
  rcases hn with hn | hn
  · exact hn
  · rcases h with hne | ⟨rfl, heq⟩
    · rw [hn.labels, List.mem_singleton] at hlabel
      exact absurd hlabel hne
    · -- One type under two names: its destinations are sources.
      obtain ⟨hsame, hproperties⟩ := VertexType.eq_of_type heq
      exact ⟨hn.labels.trans (by rw [hsame]), by rw [hproperties]; exact hn.record⟩

theorem EndsApart.source (h : EndsApart S D) : Belongs S D S :=
  ⟨fun _ => Or.inl, fun _ => h.holds⟩

theorem EndsApart.destination (h : EndsApart S D) : Belongs S D D :=
  ⟨fun _ => Or.inr, fun _ hn => h.symm.holds hn.symm⟩

/-! ## One call -/

/-- A vertex that holds a record may join the graph, or stand for it already. -/
theorem Filed.of_vertexOutcome (h : Filed S R D s) {labels : List String}
    {properties : PropertyMap} {result : Except GraphError Int}
    (houtcome : s.VertexOutcome labels properties (result, s'))
    (hgrows : ReflTransGen State.Grows s s')
    (hnew : ∀ id, Node.Holds ⟨id, labels, properties⟩ S ∨ Node.Holds ⟨id, labels, properties⟩ D) :
    Filed S R D s' := by
  cases houtcome with
  | full => exact h
  | reused n stored fits => exact h
  | inserted id =>
    refine ⟨h.inStep.of_reflTransGen hgrows, ?_, h.arcs, fun a ha => ?_, fun a ha => ?_⟩
    · intro n hn
      rcases List.mem_append.1 hn with hold | hlast
      · exact h.nodes n hold
      · rw [List.mem_singleton.1 hlast]
        exact hnew id
    · obtain ⟨n, hn, hholds⟩ := h.sources a ha
      exact ⟨n, State.node?_of_reflTransGen hn hgrows, hholds⟩
    · obtain ⟨m, hm, hholds⟩ := h.targets a ha
      exact ⟨m, State.node?_of_reflTransGen hm hgrows, hholds⟩

/-- Storing a record of either vertex type keeps the graph in order, and gives the number of a
node that holds a record of that type with every value of this one. -/
theorem Filed.upsertVertex (h : Filed S R D s) {δ : Type} {T : VertexType δ}
    (hT : Belongs S D T) (mode : WriteMode) (x : δ) {result : Except GraphError Int}
    (heq : s.upsertVertex mode [T.label] (T.properties x) = (result, s')) :
    Filed S R D s' ∧ ∀ id, result = .ok id → ∃ n ∈ s'.graph.nodes, n.id = id ∧ n.Holds T ∧
      n.fits [T.label] [T.properties x] = true := by
  have houtcome := State.upsertVertex_outcome mode s [T.label] (T.properties x)
  have hgrows := State.upsertVertex_grows mode s [T.label] (T.properties x)
  rw [heq] at houtcome hgrows
  have h' := h.of_vertexOutcome houtcome hgrows fun id => hT.stored _ ⟨rfl, x, rfl⟩
  refine ⟨h', ?_⟩
  rintro id rfl
  obtain ⟨n, hn, hid, hfits⟩ := houtcome.exists_node
  obtain ⟨hlabel, -⟩ := Node.fits_iff.1 hfits
  exact ⟨n, hn, hid, hT.merged n (h'.nodes n hn) hlabel, hfits⟩

/-- Storing a relationship between a source and a destination keeps the graph in order, and
leaves an arc between the two that has every value of it. -/
theorem Filed.upsertEdge (h : Filed S R D s) (mode : WriteMode) {n m : Node}
    (hn : n ∈ s.graph.nodes) (hm : m ∈ s.graph.nodes) (hsource : n.Holds S) (htarget : m.Holds D)
    (r : β) {result : Except GraphError Int}
    (heq : s.upsertEdge mode n.id m.id R.label (R.properties r) = (result, s')) :
    Filed S R D s' ∧ ∀ id, result = .ok id → ∃ a ∈ s'.graph.arcs,
      s'.graph.node? a.source = some n ∧ s'.graph.node? a.target = some m ∧
        a.data.edgeType = R.label ∧ satisfies a.data.properties (R.properties r) = true := by
  have houtcome := State.upsertEdge_outcome h.inStep (h.inStep.knows_of_mem hn)
    (h.inStep.knows_of_mem hm) R.label (R.properties r) mode
  have hgrows := State.upsertEdge_grows mode s n.id m.id R.label (R.properties r)
  rw [heq] at houtcome hgrows
  cases houtcome with
  | full =>
    refine ⟨h, fun id hid => ?_⟩
    cases hid
  | reused a stored hfirst hlast htype hproperties =>
    exact ⟨h, fun id _ => ⟨a, stored, h.inStep.node?_of_position? hn hfirst,
      h.inStep.node?_of_position? hm hlast, htype, hproperties⟩⟩
  | inserted first last id hfirst hlast =>
    have hfirst' := h.inStep.node?_of_position? hn hfirst
    have hlast' := h.inStep.node?_of_position? hm hlast
    refine ⟨⟨h.inStep.of_reflTransGen hgrows, h.nodes, ?_, ?_, ?_⟩, fun _ _ => ?_⟩
    · exact List.forall_mem_append.2
        ⟨h.arcs, List.forall_mem_singleton.2 ⟨rfl, r, rfl⟩⟩
    · exact List.forall_mem_append.2
        ⟨h.sources, List.forall_mem_singleton.2 ⟨n, hfirst', hsource⟩⟩
    · exact List.forall_mem_append.2
        ⟨h.targets, List.forall_mem_singleton.2 ⟨m, hlast', htarget⟩⟩
    · exact ⟨_, List.mem_append_right _ (List.mem_singleton.2 rfl), hfirst', hlast', rfl,
        satisfies_self _⟩

variable (S R D) in
/-- The edge that a relation asks to store, with its endpoints. -/
def linkOf (x : α) (r : β) (y : γ) : Edge :=
  ((R.edge r).withSource (S.vertex x)).withDestination (D.vertex y)

/-- Storing a relation keeps the graph in order, and if it succeeds the relation is there. -/
theorem Filed.storeEdge (h : Filed S R D s) (hends : EndsApart S D) (mode : WriteMode) (x : α)
    (r : β) (y : γ) :
    Filed S R D (s.storeEdge mode (linkOf S R D x r y)).2 ∧
      ((s.storeEdge mode (linkOf S R D x r y)).1.outcome = .ok () →
        ∃ a n m, Present S R D (s.storeEdge mode (linkOf S R D x r y)).2 x r y a n m) := by
  rw [State.storeEdge_fresh s mode R.listable.labelled rfl rfl rfl rfl rfl rfl]
  -- Three calls, each on the state that the one before left; the destination may be merged into
  -- the source that was just stored.
  unfold State.storeChecked State.settle linkOf
  dsimp only [Edge.withSource, Edge.withDestination, RelationshipType.edge, VertexType.vertex]
  cases heq₁ : s.upsertVertex mode [S.label] (S.properties x) with
  | mk result₁ s₁ =>
    obtain ⟨h₁, hsource⟩ := h.upsertVertex hends.source mode x heq₁
    cases result₁ with
    | error err => exact ⟨h₁, fun hok => by cases hok⟩
    | ok sourceId =>
      obtain ⟨n, hn, rfl, hnholds, hnfits⟩ := hsource sourceId rfl
      dsimp only
      cases heq₂ : s₁.upsertVertex mode [D.label] (D.properties y) with
      | mk result₂ s₂ =>
        obtain ⟨h₂, htarget⟩ := h₁.upsertVertex hends.destination mode y heq₂
        cases result₂ with
        | error err => exact ⟨h₂, fun hok => by cases hok⟩
        | ok targetId =>
          obtain ⟨m, hm, rfl, hmholds, hmfits⟩ := htarget targetId rfl
          have hgrows₂ := State.upsertVertex_grows mode s₁ [D.label] (D.properties y)
          rw [heq₂] at hgrows₂
          dsimp only
          cases heq₃ : s₂.upsertEdge mode n.id m.id R.label (R.properties r) with
          | mk result₃ s₃ =>
            obtain ⟨h₃, hlink⟩ := h₂.upsertEdge mode
              (State.mem_nodes_of_reflTransGen hn hgrows₂) hm hnholds hmholds r heq₃
            cases result₃ with
            | error err => exact ⟨h₃, fun hok => by cases hok⟩
            | ok id =>
              obtain ⟨a, ha, hfirst, hlast, htype, hproperties⟩ := hlink id rfl
              exact ⟨h₃, fun _ =>
                ⟨a, n, m, ha, hfirst, hlast, hnfits, hmfits, htype, hproperties⟩⟩

/-- Storing a vertex of either type keeps the graph in order. -/
theorem Filed.storeVertex (h : Filed S R D s) {δ : Type} {T : VertexType δ}
    (hT : Belongs S D T) (mode : WriteMode) (x : δ) :
    Filed S R D (s.storeVertex mode (T.vertex x)).2 := by
  unfold State.storeVertex VertexType.vertex
  rw [if_neg (by simp)]
  dsimp only
  cases heq : s.upsertVertex mode [T.label] (T.properties x) with
  | mk result s' =>
    obtain ⟨h', -⟩ := h.upsertVertex hT mode x heq
    cases result with
    | error err => exact h'
    | ok id => exact h'

end Filed

/-! ## Calls -/

namespace Session

variable {α β γ : Type} (ts : ObjectType α) (tr : ObjectType β) (td : ObjectType γ)

/-- Stores a relation in the given mode. -/
def relate (s : Session) (mode : WriteMode) (relation : Relation α β γ) :
    Reply Session Persisted :=
  Store.persistRelation connection ts tr td relation (s.withWriteMode mode)

end Session

section Calls

variable {α β γ : Type} {S : VertexType α} {R : RelationshipType β} {D : VertexType γ}
  {s : Session}

theorem relationRequest_eq (S : VertexType α) (R : RelationshipType β) (D : VertexType γ) (x : α)
    (r : β) (y : γ) :
    Store.relationRequest S.type R.type D.type ⟨some x, some r, some y⟩ =
      .ok (.edge (linkOf S R D x r y)) := by
  simp only [Store.relationRequest, S.expectKind, R.expectKind, D.expectKind, S.vertexOf,
    R.edgeOf, D.vertexOf, bind, Except.bind, pure, Except.pure]
  rfl

/-- A whole relation makes one call, with its edge. -/
theorem relate_eq (S : VertexType α) (R : RelationshipType β) (D : VertexType γ) (s : Session)
    (mode : WriteMode) (x : α) (r : β) (y : γ) :
    s.relate S.type R.type D.type mode ⟨some x, some r, some y⟩ =
      let (stored, state) := s.state.storeEdge mode (linkOf S R D x r y)
      (stored.outcome.map fun _ => .edge stored.element, ⟨state, mode⟩) := by
  unfold Session.relate Store.persistRelation Store.checked
  rw [relationRequest_eq]
  dsimp only [Store.callEdge, Session.connection, Session.withWriteMode]
  generalize s.state.storeEdge mode (linkOf S R D x r y) = reply
  obtain ⟨⟨outcome, e⟩, state⟩ := reply
  cases outcome <;> rfl

/-- A relation that is refused makes no call. -/
theorem relate_refused {ts : ObjectType α} {tr : ObjectType β} {td : ObjectType γ}
    {relation : Relation α β γ} {err : GraphError}
    (h : Store.relationRequest ts tr td relation = .error err) (s : Session) (mode : WriteMode) :
    (s.relate ts tr td mode relation).2.state = s.state := by
  unfold Session.relate Store.persistRelation Store.checked
  rw [h]
  rfl

/-- Storing a relation keeps the graph in order, whichever of its parts are given. -/
theorem Filed.relate (h : Filed S R D s.state) (hends : EndsApart S D) (mode : WriteMode)
    (relation : Relation α β γ) :
    Filed S R D (s.relate S.type R.type D.type mode relation).2.state := by
  have hrefused : ∀ {relation : Relation α β γ} {err : GraphError},
      Store.relationRequest S.type R.type D.type relation = .error err →
        Filed S R D (s.relate S.type R.type D.type mode relation).2.state := by
    intro relation err herr
    rw [relate_refused herr]
    exact h
  obtain ⟨source, relationship, destination⟩ := relation
  match source, relationship, destination with
  | none, _, _ => exact hrefused rfl
  | some x, none, none =>
    have hrequest : Store.relationRequest S.type R.type D.type ⟨some x, none, none⟩ =
        .ok (.vertex (S.vertex x)) := by
      simp only [Store.relationRequest, S.expectKind, S.vertexOf, bind, Except.bind, pure,
        Except.pure]
    unfold Session.relate Store.persistRelation Store.checked
    rw [hrequest]
    exact h.storeVertex hends.source mode x
  | some x, none, some y =>
    have herr : Store.relationRequest S.type R.type D.type ⟨some x, none, some y⟩ =
        .error (Store.invalidRelation
          "relationship must be specified when a destination vertex is present") := by
      simp only [Store.relationRequest, S.expectKind, bind, Except.bind]
    exact hrefused herr
  | some x, some r, none =>
    have herr : Store.relationRequest S.type R.type D.type ⟨some x, some r, none⟩ =
        .error (Store.invalidRelation
          "destination vertex must be specified when a relationship is present") := by
      simp only [Store.relationRequest, S.expectKind, bind, Except.bind]
    exact hrefused herr
  | some x, some r, some y =>
    rw [relate_eq]
    exact (h.storeEdge hends mode x r y).1

end Calls

end PropertyGraph.Embedded
