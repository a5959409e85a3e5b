import PropertyGraph.Proofs.ReachableStates

/-!
# Answers that are kept

Storing adds to the end of a graph and touches nothing that is there: each step of a call adds
at most one element (`VertexStep.extends`, `EdgeStep.extends`).  Queries return what they find in
the order in which it was stored, and whether an arc fits a request depends on nothing but itself
and its two nodes.  So an answer that was given once only ever gets longer.

> Main result (`write_keeps`): a call on a reachable graph adds at most one vertex, or two and
> an edge; the answer to every query is continued by the answer to the same query after it; and
> a vertex that was stored is found, by each of its labels and with its own properties as
> selectors, whatever is stored later.
-/

namespace PropertyGraph.Embedded

/-- A list is followed by at most a number of new elements. -/
def Extended {α : Type} (most : Nat) (before after : List α) : Prop :=
  ∃ added, after = before ++ added ∧ added.length ≤ most

namespace Extended

variable {α : Type} {most most' : Nat} {xs ys zs : List α}

theorem refl (most : Nat) (xs : List α) : Extended most xs xs :=
  ⟨[], (List.append_nil xs).symm, Nat.zero_le most⟩

theorem concat (xs : List α) (x : α) : Extended 1 xs (xs ++ [x]) := ⟨[x], rfl, Nat.le_refl 1⟩

theorem trans (h : Extended most xs ys) (h' : Extended most' ys zs) :
    Extended (most + most') xs zs := by
  obtain ⟨added, rfl, hadded⟩ := h
  obtain ⟨more, rfl, hmore⟩ := h'
  refine ⟨added ++ more, List.append_assoc xs added more, ?_⟩
  rw [List.length_append]
  exact Nat.add_le_add hadded hmore

/-- What stands at a position stays there. -/
theorem getElem?_eq (h : Extended most xs ys) {i : Nat} (hi : i < xs.length) : ys[i]? = xs[i]? := by
  obtain ⟨added, rfl, -⟩ := h
  exact List.getElem?_append_left hi

end Extended

/-- One answer goes on where another one ends, or both are the same refusal. -/
def Continues {α : Type} : Except GraphError (List α) → Except GraphError (List α) → Prop
  | .ok before, .ok after => before <+: after
  | .error err, .error err' => err = err'
  | _, _ => False

/-- Properties include others: each of these is there with an equal value. -/
def Includes (properties expected : PropertyMap) : Prop :=
  ∀ key value, expected.get? key = some value →
    ∃ stored, properties.get? key = some stored ∧ (stored == value) = true

/-- A vertex contains another one: it has all of its labels and properties. -/
structure Contains (stored v : Vertex) : Prop where
  labels : ∀ label ∈ v.labels, label ∈ stored.labels
  properties : Includes stored.properties v.properties

/-- A node fits labels and maps if it has these labels and its properties include each map. -/
theorem Node.fits_iff_includes {n : Node} {labels : List String} {constraints : List PropertyMap} :
    n.fits labels constraints = true ↔
      (∀ label ∈ labels, label ∈ n.labels) ∧ ∀ m ∈ constraints, Includes n.properties m := by
  simp only [Node.fits, Node.hasLabels, Bool.and_eq_true, List.all_eq_true, List.contains_iff_mem,
    satisfies_iff]
  exact Iff.rfl

/-- Looking for the labels and properties of a vertex finds the nodes that contain it. -/
theorem Node.fits_iff_contains {n : Node} {v : Vertex} :
    n.fits v.labels [v.properties] = true ↔ Contains n.toVertex v := by
  rw [Node.fits_iff_includes, List.forall_mem_singleton]
  exact ⟨fun h => ⟨h.1, h.2⟩, fun h => ⟨h.1, h.2⟩⟩

namespace Write

/-- The mode in which a call is carried out. -/
def mode : Write → WriteMode
  | .vertex mode _ => mode
  | .edge mode _ => mode

/-- How many vertices a call adds at most. -/
def mostVertices : Write → Nat
  | .vertex _ _ => 1
  | .edge _ _ => 2

/-- How many edges a call adds at most. -/
def mostEdges : Write → Nat
  | .vertex _ _ => 0
  | .edge _ _ => 1

end Write

namespace State

variable {mode : WriteMode} {s s' : State}

/-! ## Growth -/

/-- A state has the nodes and arcs of another one, and at most so many more behind them. -/
structure Extends (vertices edges : Nat) (s s' : State) : Prop where
  nodes : Extended vertices s.graph.nodes s'.graph.nodes
  arcs : Extended edges s.graph.arcs s'.graph.arcs

theorem Extends.refl (vertices edges : Nat) (s : State) : Extends vertices edges s s :=
  ⟨.refl vertices _, .refl edges _⟩

theorem Extends.trans {s₁ s₂ s₃ : State} {v v' e e' : Nat} (h : Extends v e s₁ s₂)
    (h' : Extends v' e' s₂ s₃) : Extends (v + v') (e + e') s₁ s₃ :=
  ⟨h.nodes.trans h'.nodes, h.arcs.trans h'.arcs⟩

theorem VertexStep.extends (h : VertexStep mode s s') : Extends 1 0 s s' := by
  rcases h with rfl | ⟨labels, properties, rfl⟩
  · exact .refl 1 0 s'
  · have houtcome := upsertVertex_outcome mode s labels properties
    generalize s.upsertVertex mode labels properties = reply at houtcome ⊢
    cases houtcome with
    | full => exact .refl 1 0 s
    | reused n stored fits => exact .refl 1 0 s
    | inserted id => exact ⟨.concat _ _, .refl 0 _⟩

/-- An edge is added behind the others, if the graph knows its endpoints. -/
theorem extends_addEdge? (s : State) (tables : Tables) (source target : Int) (d : EdgeData) :
    Extends 0 1 s ⟨tables, (s.graph.addEdge? source target d).getD s.graph⟩ := by
  unfold Graph.addEdge?
  split
  next => exact ⟨.refl 0 _, .concat _ _⟩
  next => exact ⟨.refl 0 _, .refl 1 _⟩

theorem insertEdge_extends (s : State) (source target : Int) (edgeType : String)
    (properties : PropertyMap) :
    Extends 0 1 s (s.insertEdge source target edgeType properties).2 := by
  rw [insertEdge_eq]
  split
  next => exact .refl 0 1 s
  next =>
    split
    next => exact s.extends_addEdge? _ source target _
    next => exact .refl 0 1 s

theorem EdgeStep.extends (h : EdgeStep mode s s') : Extends 0 1 s s' := by
  rcases h with rfl | ⟨source, target, edgeType, properties, rfl⟩
  · exact .refl 0 1 s'
  · unfold upsertEdge
    cases mode with
    | create => exact insertEdge_extends s source target edgeType properties
    | merge =>
      cases s.existingEdge? source target edgeType properties with
      | some id => exact .refl 0 1 s
      | none => exact insertEdge_extends s source target edgeType properties

theorem write_extends (s : State) (w : Write) :
    Extends w.mostVertices w.mostEdges s (s.write w) := by
  cases w with
  | vertex mode v => exact (storeVertex_step mode s v).extends
  | edge mode e =>
    obtain ⟨s₁, s₂, hfirst, hsecond, hedge⟩ := storeEdge_steps mode s e
    exact (hfirst.extends.trans hsecond.extends).trans hedge.extends

/-! ## Answers -/

/-- Whether an arc fits a request, and the edge it is returned as, is a matter of its nodes. -/
theorem arcFits_eq_of_node? {g g' : Graph} {a : Arc}
    (hsource : g'.node? a.source = g.node? a.source)
    (htarget : g'.node? a.target = g.node? a.target) (r : EdgeRequest) :
    g'.arcFits r a = g.arcFits r a ∧ g'.edgeOf? a r.fetchMode = g.edgeOf? a r.fetchMode := by
  simp only [Graph.arcFits, Graph.orientedFits, Graph.nodeFits, Graph.edgeOf?, hsource, htarget,
    and_self]

variable {vertices edges : Nat}

theorem Extends.queryVertex (h : Extends vertices edges s s') (label : String)
    (selectors filters : PropertyMap) :
    Continues (s.queryVertex label selectors filters) (s'.queryVertex label selectors filters) := by
  cases hlabel : label.isEmpty with
  | true =>
    unfold State.queryVertex
    rw [if_pos hlabel, if_pos hlabel]
    exact rfl
  | false =>
    obtain ⟨added, hnodes, -⟩ := h.nodes
    rw [queryVertex_eq s hlabel, queryVertex_eq s' hlabel, hnodes, List.filter_append,
      List.map_append]
    exact List.prefix_append _ _

theorem Extends.queryEdge (h : Extends vertices edges s s') (hstep : s.InStep) (r : EdgeRequest) :
    Continues (s.queryEdge r) (s'.queryEdge r) := by
  cases hlabel : r.label.isEmpty with
  | true =>
    unfold State.queryEdge
    rw [if_pos hlabel, if_pos hlabel]
    exact rfl
  | false =>
    obtain ⟨added, harcs, -⟩ := h.arcs
    -- The nodes of an arc that is there are there too, and stay where they are.
    have hsame : ∀ a ∈ s.graph.arcs, s'.graph.arcFits r a = s.graph.arcFits r a ∧
        s'.graph.edgeOf? a r.fetchMode = s.graph.edgeOf? a r.fetchMode := by
      intro a ha
      obtain ⟨hsource, htarget⟩ := hstep.wellFormed.joined a ha
      exact arcFits_eq_of_node? (h.nodes.getElem?_eq hsource) (h.nodes.getElem?_eq htarget) r
    have hold : (s.graph.arcs.filter (s'.graph.arcFits r)).filterMap
          (fun a => s'.graph.edgeOf? a r.fetchMode) =
        (s.graph.arcs.filter (s.graph.arcFits r)).filterMap
          (fun a => s.graph.edgeOf? a r.fetchMode) := by
      rw [List.filter_congr fun a ha => (hsame a ha).1]
      exact List.filterMap_congr fun a ha => (hsame a (List.mem_of_mem_filter ha)).2
    rw [queryEdge_eq s hlabel, queryEdge_eq s' hlabel, harcs, List.filter_append,
      List.filterMap_append, hold]
    exact List.prefix_append _ _

/-! ## Vertices that were stored -/

/-- After a vertex was stored there is a node with its identifier that contains it. -/
theorem exists_contains_of_storeVertex {v : Vertex}
    (hok : (s.storeVertex mode v).1.outcome = .ok ()) :
    ∃ n ∈ (s.storeVertex mode v).2.graph.nodes,
      (s.storeVertex mode v).1.element.id = n.toVertex.id ∧ Contains n.toVertex v := by
  have houtcome := upsertVertex_outcome mode s v.labels v.properties
  unfold storeVertex at hok ⊢
  split at hok
  next => cases hok
  next hlabels =>
    rw [if_neg hlabels]
    generalize s.upsertVertex mode v.labels v.properties = reply at hok houtcome ⊢
    obtain ⟨err | id, s'⟩ := reply
    · cases hok
    · obtain ⟨n, hn, rfl, hfits⟩ := houtcome.exists_node
      exact ⟨n, hn, rfl, Node.fits_iff_contains.1 hfits⟩

/-- A node is found by each label of a vertex that it contains, with the properties of that as
selectors. -/
theorem exists_queryVertex {n : Node} (hn : n ∈ s.graph.nodes) {v : Vertex}
    (hcontains : Contains n.toVertex v) {label : String} (hmem : label ∈ v.labels)
    (hlabel : label ≠ "") :
    ∃ found, s.queryVertex label v.properties ∅ = .ok found ∧ n.toVertex ∈ found := by
  have hnonempty : label.isEmpty = false :=
    Bool.eq_false_iff.2 fun hempty => hlabel (String.isEmpty_iff.1 hempty)
  have hlabels : ∀ other ∈ [label], other ∈ n.labels :=
    List.forall_mem_singleton.2 (hcontains.labels label hmem)
  have hone : n.fits [label] [v.properties] = true :=
    Node.fits_iff_contains (v := { labels := [label], properties := v.properties }).2
      ⟨hlabels, hcontains.properties⟩
  have hfits : n.fits [label] [v.properties, ∅] = true := by
    have hnone : satisfies n.properties ∅ = true := rfl
    simpa [Node.fits, hnone] using hone
  exact ⟨_, queryVertex_eq s hnonempty v.properties ∅,
    List.mem_map_of_mem (List.mem_filter.2 ⟨hn, hfits⟩)⟩

end State

namespace Session

variable {s : Session}

theorem state_write (s : Session) (w : Write) : (s.write w).state = s.state.write w := by
  cases w <;> rfl

/-- **Nothing that was stored is lost.**  A call on a graph in any reachable state, in either
mode and whether it succeeds or not, leaves all vertices and edges as and where they are and
adds at most one vertex, or two and an edge, behind them.  The answer to every query is
continued by the answer to the same query after the call.  If the call stored a vertex, then
after any further calls a query for each of its labels, with its properties as selectors, finds
a vertex with its identifier that contains it. -/
theorem write_keeps (h : s.state.Reachable) (w : Write) :
    Extended w.mostVertices s.state.graph.nodes (s.write w).state.graph.nodes ∧
    Extended w.mostEdges s.state.graph.arcs (s.write w).state.graph.arcs ∧
    (∀ label selectors filters params,
      Continues (connection.queryVertex label selectors filters params s).1
        (connection.queryVertex label selectors filters params (s.write w)).1) ∧
    (∀ r, Continues (connection.queryEdge r s).1 (connection.queryEdge r (s.write w)).1) ∧
    ∀ mode v, w = .vertex mode v →
      (connection.storeVertex v (s.withWriteMode mode)).1.outcome = .ok () →
      ∀ label ∈ v.labels, label ≠ "" → ∀ later params, ∃ found,
        (connection.queryVertex label v.properties ∅ params ((s.write w).run later)).1 =
          .ok found ∧
        ∃ stored ∈ found,
          stored.id = (connection.storeVertex v (s.withWriteMode mode)).1.element.id ∧
          Contains stored v := by
  have hextends : State.Extends w.mostVertices w.mostEdges s.state (s.write w).state := by
    rw [state_write]
    exact s.state.write_extends w
  refine ⟨hextends.nodes, hextends.arcs, fun label selectors filters _ =>
    hextends.queryVertex label selectors filters, hextends.queryEdge h.inStep, ?_⟩
  rintro mode v rfl hok label hmem hlabel later params
  obtain ⟨n, hn, hid, hcontains⟩ := State.exists_contains_of_storeVertex hok
  have hkept : n ∈ ((s.write (.vertex mode v)).run later).state.graph.nodes := by
    rw [state_run]
    exact State.mem_nodes_of_reflTransGen hn (State.run_grows later _)
  obtain ⟨found, hfound, hmem⟩ := State.exists_queryVertex hkept hcontains hmem hlabel
  exact ⟨found, hfound, n.toVertex, hmem, hid.symm, hcontains⟩

/-- A person who is stored again, with less than is known. -/
def samplePerson : Vertex := { labels := ["Friend", "Person"] }

/-- The second vertex of the sample is found for a person who is stored again, whatever else is
stored. -/
theorem write_keeps_samplePerson :
    let s := (Session.run {} sampleWrites).withWriteMode .merge
    s.state.Reachable ∧ (connection.storeVertex samplePerson s).1.outcome = .ok () ∧
      ∀ later, ∃ found, (connection.queryVertex "Friend" ∅ ∅ ∅
          ((s.write (.vertex .merge samplePerson)).run later)).1 = .ok found ∧
        ∃ stored ∈ found, stored.id = some (Identifier.ofInt 2) ∧ Contains stored samplePerson := by
  have hreachable : (Session.run {} sampleWrites).state.Reachable := by
    rw [state_run]
    exact (State.Reachable.new State.ofTables_empty).run sampleWrites
  have hok : (connection.storeVertex samplePerson
      ((Session.run {} sampleWrites).withWriteMode .merge)).1.outcome = .ok () := by rfl
  refine ⟨hreachable, hok, fun later => ?_⟩
  obtain ⟨-, -, -, -, hvertex⟩ := write_keeps
    (s := (Session.run {} sampleWrites).withWriteMode .merge) hreachable
    (.vertex .merge samplePerson)
  exact hvertex .merge samplePerson rfl hok "Friend" List.mem_cons_self (by decide) later ∅

end Session
end PropertyGraph.Embedded
