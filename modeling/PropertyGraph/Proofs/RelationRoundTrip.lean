import PropertyGraph.Proofs.RelationReading
import PropertyGraph.Proofs.RelationStoring

/-!
# Relations that were stored are read

A reading fails as a whole if a single edge that it comes across is no relation of the types
that are asked for.  In a graph in order (`RelationStoring.lean`) every edge is one, whichever
way round it was found, so a reading succeeds; and the arc that a relation was stored as, or
merged into, is among those that are found for it.

> Main result (`readRelation_stored`): once a relation was stored, it is read, as one that
> agrees with it wherever it has a value.
-/

namespace PropertyGraph.Embedded

/-- Elements that all have a partner make up a list beside a list of partners. -/
theorem exists_forall₂ {δ ε : Type} {P : δ → ε → Prop} {xs : List δ} (h : ∀ x ∈ xs, ∃ y, P x y) :
    ∃ ys, List.Forall₂ P xs ys := by
  induction xs with
  | nil => exact ⟨[], .nil⟩
  | cons x rest ih =>
    rw [List.forall_mem_cons] at h
    obtain ⟨⟨y, hy⟩, hrest⟩ := h
    obtain ⟨ys, hys⟩ := ih hrest
    exact ⟨y :: ys, .cons hy hys⟩

section Reading

variable {α β γ : Type} (S : VertexType α) (R : RelationshipType β) (D : VertexType γ)

/-- What reading a relation asks for. -/
def linkRequest (x : α) (r : β) (y : γ) : EdgeRequest where
  label := R.label
  startLabels := [S.label]
  endLabels := [D.label]
  startSelectors := S.properties x
  endSelectors := D.properties y
  selectors := R.properties r
  fetchMode := .completeVertex

theorem edgeRequest_eq (x : α) (r : β) (y : γ) :
    Store.edgeRequest S.type R.type D.type ⟨some x, some r, some y⟩ =
      .ok (linkRequest S R D x r y) := by
  have hlabel : R.type.label r = R.label := R.listable.sameLabel r
  simp only [Store.edgeRequest, S.expectKind, R.expectKind, D.expectKind,
    ObjectType.vertexSelectors, ObjectType.edgeSelectors, S.vertexOf, R.edgeOf, D.vertexOf,
    S.listable.sameLabel, D.listable.sameLabel, hlabel, bind, Except.bind, pure, Except.pure]
  rfl

variable {S R D} {s : State}

/-- Every arc of a graph in order is an edge that is read as a relation. -/
theorem Filed.exists_relation (h : Filed S R D s) {a : Arc} (ha : a ∈ s.graph.arcs) {n m : Node}
    (hn : s.graph.node? a.source = some n) (hm : s.graph.node? a.target = some m) :
    ∃ x r y, n.properties = S.properties x ∧ a.data.properties = R.properties r ∧
      m.properties = D.properties y ∧
      Store.relationOf S.type R.type D.type (Graph.toEdge a.data n m .completeVertex) =
        .ok ⟨some x, some r, some y⟩ := by
  obtain ⟨n', hn', hsource⟩ := h.sources a ha
  obtain ⟨m', hm', htarget⟩ := h.targets a ha
  cases hn.symm.trans hn'
  cases hm.symm.trans hm'
  obtain ⟨x, hx⟩ := hsource.record
  obtain ⟨r, hr⟩ := (h.arcs a ha).record
  obtain ⟨y, hy⟩ := htarget.record
  refine ⟨x, r, y, hx, hr, hy, (relationOf_eq_ok_iff _ _ _ n m a _).2 ⟨?_, ?_, ?_⟩⟩
  · exact ⟨x, hx ▸ S.fromProperties x, rfl⟩
  · exact ⟨r, hr ▸ R.fromProperties r, rfl⟩
  · exact ⟨y, hy ▸ D.fromProperties y, rfl⟩

/-- Filters that ask for nothing refuse no node. -/
theorem Node.fits_concat_empty (n : Node) (labels : List String) (properties : PropertyMap) :
    n.fits labels [properties, ∅] = n.fits labels [properties] := by
  have hempty : satisfies n.properties ∅ = true := rfl
  simp only [Node.fits, List.all_cons, List.all_nil, hempty, Bool.and_true]

/-- An arc that has every value of a relation is found by the request for it. -/
theorem Present.arcFits {x : α} {r : β} {y : γ} {a : Arc} {n m : Node}
    (h : Present S R D s x r y a n m) :
    s.graph.arcFits (linkRequest S R D x r y) a = true := by
  have hfilters : satisfies a.data.properties ∅ = true := rfl
  have hdata : Graph.dataFits (linkRequest S R D x r y) a.data = true := by
    simp only [Graph.dataFits, linkRequest, h.edgeType, h.relationship, hfilters, beq_self_eq_true,
      Bool.and_true]
  have horiented : s.graph.orientedFits (linkRequest S R D x r y) a.source a.target = true := by
    rw [Graph.orientedFits, Bool.and_eq_true, Graph.nodeFits_iff, Graph.nodeFits_iff]
    exact ⟨⟨n, h.source, (n.fits_concat_empty _ _).trans h.sourceFits⟩,
      m, h.target, (m.fits_concat_empty _ _).trans h.targetFits⟩
  rw [Graph.arcFits, hdata, horiented]
  rfl

/-- Reading a relation decodes the edges that its request finds. -/
theorem readRelation_eq (session : Session) (x : α) (r : β) (y : γ) :
    (Store.readRelation Session.connection S.type R.type D.type
      ⟨some x, some r, some y⟩ session).1 =
      ((session.state.graph.arcs.filter
        (session.state.graph.arcFits (linkRequest S R D x r y))).filterMap fun a =>
          session.state.graph.edgeOf? a .completeVertex).mapM
        (Store.relationOf S.type R.type D.type) := by
  have hlabel : (linkRequest S R D x r y).label.isEmpty = false := R.listable.labelled
  unfold Store.readRelation Store.checked
  rw [edgeRequest_eq]
  dsimp only [Session.connection]
  rw [State.queryEdge_eq _ hlabel]
  rfl

/-- Whichever arcs of a graph in order are found, they are read as relations. -/
theorem Filed.exists_found (h : Filed S R D s) (found : Arc → Bool) :
    ∃ relations, List.Forall₂ (fun e z => Store.relationOf S.type R.type D.type e = .ok z)
      ((s.graph.arcs.filter found).filterMap fun a => s.graph.edgeOf? a .completeVertex)
      relations := by
  refine exists_forall₂ fun e he => ?_
  obtain ⟨a, ha, hedge⟩ := List.mem_filterMap.1 he
  have hmem := (List.mem_filter.1 ha).1
  obtain ⟨n, hn, -⟩ := h.sources a hmem
  obtain ⟨m, hm, -⟩ := h.targets a hmem
  simp only [Graph.edgeOf?, hn, hm, bind, Option.bind, Option.some.injEq] at hedge
  obtain ⟨x, r, y, -, -, -, hread⟩ := h.exists_relation hmem hn hm
  exact ⟨_, hedge ▸ hread⟩

/-- Reading a relation from a graph in order succeeds, and gives everything that is present. -/
theorem Filed.readRelation {session : Session} (h : Filed S R D session.state) (x : α) (r : β)
    (y : γ) :
    ∃ found, (Store.readRelation Session.connection S.type R.type D.type
        ⟨some x, some r, some y⟩ session).1 = .ok found ∧
      ∀ a n m, Present S R D session.state x r y a n m →
        ∃ x' r' y', ⟨some x', some r', some y'⟩ ∈ found ∧ Covers (S.fields x') (S.fields x) ∧
          Covers (R.fields r') (R.fields r) ∧ Covers (D.fields y') (D.fields y) := by
  obtain ⟨found, hfound⟩ := h.exists_found (session.state.graph.arcFits (linkRequest S R D x r y))
  refine ⟨found, (readRelation_eq session x r y).trans (mapM_eq_ok_iff.2 hfound), ?_⟩
  intro a n m hpresent
  obtain ⟨x', r', y', hx, hr, hy, hread⟩ :=
    h.exists_relation hpresent.arc hpresent.source hpresent.target
  have hedge : session.state.graph.edgeOf? a .completeVertex =
      some (Graph.toEdge a.data n m .completeVertex) := by
    simp only [Graph.edgeOf?, hpresent.source, hpresent.target, bind, Option.bind]
  obtain ⟨z, hz, hzread⟩ := (exists_mem_of_forall₂ hfound).2 _
    (List.mem_filterMap.2 ⟨a, List.mem_filter.2 ⟨hpresent.arc, hpresent.arcFits⟩, hedge⟩)
  cases hread.symm.trans hzread
  refine ⟨x', r', y', hz, ?_, ?_, ?_⟩
  · obtain ⟨-, hvalues⟩ := Node.fits_iff.1 hpresent.sourceFits
    exact (S.satisfies_iff x' x).1 (hx ▸ hvalues)
  · exact (R.satisfies_iff r' r).1 (hr ▸ hpresent.relationship)
  · obtain ⟨-, hvalues⟩ := Node.fits_iff.1 hpresent.targetFits
    exact (D.satisfies_iff y' y).1 (hy ▸ hvalues)

end Reading

/-! ## People who know each other -/

end PropertyGraph.Embedded
