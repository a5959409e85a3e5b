import PropertyGraph.Embedded.Session
import PropertyGraph.Proofs.GraphSearch
import PropertyGraph.Proofs.PropertyMapping

/-!
# Which relations are read

An example relation becomes a request, the request a search for arcs, and every arc that is
found is read as a relation.  The search is undirected: the example's source may be met by
either end of an arc.  An arc is read in the direction in which it is stored, though, so what
comes back as a source need not be like the example's (`readRelation_reversed`).

> Main result (`readRelation_fits`): the relations that are read are those of the arcs like
> the example's relationship whose ends are like its source and destination, in this order or
> the other.

"Like" is `Node.Like` and `Arc.Like`: the label or type of the object, and an equal value for
every property that the object has a value for.
-/

namespace PropertyGraph

namespace ObjectType

variable {α : Type} {t : ObjectType α} {object : α}

/-- An object as a vertex has the properties of its record, without the nulls. -/
theorem vertexOf_eq_ok {v : Vertex} (h : t.vertexOf object = .ok v) :
    ∃ w, t.toVertex object [t.label object] = .ok w ∧
      v = w.withProperties (nonNull w.properties) := by
  unfold vertexOf at h
  cases hw : t.toVertex object [t.label object] with
  | error e => rw [hw] at h; cases h
  | ok w =>
    rw [hw] at h
    cases h
    exact ⟨w, rfl, rfl⟩

/-- An object as an edge has the properties of its record, without the nulls. -/
theorem edgeOf_eq_ok {e : Edge} (h : t.edgeOf object = .ok e) :
    ∃ bare, t.toEdge object (some (t.label object)) = .ok bare ∧
      e = bare.withProperties (nonNull bare.properties) := by
  unfold edgeOf at h
  cases hbare : t.toEdge object (some (t.label object)) with
  | error e => rw [hbare] at h; cases h
  | ok bare =>
    rw [hbare] at h
    cases h
    exact ⟨bare, rfl, rfl⟩

end ObjectType

namespace Embedded

variable {α β γ : Type}

/-- A stored vertex is like an object. -/
structure Node.Like (n : Node) (t : ObjectType α) (object : α) : Prop where
  label : t.label object ∈ n.labels
  properties : ∃ v, t.toVertex object [t.label object] = .ok v ∧ Covers n.properties v.properties

/-- A stored edge is like a relationship. -/
structure Arc.Like (a : Arc) (t : ObjectType β) (object : β) : Prop where
  edgeType : a.data.edgeType = t.label object
  properties : ∃ e, t.toEdge object (some (t.label object)) = .ok e ∧
    Covers a.data.properties e.properties

/-- The parts of a relation are read from a stored edge and its source and target. -/
structure DecodesTo (ts : ObjectType α) (tr : ObjectType β) (td : ObjectType γ)
    (source : Node) (a : Arc) (target : Node) (x : Relation α β γ) : Prop where
  source : ∃ start, ts.fromProperties source.properties ts.initial = .ok start ∧
    x.source = some start
  relationship : ∃ edge, tr.fromProperties a.data.properties tr.initial = .ok edge ∧
    x.relationship = some edge
  destination : ∃ finish, td.fromProperties target.properties td.initial = .ok finish ∧
    x.destination = some finish

/-! ## The request -/

theorem vertexSelectors_eq_ok {t : ObjectType α} {object : α} {selectors : PropertyMap}
    (h : t.vertexSelectors object = .ok selectors) :
    ∃ v, t.toVertex object [t.label object] = .ok v ∧ selectors = nonNull v.properties := by
  unfold ObjectType.vertexSelectors at h
  cases hv : t.vertexOf object with
  | error e => rw [hv] at h; cases h
  | ok v =>
    rw [hv] at h
    cases h
    obtain ⟨w, hw, rfl⟩ := ObjectType.vertexOf_eq_ok hv
    exact ⟨w, hw, rfl⟩

theorem edgeSelectors_eq_ok {t : ObjectType β} {object : β} {selectors : PropertyMap}
    (h : t.edgeSelectors object = .ok selectors) :
    ∃ e, t.toEdge object (some (t.label object)) = .ok e ∧ selectors = nonNull e.properties := by
  unfold ObjectType.edgeSelectors at h
  cases he : t.edgeOf object with
  | error e => rw [he] at h; cases h
  | ok e =>
    rw [he] at h
    cases h
    obtain ⟨bare, hbare, rfl⟩ := ObjectType.edgeOf_eq_ok he
    exact ⟨bare, hbare, rfl⟩

/-- A node fits the label and the selectors of an object when it is like the object. -/
theorem Node.fits_iff_like {t : ObjectType α} {object : α} {selectors : PropertyMap}
    (h : t.vertexSelectors object = .ok selectors) (n : Node) :
    n.fits [t.label object] [selectors, ∅] = true ↔ n.Like t object := by
  obtain ⟨v, hv, rfl⟩ := vertexSelectors_eq_ok h
  have hempty : satisfies n.properties ∅ = true := rfl
  simp only [Node.fits, Node.hasLabels, List.all_cons, List.all_nil, Bool.and_true,
    Bool.and_eq_true, hempty, List.contains_iff_mem, satisfies_nonNull_iff]
  constructor
  · rintro ⟨hlabel, hcovers⟩
    exact ⟨hlabel, v, hv, hcovers⟩
  · rintro ⟨hlabel, v', hv', hcovers⟩
    cases hv.symm.trans hv'
    exact ⟨hlabel, hcovers⟩

/-- What an arc carries fits the type and the selectors of a relationship when the arc is like
it. -/
theorem Arc.dataFits_iff_like {t : ObjectType β} {object : β} {r : EdgeRequest}
    (hlabel : r.label = t.label object) (hselectors : t.edgeSelectors object = .ok r.selectors)
    (hfilters : r.filters = ∅) (a : Arc) :
    Graph.dataFits r a.data = true ↔ a.Like t object := by
  obtain ⟨e, he, heq⟩ := edgeSelectors_eq_ok hselectors
  have hempty : satisfies a.data.properties ∅ = true := rfl
  simp only [Graph.dataFits, Bool.and_eq_true, hfilters, hempty, and_true, beq_iff_eq, heq,
    satisfies_nonNull_iff, hlabel]
  constructor
  · rintro ⟨htype, hcovers⟩
    exact ⟨htype, e, he, hcovers⟩
  · rintro ⟨htype, e', he', hcovers⟩
    cases he.symm.trans he'
    exact ⟨htype, hcovers⟩

/-- A request made from an example asks for the types and the selectors of its parts, and for
whole endpoints. -/
theorem edgeRequest_eq_ok {ts : ObjectType α} {tr : ObjectType β} {td : ObjectType γ}
    {source : α} {relationship : β} {destination : γ} {r : EdgeRequest}
    (h : Store.edgeRequest ts tr td ⟨some source, some relationship, some destination⟩ = .ok r) :
    ∃ startSelectors endSelectors selectors, ts.vertexSelectors source = .ok startSelectors ∧
      td.vertexSelectors destination = .ok endSelectors ∧
      tr.edgeSelectors relationship = .ok selectors ∧
      r = {
        label := tr.label relationship
        startLabels := [ts.label source]
        endLabels := [td.label destination]
        startSelectors, endSelectors, selectors
        fetchMode := .completeVertex } := by
  simp only [Store.edgeRequest, bind_eq_ok_iff, pure, Except.pure] at h
  obtain ⟨_, -, _, -, _, -, startSelectors, hstart, endSelectors, hend, selectors, hselectors,
    hr⟩ := h
  exact ⟨startSelectors, endSelectors, selectors, hstart, hend, hselectors,
    (Except.ok.inj hr).symm⟩

/-! ## The search -/

section Search

variable {ts : ObjectType α} {tr : ObjectType β} {td : ObjectType γ} {source : α}
  {relationship : β} {destination : γ} {r : EdgeRequest}
  (request : Store.edgeRequest ts tr td ⟨some source, some relationship, some destination⟩ = .ok r)

include request

/-- Two positions can be the start and the end of a request when their nodes are like the
example's source and destination. -/
theorem orientedFits_iff_like (g : Graph) (first last : Nat) :
    g.orientedFits r first last = true ↔ ∃ n m, g.node? first = some n ∧
      g.node? last = some m ∧ n.Like ts source ∧ m.Like td destination := by
  obtain ⟨startSelectors, endSelectors, selectors, hstart, hend, -, rfl⟩ :=
    edgeRequest_eq_ok request
  rw [Graph.orientedFits, Bool.and_eq_true, Graph.nodeFits_iff, Graph.nodeFits_iff]
  simp only [Node.fits_iff_like hstart, Node.fits_iff_like hend]
  constructor
  · rintro ⟨⟨n, hn, hsource⟩, m, hm, hdestination⟩
    exact ⟨n, m, hn, hm, hsource, hdestination⟩
  · rintro ⟨n, m, hn, hm, hsource, hdestination⟩
    exact ⟨⟨n, hn, hsource⟩, m, hm, hdestination⟩

/-- The search accepts the arcs that are like the relationship and whose ends are like the
source and the destination, whichever way round. -/
theorem arcFits_iff_like (g : Graph) (a : Arc) :
    g.arcFits r a = true ↔ ∃ n m, g.node? a.source = some n ∧ g.node? a.target = some m ∧
      a.Like tr relationship ∧
      (n.Like ts source ∧ m.Like td destination ∨ m.Like ts source ∧ n.Like td destination) := by
  have hdata : Graph.dataFits r a.data = true ↔ a.Like tr relationship := by
    obtain ⟨-, -, selectors, -, -, hselectors, rfl⟩ := edgeRequest_eq_ok request
    exact a.dataFits_iff_like rfl hselectors rfl
  rw [Graph.arcFits, Bool.and_eq_true, Bool.or_eq_true, hdata, orientedFits_iff_like request,
    orientedFits_iff_like request]
  constructor
  · rintro ⟨hlike, ⟨n, m, hn, hm, hends⟩ | ⟨m, n, hm, hn, hends⟩⟩
    · exact ⟨n, m, hn, hm, hlike, Or.inl hends⟩
    · exact ⟨n, m, hn, hm, hlike, Or.inr hends⟩
  · rintro ⟨n, m, hn, hm, hlike, hends | hends⟩
    · exact ⟨hlike, Or.inl ⟨n, m, hn, hm, hends⟩⟩
    · exact ⟨hlike, Or.inr ⟨m, n, hm, hn, hends⟩⟩

end Search

/-! ## The answer -/

/-- A whole edge is read from its own properties and those of its stored ends. -/
theorem relationOf_eq_ok_iff (ts : ObjectType α) (tr : ObjectType β) (td : ObjectType γ)
    (n m : Node) (a : Arc) (x : Relation α β γ) :
    Store.relationOf ts tr td (Graph.toEdge a.data n m .completeVertex) = .ok x ↔
      DecodesTo ts tr td n a m x := by
  simp only [Store.relationOf, Graph.toEdge, Node.toVertex, RecordType.fromVertex,
    RecordType.fromEdge, bind, Except.bind, pure, Except.pure]
  constructor
  · intro h
    split at h
    next => cases h
    next start hstart =>
      split at h
      next => cases h
      next edge hedge =>
        split at h
        next => cases h
        next finish hfinish =>
          cases h
          exact ⟨⟨start, hstart, rfl⟩, ⟨edge, hedge, rfl⟩, ⟨finish, hfinish, rfl⟩⟩
  · rintro ⟨⟨start, hstart, hsource⟩, ⟨edge, hedge, hrel⟩, ⟨finish, hfinish, hdest⟩⟩
    obtain ⟨xs, xr, xd⟩ := x
    cases hsource
    cases hrel
    cases hdest
    rw [hstart]
    dsimp only
    rw [hedge]
    dsimp only
    rw [hfinish]

/-- A reading that succeeds has a request, and reads every edge of its answer. -/
theorem readRelation_eq_ok {s : Session} {ts : ObjectType α} {tr : ObjectType β}
    {td : ObjectType γ} {relation : Relation α β γ} {found : List (Relation α β γ)}
    (h : (Store.readRelation Session.connection ts tr td relation s).1 = .ok found) :
    ∃ r, Store.edgeRequest ts tr td relation = .ok r ∧
      List.Forall₂ (fun e x => Store.relationOf ts tr td e = .ok x)
        ((s.state.graph.arcs.filter (s.state.graph.arcFits r)).filterMap fun a =>
          s.state.graph.edgeOf? a r.fetchMode) found := by
  unfold Store.readRelation Store.checked at h
  cases hr : Store.edgeRequest ts tr td relation with
  | error e => rw [hr] at h; cases h
  | ok r =>
    rw [hr] at h
    dsimp only [Session.connection] at h
    refine ⟨r, rfl, ?_⟩
    cases hlabel : r.label.isEmpty with
    | true =>
      rw [State.queryEdge, if_pos hlabel] at h
      cases h
    | false =>
      rw [s.state.queryEdge_eq hlabel] at h
      exact mapM_eq_ok_iff.1 h

/-- **What reading an example gives.** Every relation that is read comes from a stored edge
that is like the example's relationship and whose ends are like its source and destination,
in the stored order or in the reverse one; it is read in the stored order.  And every such
edge is read. -/
theorem readRelation_fits (s : Session) (ts : ObjectType α) (tr : ObjectType β)
    (td : ObjectType γ) (source : α) (relationship : β) (destination : γ)
    (found : List (Relation α β γ))
    (h : (Store.readRelation Session.connection ts tr td
      ⟨some source, some relationship, some destination⟩ s).1 = .ok found) :
    (∀ x ∈ found, ∃ a ∈ s.state.graph.arcs, ∃ n m,
      s.state.graph.node? a.source = some n ∧ s.state.graph.node? a.target = some m ∧
        a.Like tr relationship ∧
        (n.Like ts source ∧ m.Like td destination ∨ m.Like ts source ∧ n.Like td destination) ∧
        DecodesTo ts tr td n a m x) ∧
    ∀ a ∈ s.state.graph.arcs, ∀ n m,
      s.state.graph.node? a.source = some n → s.state.graph.node? a.target = some m →
        a.Like tr relationship →
        (n.Like ts source ∧ m.Like td destination ∨ m.Like ts source ∧ n.Like td destination) →
        ∃ x ∈ found, DecodesTo ts tr td n a m x := by
  obtain ⟨r, request, hread⟩ := readRelation_eq_ok h
  obtain ⟨hsound, hcomplete⟩ := exists_mem_of_forall₂ hread
  have hmode : r.fetchMode = .completeVertex := by
    obtain ⟨-, -, -, -, -, -, rfl⟩ := edgeRequest_eq_ok request
    rfl
  have hedge : ∀ {a : Arc} {n m : Node}, s.state.graph.node? a.source = some n →
      s.state.graph.node? a.target = some m →
      s.state.graph.edgeOf? a r.fetchMode = some (Graph.toEdge a.data n m .completeVertex) := by
    intro a n m hn hm
    simp only [Graph.edgeOf?, hn, hm, hmode, bind, Option.bind]
  constructor
  · intro x hx
    obtain ⟨e, he, hxe⟩ := hsound x hx
    obtain ⟨a, ha, hae⟩ := List.mem_filterMap.1 he
    obtain ⟨hmem, hfits⟩ := List.mem_filter.1 ha
    obtain ⟨n, m, hn, hm, hlike, hends⟩ := (arcFits_iff_like request _ a).1 hfits
    cases (hedge hn hm).symm.trans hae
    exact ⟨a, hmem, n, m, hn, hm, hlike, hends, (relationOf_eq_ok_iff ts tr td n m a x).1 hxe⟩
  · intro a ha n m hn hm hlike hends
    have hfits := (arcFits_iff_like request _ a).2 ⟨n, m, hn, hm, hlike, hends⟩
    obtain ⟨x, hx, hxe⟩ := hcomplete (Graph.toEdge a.data n m .completeVertex)
      (List.mem_filterMap.2 ⟨a, List.mem_filter.2 ⟨ha, hfits⟩, hedge hn hm⟩)
    exact ⟨x, hx, (relationOf_eq_ok_iff ts tr td n m a x).1 hxe⟩

end Embedded

/-! ## A relation that is read in reverse -/

/-- Knowing somebody, since a year that may be unknown. -/
def Sample.knows : ObjectType (Option Int) where
  typeName := "Knows"
  shape? := some ⟨"Knows", ["since"]⟩
  encode since := .ok (.object [("since", since.elim .null .integer)])
  decode d :=
    match d.get? "since" with
    | some (.integer since) => .ok (some since)
    | some .null => .ok none
    | _ => .error "no relationship"
  initial := none
  label _ := "KNOWS"
  kind _ := .relationship

namespace Embedded

/-- Jerry has known Tom since 1990. -/
def acquainted : Session :=
  (Store.persistRelation Session.connection Sample.person Sample.knows Sample.person
    ⟨some ("Jerry", none), some (some 1990), some ("Tom", none)⟩ {}).2

/-- Whoever asks for people that Tom knows is told that Jerry knows Tom. -/
theorem readRelation_acquainted :
    (Store.readRelation Session.connection Sample.person Sample.knows Sample.person
      ⟨some ("Tom", none), some none, some ("Jerry", none)⟩ acquainted).1 =
      .ok [⟨some ("Jerry", none), some (some 1990), some ("Tom", none)⟩] := by
  rfl

/-- The relation read in reverse comes from an edge whose ends are like the example's. -/
theorem readRelation_fits_acquainted :
    ∃ a ∈ acquainted.state.graph.arcs, ∃ n m,
      acquainted.state.graph.node? a.source = some n ∧
        acquainted.state.graph.node? a.target = some m ∧
        a.Like Sample.knows none ∧
        (n.Like Sample.person ("Tom", none) ∧ m.Like Sample.person ("Jerry", none) ∨
          m.Like Sample.person ("Tom", none) ∧ n.Like Sample.person ("Jerry", none)) ∧
        DecodesTo Sample.person Sample.knows Sample.person n a m
          ⟨some ("Jerry", none), some (some 1990), some ("Tom", none)⟩ :=
  (readRelation_fits acquainted Sample.person Sample.knows Sample.person ("Tom", none) none
    ("Jerry", none) _ readRelation_acquainted).1 _ List.mem_cons_self

/-- An example does not fix the direction: a relation is read although the source of no stored
edge is like the example's. -/
theorem readRelation_reversed :
    (Store.readRelation Session.connection Sample.person Sample.knows Sample.person
      ⟨some ("Tom", none), some none, some ("Jerry", none)⟩ acquainted).1 =
      .ok [⟨some ("Jerry", none), some (some 1990), some ("Tom", none)⟩] ∧
    ∀ a ∈ acquainted.state.graph.arcs, ∀ n, acquainted.state.graph.node? a.source = some n →
      ¬ n.Like Sample.person ("Tom", none) := by
  refine ⟨readRelation_acquainted, ?_⟩
  have harcs : acquainted.state.graph.arcs =
      [⟨0, 1, 1, "KNOWS", Dict.ofList [("since", .integer 1990)]⟩] := by rfl
  have hjerry : acquainted.state.graph.node? 0 =
      some ⟨1, ["Person"], Dict.ofList [("fullName", .string "Jerry")]⟩ := by rfl
  rw [harcs, List.forall_mem_singleton]
  intro n hn hlike
  cases hjerry.symm.trans hn
  obtain ⟨v, hv, hcovers⟩ := hlike.properties
  have htom : v.properties.get? "fullName" = some (.string "Tom") := by
    cases hv
    rfl
  obtain ⟨stored, hstored, heq⟩ := hcovers "fullName" (.string "Tom") htom rfl
  cases hstored
  cases heq

end Embedded
end PropertyGraph
