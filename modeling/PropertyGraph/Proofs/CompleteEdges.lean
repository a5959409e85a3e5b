import PropertyGraph.Proofs.EntityText
import PropertyGraph.Proofs.KeptAnswers

/-!
# Edges with their endpoints in full

A request for edges asks for the identifiers of their endpoints or for whole vertices.  Both
come from the same edges, and a whole vertex takes the place of its identifier: what was asked
for in full is what was asked for by identifier, with vertices added that have these identifiers
(`Edge.Completes`).

In memory the nodes of an arc are at hand.  Elsewhere a row brings two vertices beside its
relationship, bound either way round, and each has to go to the end of the edge that has its
identifier (`attachEndpoints_completes`).

> Main result (`completeVertex_completes`): the edges that are returned in full complete those
> that are returned by identifier, one by one and in their order, with the vertices that queries
> return under these identifiers; and every remote row is read so.
-/

namespace PropertyGraph

/-- No two numbers are written as one identifier. -/
theorem Identifier.ofInt_inj {m n : Int} : Identifier.ofInt m = Identifier.ofInt n ↔ m = n := by
  refine ⟨fun h => ?_, congrArg Identifier.ofInt⟩
  have htext : (toString m).toList ++ [] = (toString n).toList ++ [] := by
    rw [show toString m = toString n from congrArg Identifier.text h]
  have hends : Stops Char.isDigit [] := by simp [Stops]
  exact (told_integer m n [] [] trivial hends hends htext).1

/-- An edge is another one with vertices for its endpoints, which have the identifiers that the
other one knows. -/
structure Edge.Completes (whole e : Edge) (source destination : Vertex) : Prop where
  eq : whole = { e with source := some source, destination := some destination }
  sourceId : source.id = e.sourceId
  destinationId : destination.id = e.destinationId
  known : e.sourceId.isSome = true ∧ e.destinationId.isSome = true

/-! ## In memory -/

namespace Embedded

/-- Elements that are found for the same entries are related one by one. -/
theorem forall₂_filterMap {α β γ : Type} {R : β → γ → Prop} {f : α → Option β} {g : α → Option γ}
    {xs : List α} (h : ∀ x ∈ xs, ∃ y z, f x = some y ∧ g x = some z ∧ R y z) :
    List.Forall₂ R (xs.filterMap f) (xs.filterMap g) := by
  induction xs with
  | nil => exact .nil
  | cons x rest ih =>
    obtain ⟨hx, hrest⟩ := List.forall_mem_cons.1 h
    obtain ⟨y, z, hy, hz, hR⟩ := hx
    rw [List.filterMap_cons_some hy, List.filterMap_cons_some hz]
    exact .cons hR (ih hrest)

namespace State

variable {s : State}

/-- A vertex is what queries return: a query returns it exactly if it has the label and includes
the selectors and the filters, and no query returns another vertex with its identifier. -/
structure Returns (s : State) (v : Vertex) : Prop where
  found : ∀ label selectors filters, label ≠ "" →
    ∃ answer, s.queryVertex label selectors filters = .ok answer ∧
      (v ∈ answer ↔ label ∈ v.labels ∧ Includes v.properties selectors ∧
        Includes v.properties filters)
  only : ∀ label selectors filters answer, s.queryVertex label selectors filters = .ok answer →
    ∀ w ∈ answer, w.id = v.id → w = v

/-- What a query returns are nodes. -/
theorem exists_node_of_queryVertex {label : String} {selectors filters : PropertyMap}
    {answer : List Vertex} (h : s.queryVertex label selectors filters = .ok answer) {w : Vertex}
    (hw : w ∈ answer) : ∃ n ∈ s.graph.nodes, n.toVertex = w := by
  cases hlabel : label.isEmpty with
  | true =>
    unfold queryVertex at h
    rw [if_pos hlabel] at h
    cases h
  | false =>
    rw [queryVertex_eq s hlabel] at h
    cases h
    obtain ⟨n, hn, rfl⟩ := List.mem_map.1 hw
    exact ⟨n, List.mem_of_mem_filter hn, rfl⟩

/-- Every node is what queries return under its number. -/
theorem returns_toVertex (h : s.Reachable) {n : Node} (hn : n ∈ s.graph.nodes) :
    s.Returns n.toVertex where
  found label selectors filters hlabel := by
    have hnonempty : label.isEmpty = false :=
      Bool.eq_false_iff.2 fun hempty => hlabel (String.isEmpty_iff.1 hempty)
    refine ⟨_, queryVertex_eq s hnonempty selectors filters, ?_⟩
    have hfits : ∀ m : Node, m.fits [label] [selectors, filters] = true ↔
        label ∈ m.labels ∧ Includes m.properties selectors ∧ Includes m.properties filters := by
      intro m
      rw [Node.fits_iff_includes]
      simp
    rw [List.mem_map]
    constructor
    · rintro ⟨m, hm, hsame⟩
      have hincludes := (hfits m).1 (List.mem_filter.1 hm).2
      rwa [← hsame]
    · intro hincludes
      exact ⟨n, List.mem_filter.2 ⟨hn, (hfits n).2 hincludes⟩, rfl⟩
  only label selectors filters answer hanswer w hw hid := by
    obtain ⟨m, hm, rfl⟩ := exists_node_of_queryVertex hanswer hw
    have hnumber : m.id = n.id := Identifier.ofInt_inj.1 (Option.some.inj hid)
    -- Nodes ascend by number, so there is one of each.
    have hnodup : (s.graph.nodes.map Node.id).Nodup :=
      h.inStep.wellFormed.nodesAscending.imp Int.ne_of_lt
    rw [List.inj_on_of_nodup_map hnodup hm hn hnumber]

/-- An edge by identifiers, and the same edge with the vertices that queries return. -/
def CompletedBy (s : State) (e whole : Edge) : Prop :=
  e.source = none ∧ e.destination = none ∧
    ∃ source destination, whole.Completes e source destination ∧ s.Returns source ∧
      s.Returns destination

/-- Requests that differ in their fetch mode are refused alike, or answered with the same edges in
the same order, completed in the one answer. -/
theorem queryEdge_completed (h : s.Reachable) (r : EdgeRequest) :
    (∃ err, s.queryEdge { r with fetchMode := .vertexIds } = .error err ∧
      s.queryEdge { r with fetchMode := .completeVertex } = .error err) ∨
    ∃ edges wholes, s.queryEdge { r with fetchMode := .vertexIds } = .ok edges ∧
      s.queryEdge { r with fetchMode := .completeVertex } = .ok wholes ∧
      List.Forall₂ s.CompletedBy edges wholes := by
  cases hlabel : r.label.isEmpty with
  | true =>
    refine Or.inl ⟨_, if_pos ?_, if_pos ?_⟩
    · exact hlabel
    · exact hlabel
  | false =>
    refine Or.inr ⟨_, _, queryEdge_eq s hlabel, queryEdge_eq s hlabel, ?_⟩
    -- Which arcs fit is not a matter of the mode.
    show List.Forall₂ s.CompletedBy
      ((s.graph.arcs.filter (s.graph.arcFits r)).filterMap fun a => s.graph.edgeOf? a .vertexIds)
      ((s.graph.arcs.filter (s.graph.arcFits r)).filterMap fun a =>
        s.graph.edgeOf? a .completeVertex)
    refine forall₂_filterMap fun a ha => ?_
    obtain ⟨hsource, htarget⟩ := h.inStep.wellFormed.joined a (List.mem_of_mem_filter ha)
    have hn : s.graph.node? a.source = some s.graph.nodes[a.source] :=
      List.getElem?_eq_getElem hsource
    have hm : s.graph.node? a.target = some s.graph.nodes[a.target] :=
      List.getElem?_eq_getElem htarget
    have hedge : ∀ mode, s.graph.edgeOf? a mode =
        some (Graph.toEdge a.data s.graph.nodes[a.source] s.graph.nodes[a.target] mode) := by
      intro mode
      simp only [Graph.edgeOf?, hn, hm, bind, Option.bind_some]
    exact ⟨_, _, hedge .vertexIds, hedge .completeVertex, rfl, rfl, _, _,
      ⟨rfl, rfl, rfl, rfl, rfl⟩, returns_toVertex h (List.getElem_mem hsource),
      returns_toVertex h (List.getElem_mem htarget)⟩

end State
end Embedded

/-! ## Elsewhere -/

namespace Remote

/-- Two vertices that are attached to an edge which joins them complete it. -/
theorem attachEndpoints_completes {e : Edge} {v w : Vertex} (hsource : e.sourceId.isSome = true)
    (hdestination : e.destinationId.isSome = true) (h : Joins e v w) :
    ∃ source destination, ((source, destination) = (v, w) ∨ (source, destination) = (w, v)) ∧
      (attachEndpoints e v w).Completes e source destination := by
  have hknown := And.intro hsource hdestination
  unfold attachEndpoints
  by_cases hstart : v.id = e.sourceId
  · have hid : v.id.isSome = true := by rw [hstart, hsource]
    have hend : w.id = e.destinationId := by
      rcases h with h | h
      · exact (Prod.mk.inj h).2.symm
      · -- A relationship that joins a vertex to itself is bound both ways at once.
        obtain ⟨hsourceId, hdestinationId⟩ := Prod.mk.inj h
        rw [← hsourceId, hdestinationId, hstart]
    rw [if_pos (by rw [hid, hstart, beq_self_eq_true, Bool.and_self])]
    refine ⟨v, w, Or.inl rfl, ?_, hstart, hend, hknown⟩
    rw [Edge.withSource, Edge.withDestination, hstart, hend]
  · have hreversed : e.ends = (w.id, v.id) := by
      rcases h with h | h
      · exact absurd (Prod.mk.inj h).1.symm hstart
      · exact h
    obtain ⟨hsourceId, hdestinationId⟩ := Prod.mk.inj hreversed
    rw [if_neg (by simp [hstart])]
    refine ⟨w, v, Or.inr rfl, ?_, hsourceId.symm, hdestinationId.symm, hknown⟩
    rw [Edge.withSource, Edge.withDestination, ← hsourceId, ← hdestinationId]

variable {ρ : Type}

/-- Every edge that is read knows its endpoints by identifier. -/
def RowReader.KnowsEnds (reader : RowReader ρ) : Prop :=
  ∀ column row e, reader.edge column row = .ok e →
    e.sourceId.isSome = true ∧ e.destinationId.isSome = true

/-- A reader of rows completes edges: whatever edge it reads from a column, two vertices that the
edge joins are attached to the ends that have their identifiers; and of a row that holds them it
makes the edge by identifier in the one mode, and the completed edge in the other. -/
structure RowReader.CompletesEdges (reader : RowReader ρ) : Prop where
  attached : ∀ column row e, reader.edge column row = .ok e → ∀ v w, Joins e v w →
    ∃ source destination, ((source, destination) = (v, w) ∨ (source, destination) = (w, v)) ∧
      (attachEndpoints e v w).Completes e source destination
  read : ∀ row e, Holds reader .completeVertex row e → readEdge reader .vertexIds row = .ok e ∧
    ∃ whole source destination, readEdge reader .completeVertex row = .ok whole ∧
      whole.Completes e source destination

theorem RowReader.KnowsEnds.completesEdges {reader : RowReader ρ} (h : reader.KnowsEnds) :
    reader.CompletesEdges where
  attached column row e he v w hjoins :=
    attachEndpoints_completes (h column row e he).1 (h column row e he).2 hjoins
  read row e hholds := by
    obtain ⟨v, w, hv, hw, hjoins⟩ := hholds.vertices rfl
    obtain ⟨hsource, hdestination⟩ := h _ row e hholds.edge
    obtain ⟨source, destination, -, hcompletes⟩ :=
      attachEndpoints_completes hsource hdestination hjoins
    constructor
    · simp only [readEdge, hholds.edge, bind, Except.bind]
    · refine ⟨_, source, destination, ?_, hcompletes⟩
      simp only [readEdge, hholds.edge, hv, hw, bind, Except.bind]

end Remote

/-- An edge that is read from its text knows its endpoints. -/
theorem Agens.Session.knowsEnds_reader : Agens.Session.reader.KnowsEnds := by
  intro name row e he
  obtain ⟨text, -, hread⟩ := bind_eq_ok_iff.1 he
  obtain ⟨t, said, -, -, rfl⟩ := readEdge_eq_ok_iff.1 hread
  exact ⟨rfl, rfl⟩

/-- An edge that is read from a relationship knows its endpoints. -/
theorem Bolt.Session.knowsEnds_reader : Bolt.Session.reader.KnowsEnds := by
  intro name row e he
  obtain ⟨value, hvalue⟩ := exists_value_of_column he
  cases value with
  | relationship id start finish type properties =>
    cases hvalue
    exact ⟨rfl, rfl⟩
  | _ => cases hvalue

/-- **Edges in full.**  In every state that can be reached, a request in the one mode and in the
other is refused alike, or answered with the same edges in the same order: those in full have the
vertices that queries return under the identifiers that the others know.  Elsewhere, whichever way
round two vertices are bound to a relationship that joins them, they complete it. -/
theorem completeVertex_completes :
    (∀ s : Embedded.State, s.Reachable → ∀ r : EdgeRequest,
      (∃ err, s.queryEdge { r with fetchMode := .vertexIds } = .error err ∧
        s.queryEdge { r with fetchMode := .completeVertex } = .error err) ∨
      ∃ edges wholes, s.queryEdge { r with fetchMode := .vertexIds } = .ok edges ∧
        s.queryEdge { r with fetchMode := .completeVertex } = .ok wholes ∧
        List.Forall₂ s.CompletedBy edges wholes) ∧
    Agens.Session.reader.CompletesEdges ∧ Bolt.Session.reader.CompletesEdges :=
  ⟨fun _ h r => Embedded.State.queryEdge_completed h r,
    Agens.Session.knowsEnds_reader.completesEdges, Bolt.Session.knowsEnds_reader.completesEdges⟩

/-- The edge of the sample in both modes, and a relationship whose vertices are bound the other
way round. -/
theorem completeVertex_completes_sample :
    let s := Embedded.State.run {} Embedded.Session.sampleWrites
    s.Reachable ∧
    (∃ edges wholes, s.queryEdge { label := "KNOWS", fetchMode := .vertexIds } = .ok edges ∧
      edges.map (fun e => (e.sourceId, e.destinationId)) = [(some ⟨"1"⟩, some ⟨"2"⟩)] ∧
      s.queryEdge { label := "KNOWS", fetchMode := .completeVertex } = .ok wholes ∧
      List.Forall₂ s.CompletedBy edges wholes) ∧
    ∃ source destination,
      (Remote.attachEndpoints (Remote.knows "3.1" "3.2") (Remote.person "3.2")
        (Remote.person "3.1")).Completes (Remote.knows "3.1" "3.2") source destination := by
  intro s
  obtain ⟨hqueries, hagens, -⟩ := completeVertex_completes
  have hreachable : s.Reachable :=
    (Embedded.State.Reachable.new Embedded.State.ofTables_empty).run _
  refine ⟨hreachable, ?_, ?_⟩
  · rcases hqueries s hreachable { label := "KNOWS" } with ⟨err, herr, -⟩ | hanswers
    · exact absurd ((s.queryEdge_eq rfl).symm.trans herr) nofun
    · obtain ⟨edges, wholes, hedges, hwholes, hcompleted⟩ := hanswers
      have hsample := (s.queryEdge_eq rfl).symm.trans hedges
      cases hsample
      exact ⟨_, wholes, hedges, by rfl, hwholes, hcompleted⟩
  · have hparts : Agens.edgeParts? (Text.trim "knows[4.1][3.1,3.2]\x7b\x7d".toList) =
        some ("knows", ⟨"4.1"⟩, (⟨"3.1"⟩, ⟨"3.2"⟩), "\x7b\x7d") := by decide +kernel
    obtain ⟨source, destination, -, hcompletes⟩ :=
      hagens.attached _ _ _ (Remote.edge_peopleRow hparts).2 (Remote.person "3.2")
        (Remote.person "3.1") (Or.inr rfl)
    exact ⟨source, destination, hcompletes⟩

end PropertyGraph
