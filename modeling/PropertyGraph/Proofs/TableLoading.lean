import PropertyGraph.Proofs.ReachableStates

/-!
# Loading any tables

`Reopening.lean` loads rows that the graph itself has written.  Here the rows are whatever a
database holds: in any order, with edges between vertices that are not there, and loaded into a
graph that held something else before.  All that is asked is that no number occurs twice in a
table and that the texts can be read.

Loading goes through the rows twice.  The first pass adds a node for each vertex
(`addRows_of_readable`), and the index that it leaves is the one the second pass consults for the
ends of each edge; the second pass adds no nodes, so the index it started with is the index it
ends with, and an edge is left out exactly if this index wants one of its ends
(`addEdgeRows_of_readable`).

> Main result (`reload_exact`): loading succeeds and leaves the nodes, arcs and index of the rows
> and nothing else.  Neither the order of the rows nor what the graph held before shows in it.
-/

namespace PropertyGraph.Embedded

/-- A node is what the row of a vertex says. -/
structure VertexRow.ReadAs (row : VertexRow) (n : Node) : Prop where
  id : n.id = row.id
  labels : readLabels row.labels = .ok n.labels
  properties : readProperties row.properties = .ok n.properties

/-- What an edge carries is what its row says. -/
structure EdgeRow.ReadAs (row : EdgeRow) (d : EdgeData) : Prop where
  id : d.id = row.id
  edgeType : d.edgeType = row.edgeType
  properties : readProperties row.properties = .ok d.properties

/-- The texts in all rows can be read. -/
structure Tables.Readable (t : Tables) : Prop where
  vertices : ∀ row ∈ t.vertices, ∃ n, row.ReadAs n
  edges : ∀ row ∈ t.edges, ∃ d, row.ReadAs d

/-- The node at a position is the one with a number. -/
def Graph.Stands (g : Graph) (position : Nat) (id : Int) : Prop :=
  ∃ n, g.node? position = some n ∧ n.id = id

/-- A graph has what the rows of two tables say, and nothing else.  The nodes are those of the
vertices.  The arcs are those of the edges whose ends are both among the vertices, and each joins
the nodes with the numbers of its ends. -/
structure Graph.LoadedFrom (g : Graph) (t : Tables) : Prop where
  /-- Nodes and arcs ascend by number, and the index is that of the nodes. -/
  wellFormed : g.WellFormed
  nodes : ∀ n, n ∈ g.nodes ↔ ∃ row ∈ t.vertices, row.ReadAs n
  arcs : ∀ a, a ∈ g.arcs ↔ ∃ row ∈ t.edges, row.ReadAs a.data ∧
    g.Stands a.source row.sourceId ∧ g.Stands a.target row.targetId

/-! ## Reading a row -/

theorem VertexRow.toNode_of_readAs {row : VertexRow} {n : Node} (h : row.ReadAs n) :
    row.toNode = .ok n := by
  unfold toNode
  rw [h.labels, h.properties, ← h.id]

theorem EdgeRow.toData_of_readAs {row : EdgeRow} {d : EdgeData} (h : row.ReadAs d) :
    row.toData = .ok d := by
  unfold toData
  rw [h.properties, ← h.id, ← h.edgeType]

/-- The row of a vertex says one thing. -/
theorem VertexRow.ReadAs.unique {row : VertexRow} {n m : Node} (hn : row.ReadAs n)
    (hm : row.ReadAs m) : n = m :=
  Except.ok.inj ((toNode_of_readAs hn).symm.trans (toNode_of_readAs hm))

/-- The row of an edge says one thing. -/
theorem EdgeRow.ReadAs.unique {row : EdgeRow} {d e : EdgeData} (hd : row.ReadAs d)
    (he : row.ReadAs e) : d = e :=
  Except.ok.inj ((toData_of_readAs hd).symm.trans (toData_of_readAs he))

/-- What stands beside a list is what its elements have beside them, if each can have one thing
only. -/
theorem mem_iff_of_forall₂ {α β : Type} {R : α → β → Prop} {xs : List α} {ys : List β}
    (h : List.Forall₂ R xs ys) (unique : ∀ {x y z}, R x y → R x z → y = z) (y : β) :
    y ∈ ys ↔ ∃ x ∈ xs, R x y := by
  refine ⟨(exists_mem_of_forall₂ h).1 y, ?_⟩
  rintro ⟨x, hx, hy⟩
  obtain ⟨z, hz, hz'⟩ := (exists_mem_of_forall₂ h).2 x hx
  rwa [unique hy hz']

/-! ## Rows in order -/

section Order

variable {α : Type} (id : α → Int) {rows others : List α}

/-- Rows that are sorted by different numbers ascend. -/
theorem ascending_mergeSort (h : (rows.map id).Nodup) :
    ((rows.mergeSort fun a b => decide (id a ≤ id b)).map id).Pairwise (· < ·) := by
  have hsorted : (rows.mergeSort fun a b => decide (id a ≤ id b)).Pairwise fun a b =>
      decide (id a ≤ id b) = true := by
    refine List.pairwise_mergeSort (fun a b c hab hbc => ?_) (fun a b => ?_) rows
    · exact decide_eq_true (Int.le_trans (of_decide_eq_true hab) (of_decide_eq_true hbc))
    · simpa using Int.le_total (id a) (id b)
  have hdistinct : ((rows.mergeSort fun a b => decide (id a ≤ id b)).map id).Nodup :=
    ((List.mergeSort_perm rows _).map id).nodup_iff.2 h
  rw [List.nodup_iff_pairwise_ne, List.pairwise_map] at hdistinct
  refine List.pairwise_map.2 ((hsorted.and hdistinct).imp ?_)
  rintro a b ⟨hle, hne⟩
  exact Int.lt_iff_le_and_ne.2 ⟨of_decide_eq_true hle, hne⟩

/-- Rows with different numbers are sorted into one order, however they stood before. -/
theorem mergeSort_eq_of_perm (hperm : others.Perm rows) (h : (rows.map id).Nodup) :
    others.mergeSort (fun a b => decide (id a ≤ id b)) =
      rows.mergeSort fun a b => decide (id a ≤ id b) := by
  have hothers : (others.map id).Nodup := (hperm.map id).nodup_iff.2 h
  refine List.Perm.eq_of_pairwise (fun a b _ _ hab hba => ?_)
    (List.pairwise_map.1 (ascending_mergeSort id hothers))
    (List.pairwise_map.1 (ascending_mergeSort id h))
    ((List.mergeSort_perm others _).trans (hperm.trans (List.mergeSort_perm rows _).symm))
  exact absurd (Int.lt_trans hab hba) (Int.lt_irrefl _)

end Order

namespace Graph

/-! ## The two passes -/

/-- The first pass: rows that can be read are added as the nodes that they say. -/
theorem addRows_of_readable : ∀ {rows : List VertexRow} (g : Graph),
    (∀ row ∈ rows, ∃ n, row.ReadAs n) →
      ∃ nodes, List.Forall₂ VertexRow.ReadAs rows nodes ∧
        addRows g rows = .ok (nodes.foldl addNode g)
  | [], _, _ => ⟨[], .nil, rfl⟩
  | row :: rest, g, h => by
    obtain ⟨⟨n, hn⟩, hrest⟩ := List.forall_mem_cons.1 h
    obtain ⟨nodes, hnodes, hadd⟩ := addRows_of_readable (g.addNode n) hrest
    refine ⟨n :: nodes, .cons hn hnodes, ?_⟩
    rw [addRows, VertexRow.toNode_of_readAs hn]
    exact hadd

/-- The graph knows both ends of an edge. -/
def knowsEnds (g : Graph) (row : EdgeRow) : Bool :=
  (g.position? row.sourceId).isSome && (g.position? row.targetId).isSome

/-- An edge with an end that the graph does not know is not added. -/
theorem addEdge?_eq_none {g : Graph} {row : EdgeRow} (h : g.knowsEnds row = false) (d : EdgeData) :
    g.addEdge? row.sourceId row.targetId d = none := by
  unfold knowsEnds at h
  unfold addEdge?
  cases hsource : g.position? row.sourceId with
  | none => rfl
  | some i =>
    cases htarget : g.position? row.targetId with
    | none => rfl
    | some j =>
      rw [hsource, htarget] at h
      cases h

/-- The second pass: rows that can be read are added as arcs where the graph knows both ends, and
left out where it does not.  The index stays, so `g` may be the graph at any time of the pass. -/
theorem addEdgeRows_of_readable (g : Graph) : ∀ {rows : List EdgeRow} {g₁ : Graph},
    (∀ row ∈ rows, ∃ d, row.ReadAs d) → g₁.index = g.index →
      ∃ arcs, List.Forall₂ (fun row a => row.ReadAs a.data ∧ g.Joins row a)
          (rows.filter g.knowsEnds) arcs ∧
        addEdgeRows g₁ rows = .ok { g₁ with arcs := g₁.arcs ++ arcs }
  | [], g₁, _, _ => ⟨[], .nil, by rw [List.append_nil]; rfl⟩
  | row :: rest, g₁, h, hindex => by
    obtain ⟨⟨d, hd⟩, hrest⟩ := List.forall_mem_cons.1 h
    rw [addEdgeRows, EdgeRow.toData_of_readAs hd]
    dsimp only
    cases hknows : g.knowsEnds row with
    | false =>
      have hknows₁ : g₁.knowsEnds row = false := by
        unfold knowsEnds position? at hknows ⊢
        rwa [hindex]
      rw [addEdge?_eq_none hknows₁, Option.getD_none,
        List.filter_cons_of_neg (Bool.eq_false_iff.1 hknows)]
      exact addEdgeRows_of_readable g hrest hindex
    | true =>
      obtain ⟨hsource, htarget⟩ := Bool.and_eq_true_iff.1 hknows
      obtain ⟨i, hi⟩ := Option.isSome_iff_exists.1 hsource
      obtain ⟨j, hj⟩ := Option.isSome_iff_exists.1 htarget
      have hjoins : g.Joins row ⟨i, j, d⟩ := ⟨hd.id.symm, hd.edgeType.symm, hi, hj⟩
      have hindex' : ({ g₁ with arcs := g₁.arcs ++ [⟨i, j, d⟩] } : Graph).index = g.index := hindex
      obtain ⟨arcs, harcs, hadd⟩ := addEdgeRows_of_readable g hrest hindex'
      rw [hjoins.addEdge? hindex, Option.getD_some, List.filter_cons_of_pos hknows]
      refine ⟨⟨i, j, d⟩ :: arcs, .cons ⟨hd, hjoins⟩ harcs, ?_⟩
      rw [hadd, List.append_assoc, List.singleton_append]

/-! ## The loaded graph -/

section Passes

variable {vertices : List VertexRow} {edges : List EdgeRow} {nodes : List Node} {arcs : List Arc}
  (hnodes : List.Forall₂ VertexRow.ReadAs vertices nodes)
  (harcs : List.Forall₂ (fun row a => row.ReadAs a.data ∧ (ofNodes nodes).Joins row a)
    (edges.filter (ofNodes nodes).knowsEnds) arcs)

/-- An arc that stands beside a row is the only one that can. -/
theorem eq_of_joins {g : Graph} {row : EdgeRow} {a b : Arc}
    (ha : row.ReadAs a.data ∧ g.Joins row a) (hb : row.ReadAs b.data ∧ g.Joins row b) : a = b := by
  obtain ⟨source, target, data⟩ := a
  rw [Arc.mk.injEq]
  exact ⟨Option.some.inj (ha.2.source.symm.trans hb.2.source),
    Option.some.inj (ha.2.target.symm.trans hb.2.target), ha.1.unique hb.1⟩

include hnodes harcs

/-- What the two passes leave is well-formed if the rows ascend. -/
theorem wellFormed_of_passes (hascending : (vertices.map VertexRow.id).Pairwise (· < ·))
    (hedgesAscending : (edges.map EdgeRow.id).Pairwise (· < ·)) :
    ({ ofNodes nodes with arcs } : Graph).WellFormed := by
  have hids : vertices.map VertexRow.id = nodes.map Node.id :=
    map_eq_of_forall₂ hnodes fun hread => hread.id.symm
  have hnumbers : (edges.filter (ofNodes nodes).knowsEnds).map EdgeRow.id =
      arcs.map fun a => a.data.id :=
    map_eq_of_forall₂ harcs fun hread => hread.1.id.symm
  refine wellFormed_of_index ?_ ?_ ?_ fun a ha => ?_
  · rw [nodes_ofNodes, ← hids]
    exact hascending
  · rw [nodes_ofNodes]
  · rw [← hnumbers]
    exact hedgesAscending.sublist (List.filter_sublist.map EdgeRow.id)
  · obtain ⟨row, -, -, hjoins⟩ := (exists_mem_of_forall₂ harcs).1 a ha
    exact ⟨row.sourceId, row.targetId, hjoins.source, hjoins.target⟩

/-- What the two passes leave is the graph of the tables if they went through all rows, in
ascending order. -/
theorem loadedFrom_of_passes {t : Tables} (hvertices : vertices.Perm t.vertices)
    (hedges : edges.Perm t.edges) (hascending : (vertices.map VertexRow.id).Pairwise (· < ·))
    (hedgesAscending : (edges.map EdgeRow.id).Pairwise (· < ·)) :
    ({ ofNodes nodes with arcs } : Graph).LoadedFrom t := by
  have hwell := wellFormed_of_passes hnodes harcs hascending hedgesAscending
  have hposition : ∀ {id : Int} {i : Nat}, (ofNodes nodes).position? id = some i ↔
      ({ ofNodes nodes with arcs } : Graph).Stands i id := hwell.position _ _
  refine ⟨hwell, fun n => ?_, fun a => ?_⟩
  · rw [nodes_ofNodes, mem_iff_of_forall₂ hnodes VertexRow.ReadAs.unique]
    exact exists_congr fun row => and_congr_left' hvertices.mem_iff
  · rw [mem_iff_of_forall₂ harcs eq_of_joins]
    constructor
    · rintro ⟨row, hrow, hread, hjoins⟩
      exact ⟨row, hedges.mem_iff.1 (List.mem_filter.1 hrow).1, hread, hposition.1 hjoins.source,
        hposition.1 hjoins.target⟩
    · rintro ⟨row, hrow, hread, hsource, htarget⟩
      have hjoins : (ofNodes nodes).Joins row a :=
        ⟨hread.id.symm, hread.edgeType.symm, hposition.2 hsource, hposition.2 htarget⟩
      have hknows : (ofNodes nodes).knowsEnds row = true := by
        unfold knowsEnds
        rw [hjoins.source, hjoins.target]
        rfl
      exact ⟨row, List.mem_filter.2 ⟨hedges.mem_iff.2 hrow, hknows⟩, hread, hjoins⟩

end Passes

/-- Whatever a graph held, loading rows into it is loading them. -/
theorem reload_eq_load (g : Graph) (t : Tables) : g.reload t = load t := rfl

/-- Rows in another order are loaded as the same graph. -/
theorem load_eq_of_perm {t t' : Tables} (hvertices : t'.vertices.Perm t.vertices)
    (hedges : t'.edges.Perm t.edges) (hnumbers : (t.vertices.map VertexRow.id).Nodup)
    (hedgeNumbers : (t.edges.map EdgeRow.id).Nodup) : load t' = load t := by
  unfold load addTables
  rw [mergeSort_eq_of_perm VertexRow.id hvertices hnumbers,
    mergeSort_eq_of_perm EdgeRow.id hedges hedgeNumbers]

/-- Rows that can be read, without a number twice, are loaded. -/
theorem exists_load {t : Tables} (hnumbers : (t.vertices.map VertexRow.id).Nodup)
    (hedgeNumbers : (t.edges.map EdgeRow.id).Nodup) (hread : t.Readable) :
    ∃ g, load t = .ok g ∧ g.LoadedFrom t := by
  have hvertices := List.mergeSort_perm t.vertices fun a b => decide (a.id ≤ b.id)
  have hedges := List.mergeSort_perm t.edges fun a b => decide (a.id ≤ b.id)
  obtain ⟨nodes, hnodes, hadd⟩ := addRows_of_readable empty fun row hrow =>
    hread.vertices row (hvertices.mem_iff.1 hrow)
  obtain ⟨arcs, harcs, haddEdges⟩ := addEdgeRows_of_readable (ofNodes nodes) (fun row hrow =>
    hread.edges row (hedges.mem_iff.1 hrow)) rfl
  refine ⟨{ ofNodes nodes with arcs }, ?_, loadedFrom_of_passes hnodes harcs hvertices hedges
    (ascending_mergeSort VertexRow.id hnumbers) (ascending_mergeSort EdgeRow.id hedgeNumbers)⟩
  rw [arcs_ofNodes, List.nil_append] at haddEdges
  unfold load addTables
  rw [hadd]
  exact haddEdges

/-- **Loading any tables.**  Take any two tables in which no number occurs twice and all texts can
be read, with their rows in any order, and any graph.  Loading the tables into the graph succeeds.
The nodes are then those of the vertices, the arcs those of the edges whose ends are both among the
vertices, both in ascending order of their numbers, and the index leads from the number of each
node to its position and from no other number anywhere.  Loading once more leaves the graph as it
is, and so do other orders of the rows and other things that the graph held before. -/
theorem reload_exact (g : Graph) (t : Tables) (hnumbers : (t.vertices.map VertexRow.id).Nodup)
    (hedgeNumbers : (t.edges.map EdgeRow.id).Nodup) (hread : t.Readable) :
    ∃ loaded, g.reload t = .ok loaded ∧ loaded.LoadedFrom t ∧ loaded.reload t = .ok loaded ∧
      ∀ (other : Graph) (t' : Tables), t'.vertices.Perm t.vertices → t'.edges.Perm t.edges →
        other.reload t' = .ok loaded := by
  obtain ⟨loaded, hload, hfrom⟩ := exists_load hnumbers hedgeNumbers hread
  refine ⟨loaded, hload, hfrom, hload, fun other t' hvertices hedges => ?_⟩
  rw [reload_eq_load, load_eq_of_perm hvertices hedges hnumbers hedgeNumbers, hload]

/-- Two people in descending order, what one knows of the other, and an edge to a vertex that is
not there. -/
def danglingTables : Tables where
  vertices := [⟨2, "[\"Person\"]", "\x7b\x7d"⟩, ⟨1, "[\"Person\"]", "\x7b\"name\":\"Tom\"\x7d"⟩]
  edges := [⟨8, 1, 9, "KNOWS", "\x7b\x7d"⟩, ⟨5, 2, 1, "KNOWS", "\x7b\"since\":1990\x7d"⟩]

theorem readable_danglingTables : danglingTables.Readable := by
  constructor
  · rw [danglingTables, List.forall_mem_cons, List.forall_mem_singleton]
    exact ⟨⟨⟨2, _, _⟩, rfl, Session.readLabels_person, Session.readProperties_empty⟩,
      ⟨⟨1, _, _⟩, rfl, Session.readLabels_person, Session.readProperties_name⟩⟩
  · rw [danglingTables, List.forall_mem_cons, List.forall_mem_singleton]
    exact ⟨⟨⟨8, _, _⟩, rfl, rfl, Session.readProperties_empty⟩,
      ⟨⟨5, _, _⟩, rfl, rfl, Session.readProperties_since⟩⟩

/-- The two people are loaded in place of a cat, with the edge between them and without the one
that leads nowhere. -/
theorem reload_exact_dangling :
    (danglingTables.vertices.map VertexRow.id).Nodup ∧
      (danglingTables.edges.map EdgeRow.id).Nodup ∧ danglingTables.Readable ∧
      ∃ loaded, (ofNodes [⟨7, ["Cat"], ∅⟩]).reload danglingTables = .ok loaded ∧
        loaded.LoadedFrom danglingTables ∧ loaded.reload danglingTables = .ok loaded ∧
        (∀ n ∈ loaded.nodes, n.id = 1 ∨ n.id = 2) ∧ ∀ a ∈ loaded.arcs, a.data.id = 5 := by
  have hnumbers : (danglingTables.vertices.map VertexRow.id).Nodup := by decide
  have hedgeNumbers : (danglingTables.edges.map EdgeRow.id).Nodup := by decide
  obtain ⟨loaded, hload, hfrom, hagain, -⟩ := reload_exact (ofNodes [⟨7, ["Cat"], ∅⟩])
    danglingTables hnumbers hedgeNumbers readable_danglingTables
  have hnodes : ∀ n ∈ loaded.nodes, n.id = 1 ∨ n.id = 2 := by
    intro n hn
    obtain ⟨row, hrow, hread⟩ := (hfrom.nodes n).1 hn
    have hrows : ∀ row ∈ danglingTables.vertices, row.id = 1 ∨ row.id = 2 := by decide
    rw [hread.id]
    exact hrows row hrow
  refine ⟨hnumbers, hedgeNumbers, readable_danglingTables, loaded, hload, hfrom, hagain, hnodes,
    fun a ha => ?_⟩
  obtain ⟨row, hrow, hread, -, n, hn, htarget⟩ := (hfrom.arcs a).1 ha
  rw [hread.id]
  rcases List.mem_cons.1 hrow with rfl | hrow
  · rcases hnodes n (List.mem_of_getElem? hn) with hid | hid
    · cases hid.symm.trans htarget
    · cases hid.symm.trans htarget
  · rw [List.mem_singleton.1 hrow]

end Graph
end PropertyGraph.Embedded
