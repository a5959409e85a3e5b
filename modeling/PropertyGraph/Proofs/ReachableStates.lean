import PropertyGraph.Proofs.EmbeddedOutcomes
import PropertyGraph.Proofs.Reopening

/-!
# States that can be reached

A graph is opened on an empty database, written to, and opened again on whatever rows it left,
any number of times (`Reachable`).  `EmbeddedSync.lean` has the invariant for writing, that rows
and graph are in step; here it is carried over opening.  Loading places every row: it need not
give back the properties that were written, but it gives every node and arc its number, and as
the rows ascend, so do these (`InStep.of_ofTables`).  No assumption on the text of the rows is
needed beyond that it could be read.

> Main result (`reachable_wellFormed`): in every state that can be reached, nodes and arcs
> ascend by number, the index holds the position of every node and nothing else, and every arc
> joins two nodes.  Storing an edge there never fails for an internal reason.
-/

open Relation (ReflTransGen)

namespace PropertyGraph.Embedded

/-- What a graph has to be like for a number to stand for one vertex. -/
structure Graph.WellFormed (g : Graph) : Prop where
  nodesAscending : (g.nodes.map Node.id).Pairwise (· < ·)
  arcsAscending : (g.arcs.map fun a => a.data.id).Pairwise (· < ·)
  /-- The entries of the index are the numbers of the nodes with their positions. -/
  index : g.index.Perm (g.nodes.map Node.id).zipIdx
  position : ∀ id i, g.position? id = some i ↔ ∃ n, g.node? i = some n ∧ n.id = id
  joined : ∀ a ∈ g.arcs, a.source < g.nodes.length ∧ a.target < g.nodes.length

/-- A node is read under the number of its row. -/
theorem VertexRow.id_of_toNode {row : VertexRow} {n : Node} (h : row.toNode = .ok n) :
    n.id = row.id := by
  unfold toNode at h
  cases hlabels : readLabels row.labels with
  | error e => rw [hlabels] at h; cases h
  | ok labels =>
    cases hproperties : readProperties row.properties with
    | error e => rw [hlabels, hproperties] at h; cases h
    | ok properties =>
      rw [hlabels, hproperties] at h
      cases h
      rfl

/-- What an edge carries is read under the number of its row, and with its type. -/
theorem EdgeRow.of_toData {row : EdgeRow} {d : EdgeData} (h : row.toData = .ok d) :
    row.id = d.id ∧ row.edgeType = d.edgeType := by
  unfold toData at h
  cases hproperties : readProperties row.properties with
  | error e => rw [hproperties] at h; cases h
  | ok properties =>
    rw [hproperties] at h
    cases h
    exact ⟨rfl, rfl⟩

namespace Graph

/-! ## Loading -/

/-- Rows that could be read are loaded as nodes with their numbers. -/
theorem addRows_eq_ok : ∀ {rows : List VertexRow} {g g' : Graph}, addRows g rows = .ok g' →
    ∃ nodes : List Node, nodes.map Node.id = rows.map VertexRow.id ∧ g' = nodes.foldl addNode g
  | [], g, g', h => ⟨[], rfl, (Except.ok.inj h).symm⟩
  | row :: rest, g, g', h => by
    unfold addRows at h
    cases hnode : row.toNode with
    | error e => rw [hnode] at h; cases h
    | ok n =>
      rw [hnode] at h
      obtain ⟨nodes, hids, hgraph⟩ := addRows_eq_ok h
      refine ⟨n :: nodes, ?_, hgraph⟩
      rw [List.map_cons, List.map_cons, hids, VertexRow.id_of_toNode hnode]

/-- Edge rows that could be read, between vertices that the graph knows, are loaded as arcs that
stand beside them; none is dropped. -/
theorem addEdgeRows_eq_ok {g : Graph} : ∀ {rows : List EdgeRow} {g₁ g₂ : Graph},
    (∀ row ∈ rows, (g.position? row.sourceId).isSome ∧ (g.position? row.targetId).isSome) →
    g₁.index = g.index → addEdgeRows g₁ rows = .ok g₂ →
      ∃ arcs, List.Forall₂ g.Joins rows arcs ∧ g₂ = { g₁ with arcs := g₁.arcs ++ arcs }
  | [], g₁, g₂, _, _, h => ⟨[], .nil, by rw [List.append_nil]; exact (Except.ok.inj h).symm⟩
  | row :: rest, g₁, g₂, hknown, hindex, h => by
    unfold addEdgeRows at h
    cases hdata : row.toData with
    | error e => rw [hdata] at h; cases h
    | ok d =>
      obtain ⟨hid, htype⟩ := EdgeRow.of_toData hdata
      obtain ⟨hsource, htarget⟩ := hknown row List.mem_cons_self
      obtain ⟨first, hfirst⟩ := Option.isSome_iff_exists.1 hsource
      obtain ⟨last, hlast⟩ := Option.isSome_iff_exists.1 htarget
      have hjoins : g.Joins row ⟨first, last, d⟩ := ⟨hid, htype, hfirst, hlast⟩
      rw [hdata] at h
      dsimp only at h
      rw [hjoins.addEdge? hindex, Option.getD_some] at h
      have hindex' : ({ g₁ with arcs := g₁.arcs ++ [⟨first, last, d⟩] } : Graph).index = g.index :=
        hindex
      obtain ⟨arcs, harcs, hgraph⟩ :=
        addEdgeRows_eq_ok (fun r hr => hknown r (List.mem_cons_of_mem row hr)) hindex' h
      refine ⟨_ :: arcs, .cons hjoins harcs, ?_⟩
      rw [hgraph, List.append_assoc, List.singleton_append]

/-! ## The index of ascending nodes -/

/-- Nodes that ascend are entered one on top of the other: none displaces another. -/
theorem index_ofNodes {nodes : List Node} (h : (nodes.map Node.id).Pairwise (· < ·)) :
    (ofNodes nodes).index = (nodes.map Node.id).zipIdx.reverse := by
  induction nodes using List.reverseRecOn with
  | nil => rfl
  | append_singleton nodes n ih =>
    rw [List.map_append, List.map_singleton, List.pairwise_append] at h
    obtain ⟨hfront, -, hlast⟩ := h
    have hkeep : (ofNodes nodes).index.filter (fun e => e.1 != n.id) = (ofNodes nodes).index := by
      rw [List.filter_eq_self, ih hfront]
      intro e he
      have hmem : e.1 ∈ nodes.map Node.id :=
        List.fst_mem_of_mem_zipIdx (List.mem_reverse.1 he)
      have hlt := hlast e.1 hmem n.id List.mem_cons_self
      exact bne_iff_ne.2 (Int.ne_of_lt hlt)
    simp only [ofNodes_concat, addNode, enter, hkeep, nodes_ofNodes]
    rw [ih hfront]
    simp [List.zipIdx_append]

/-- Of nodes that ascend, the index leads to the one that carries the number asked for. -/
theorem position?_ofNodes_iff {nodes : List Node} (h : (nodes.map Node.id).Pairwise (· < ·))
    (id : Int) (i : Nat) :
    (ofNodes nodes).position? id = some i ↔ ∃ n, nodes[i]? = some n ∧ n.id = id := by
  refine ⟨exists_of_position?_ofNodes nodes, ?_⟩
  rintro ⟨n, hn, rfl⟩
  have hnodup : (nodes.map Node.id).Nodup := h.imp Int.ne_of_lt
  obtain ⟨j, hj⟩ := Option.isSome_iff_exists.1 (isSome_position?_ofNodes (List.mem_of_getElem? hn))
  obtain ⟨m, hm, hid⟩ := exists_of_position?_ofNodes nodes hj
  -- The index leads to one position of the number, and no number stands at two.
  have hsame : (nodes.map Node.id)[j]? = (nodes.map Node.id)[i]? := by
    rw [List.getElem?_map, List.getElem?_map, hm, hn, Option.map_some, Option.map_some, hid]
  have hlt : j < (nodes.map Node.id).length := by
    rw [List.length_map]
    exact (List.getElem?_eq_some_iff.1 hm).1
  rw [← (List.getElem?_inj hlt hnodup).1 hsame, hj]

/-- A graph is well-formed if its nodes and arcs ascend, its index is that of its nodes, and its
arcs stand between numbers that the index knows. -/
theorem wellFormed_of_index {g : Graph} (hnodes : (g.nodes.map Node.id).Pairwise (· < ·))
    (hindex : g.index = (ofNodes g.nodes).index)
    (harcs : (g.arcs.map fun a => a.data.id).Pairwise (· < ·))
    (hjoined : ∀ a ∈ g.arcs, ∃ source target, g.position? source = some a.source ∧
      g.position? target = some a.target) : g.WellFormed := by
  have hposition : ∀ id i, g.position? id = some i ↔ ∃ n, g.node? i = some n ∧ n.id = id := by
    intro id i
    unfold position?
    rw [hindex]
    exact position?_ofNodes_iff hnodes id i
  have hbelow : ∀ {id : Int} {i : Nat}, g.position? id = some i → i < g.nodes.length := by
    intro id i hi
    obtain ⟨n, hn, -⟩ := (hposition id i).1 hi
    exact (List.getElem?_eq_some_iff.1 hn).1
  refine ⟨hnodes, harcs, ?_, hposition, fun a ha => ?_⟩
  · rw [hindex, index_ofNodes hnodes]
    exact List.reverse_perm _
  · obtain ⟨source, target, hsource, htarget⟩ := hjoined a ha
    exact ⟨hbelow hsource, hbelow htarget⟩

end Graph

namespace State

variable {s s' : State}

/-! ## Opening -/

/-- The graph that is loaded from rows that are in step with some graph is in step with them. -/
theorem InStep.of_ofTables (h : s.InStep) (hopen : ofTables s.tables = .ok s') : s'.InStep := by
  unfold ofTables Graph.load Graph.addTables at hopen
  rw [mergeSort_of_ascending VertexRow.id h.ascending,
    mergeSort_of_ascending EdgeRow.id h.edgesAscending] at hopen
  cases hrows : Graph.addRows Graph.empty s.tables.vertices with
  | error e => rw [hrows] at hopen; cases hopen
  | ok g =>
    obtain ⟨nodes, hids, hg⟩ := Graph.addRows_eq_ok hrows
    have hg : g = Graph.ofNodes nodes := hg
    rw [hrows] at hopen
    dsimp only at hopen
    -- Loading enters the numbers that writing entered, in the same order.
    have hsame : g.index = s.graph.index := by
      rw [h.index, hg, Graph.index_ofNodes (hids ▸ h.ascending), hids, h.rows,
        Graph.index_ofNodes (h.rows ▸ h.ascending)]
    have hknown : ∀ row ∈ s.tables.edges,
        (g.position? row.sourceId).isSome ∧ (g.position? row.targetId).isSome := by
      intro row hrow
      obtain ⟨a, -, hjoins⟩ := (exists_mem_of_forall₂ h.arcs).2 row hrow
      have hsource := hjoins.source
      have htarget := hjoins.target
      unfold Graph.position? at hsource htarget ⊢
      rw [hsame, hsource, htarget]
      exact ⟨rfl, rfl⟩
    cases hedges : Graph.addEdgeRows g s.tables.edges with
    | error e => rw [hedges] at hopen; cases hopen
    | ok g' =>
      rw [hedges] at hopen
      cases hopen
      obtain ⟨arcs, harcs, hg'⟩ := Graph.addEdgeRows_eq_ok hknown rfl hedges
      have hnodes : g'.nodes = nodes := by rw [hg', hg, Graph.nodes_ofNodes]
      have hindex : g'.index = g.index := by rw [hg']
      refine ⟨?_, h.ascending, h.highest, ?_, ?_, h.edgesAscending, h.edgesHighest⟩
      · rw [hnodes, hids]
      · rw [hnodes, hindex, hg]
      · have hall : g'.arcs = arcs := by rw [hg', hg, Graph.arcs_ofNodes, List.nil_append]
        rw [hall]
        exact harcs.imp fun row a hjoins => ⟨hjoins.id, hjoins.edgeType,
          by rw [← hjoins.source]; exact congrArg (List.lookup row.sourceId) hindex,
          by rw [← hjoins.target]; exact congrArg (List.lookup row.targetId) hindex⟩

/-- A state that can be reached: a new database is opened, written to, and opened again on the
rows that it has come to, in any order and any number of times. -/
inductive Reachable : State → Prop
  | new {s : State} (opened : ofTables {} = .ok s) : Reachable s
  | write {s : State} (before : Reachable s) (w : Write) : Reachable (s.write w)
  | reopen {s s' : State} (before : Reachable s) (opened : ofTables s.tables = .ok s') :
      Reachable s'

theorem Reachable.run (h : s.Reachable) (writes : List Write) : (s.run writes).Reachable := by
  induction writes generalizing s with
  | nil => exact h
  | cons w rest ih => exact ih (h.write w)

/-- In every state that can be reached rows and graph are in step. -/
theorem Reachable.inStep (h : s.Reachable) : s.InStep := by
  induction h with
  | new opened =>
    rw [ofTables_empty] at opened
    cases opened
    exact inStep_empty
  | write before w ih => exact ih.of_reflTransGen (write_grows _ w)
  | reopen before opened ih => exact ih.of_ofTables opened

/-! ## What being in step comes to -/

/-- A graph that is in step with its rows is well-formed. -/
theorem InStep.wellFormed (h : s.InStep) : s.graph.WellFormed := by
  refine Graph.wellFormed_of_index (h.rows ▸ h.ascending) h.index ?_ fun a ha => ?_
  · have hids : s.tables.edges.map EdgeRow.id = s.graph.arcs.map fun a => a.data.id :=
      map_eq_of_forall₂ h.arcs fun hjoins => hjoins.id
    exact hids ▸ h.edgesAscending
  · obtain ⟨row, -, hjoins⟩ := (exists_mem_of_forall₂ h.arcs).1 a ha
    exact ⟨row.sourceId, row.targetId, hjoins.source, hjoins.target⟩

/-- **Reachable states are well-formed.** However often a database was opened and whatever was
written to it, its nodes and arcs ascend by number, the index leads from the number of each node
to its position and from no other number anywhere, and every arc joins two nodes.  So the
checks of an edge's endpoints are all there is to fail: whatever edge is stored, its vertices
do not vanish between the check and the write, and its endpoints are indexed. -/
theorem reachable_wellFormed (h : s.Reachable) :
    s.graph.WellFormed ∧
      ∀ mode e reason, (s.storeEdge mode e).1.outcome ≠ .error (.internal reason) := by
  refine ⟨h.inStep.wellFormed, fun mode e reason hinternal => ?_⟩
  rcases storeEdge_cases h.inStep mode e with ⟨err, heq, hvalidation⟩ | hfull | hok
  · rw [heq] at hinternal
    cases hinternal
    cases hvalidation
  · rw [hfull] at hinternal
    cases hinternal
  · rw [hok] at hinternal
    cases hinternal

/-- The sample, opened again, with another edge between its vertices. -/
def reopenedSample : State :=
  (run {} Session.sampleWrites).write
    (.edge .create { edgeType := "KNOWS", sourceId := some ⟨"2"⟩, destinationId := some ⟨"+1"⟩ })

/-- The sample that was opened again has come to two nodes with two arcs between them. -/
theorem reachable_wellFormed_reopened : reopenedSample.Reachable ∧
    reopenedSample.graph.nodes.map Node.id = [1, 2] ∧
    reopenedSample.graph.arcs.map (fun a => (a.data.id, a.source, a.target)) =
      [(1, 0, 1), (2, 1, 0)] ∧
    reopenedSample.graph.WellFormed ∧
    ∀ mode e reason, (reopenedSample.storeEdge mode e).1.outcome ≠ .error (.internal reason) := by
  have hfirst : (run {} Session.sampleWrites).Reachable :=
    (Reachable.new ofTables_empty).run Session.sampleWrites
  have hagain : reopenedSample.Reachable :=
    (hfirst.reopen (ofTables_run _ Session.legible_sampleWrites)).write _
  obtain ⟨hwell, hinternal⟩ := reachable_wellFormed hagain
  exact ⟨hagain, by rfl, by rfl, hwell, hinternal⟩

end State
end PropertyGraph.Embedded
