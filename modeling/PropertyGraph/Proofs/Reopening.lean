import PropertyGraph.Embedded.Session
import PropertyGraph.Proofs.EmbeddedSync

/-!
# Reopening a stored graph

A graph that is kept in a file is loaded from its rows on opening.  Loading starts from
nothing, sorts the rows by number, reads their text and places every edge anew; an edge that
it cannot place is dropped without a word.  Still the loaded graph is the one that was kept in
memory: with rows and graph in step (`EmbeddedSync.lean`) the rows are sorted already, adding
their nodes builds the index again, and the index knows both endpoints of every edge.

> Main result (`reopen_run`): after any sequence of calls on an empty database, opening its
> rows gives the session that was kept open.

What is taken for granted is that JSON text is read back as what it was written from
(`Legible`), for the labels and properties that are stored at the end.
-/

namespace PropertyGraph.Embedded

/-- The text of everything stored is read back as an equal value. -/
structure State.Legible (s : State) : Prop where
  labels : ∀ n ∈ s.graph.nodes, readLabels (Json.texts n.labels).text = .ok n.labels
  properties : ∀ n ∈ s.graph.nodes,
    readProperties (Json.ofDict n.properties).text = .ok n.properties
  edges : ∀ a ∈ s.graph.arcs,
    readProperties (Json.ofDict a.data.properties).text = .ok a.data.properties

/-! ## Reading the rows -/

/-- Rows in ascending order stay where they are. -/
theorem mergeSort_of_ascending {α : Type} (id : α → Int) {rows : List α}
    (h : (rows.map id).Pairwise (· < ·)) :
    rows.mergeSort (fun a b => decide (id a ≤ id b)) = rows := by
  refine List.mergeSort_of_pairwise ((List.pairwise_map.1 h).imp ?_)
  intro a b hlt
  exact decide_eq_true (Int.le_of_lt hlt)

/-- Reading the text of properties in two steps: the text as a document, the document as
properties. -/
theorem readProperties_of_document {properties : PropertyMap} {text : String} {d : Document}
    (hdocument : Json.document? text = some d)
    (hread : Nested.source.properties? ⟨Document.maxDepth, d⟩ = some properties) :
    readProperties text = .ok properties := by
  unfold readProperties Json.decode?
  rw [hdocument]
  dsimp only [Option.bind_some]
  rw [hread]

theorem Node.toNode_row {n : Node} (hlabels : readLabels (Json.texts n.labels).text = .ok n.labels)
    (hproperties : readProperties (Json.ofDict n.properties).text = .ok n.properties) :
    n.row.toNode = .ok n := by
  unfold VertexRow.toNode Node.row
  rw [hlabels]
  dsimp only
  rw [hproperties]

namespace Graph

/-- The rows of legible nodes are loaded as these nodes. -/
theorem addRows_map_row (nodes : List Node) : ∀ g : Graph,
    (∀ n ∈ nodes, n.row.toNode = .ok n) →
      addRows g (nodes.map Node.row) = .ok (nodes.foldl addNode g) := by
  induction nodes with
  | nil => intro g _; rfl
  | cons n rest ih =>
    intro g h
    rw [List.map_cons, addRows, h n List.mem_cons_self]
    exact ih (g.addNode n) fun m hm => h m (List.mem_cons_of_mem n hm)

/-- A legible edge row is read as what its arc carries. -/
theorem Joins.toData {g : Graph} {row : EdgeRow} {a : Arc} (h : g.Joins row a)
    (htext : row.properties = (Json.ofDict a.data.properties).text)
    (hread : readProperties (Json.ofDict a.data.properties).text = .ok a.data.properties) :
    row.toData = .ok a.data := by
  unfold EdgeRow.toData
  rw [htext, hread]
  dsimp only
  rw [h.id, h.edgeType]

/-- A row is placed where its arc is, in any graph with the same index. -/
theorem Joins.addEdge? {g : Graph} {row : EdgeRow} {a : Arc} (h : g.Joins row a) {g' : Graph}
    (hindex : g'.index = g.index) :
    g'.addEdge? row.sourceId row.targetId a.data =
      some { g' with arcs := g'.arcs ++ [a] } := by
  have hsource : g'.position? row.sourceId = some a.source := by
    rw [← h.source]
    exact congrArg (List.lookup row.sourceId) hindex
  have htarget : g'.position? row.targetId = some a.target := by
    rw [← h.target]
    exact congrArg (List.lookup row.targetId) hindex
  unfold Graph.addEdge?
  rw [hsource, htarget]

/-- Edge rows that stand beside legible arcs are loaded as these arcs; none is dropped. -/
theorem addEdgeRows_eq {g : Graph} {rows : List EdgeRow} {arcs : List Arc}
    (h : List.Forall₂ g.Joins rows arcs) :
    rows.map EdgeRow.properties = arcs.map (fun a => (Json.ofDict a.data.properties).text) →
    (∀ a ∈ arcs,
      readProperties (Json.ofDict a.data.properties).text = .ok a.data.properties) →
    ∀ g' : Graph, g'.index = g.index →
      addEdgeRows g' rows = .ok { g' with arcs := g'.arcs ++ arcs } := by
  induction h with
  | nil =>
    intro _ _ g' _
    rw [List.append_nil]
    rfl
  | @cons row a rows arcs hjoins _ ih =>
    intro htext hread g' hindex
    rw [List.map_cons, List.map_cons, List.cons.injEq] at htext
    have hdata := hjoins.toData htext.1 (hread a List.mem_cons_self)
    have hrest := ih htext.2 (fun b hb => hread b (List.mem_cons_of_mem a hb))
      { g' with arcs := g'.arcs ++ [a] } hindex
    rw [addEdgeRows, hdata]
    dsimp only
    rw [hjoins.addEdge? hindex, Option.getD_some, hrest, List.append_assoc,
      List.singleton_append]

end Graph

namespace State

/-- Loading the rows of a legible graph gives that graph, whenever rows and graph are in step. -/
theorem load_eq {s : State} (hstep : s.InStep) (htext : s.Transcribed) (hread : s.Legible) :
    Graph.load s.tables = .ok s.graph := by
  have hnodes : Graph.addRows Graph.empty s.tables.vertices =
      .ok (Graph.ofNodes s.graph.nodes) := by
    rw [htext.vertices]
    refine Graph.addRows_map_row _ _ fun n hn => ?_
    exact Node.toNode_row (hread.labels n hn) (hread.properties n hn)
  have harcs := Graph.addEdgeRows_eq hstep.arcs htext.edges hread.edges
    (Graph.ofNodes s.graph.nodes) hstep.index.symm
  unfold Graph.load Graph.addTables
  rw [mergeSort_of_ascending VertexRow.id hstep.ascending, hnodes,
    mergeSort_of_ascending EdgeRow.id hstep.edgesAscending]
  dsimp only
  rw [harcs, Graph.nodes_ofNodes, Graph.arcs_ofNodes, List.nil_append, ← hstep.index]

/-- Opening the rows that a sequence of calls left gives the state that it left. -/
theorem ofTables_run (writes : List Write) (hread : (run {} writes).Legible) :
    ofTables (run {} writes).tables = .ok (run {} writes) := by
  unfold ofTables
  rw [load_eq (inStep_run writes) (transcribed_run writes) hread]

theorem ofTables_empty : ofTables {} = .ok {} :=
  ofTables_run [] ⟨fun _ h => (List.not_mem_nil h).elim, fun _ h => (List.not_mem_nil h).elim,
    fun _ h => (List.not_mem_nil h).elim⟩

end State

namespace Session

/-- The session after a call, which is carried out in the given mode. -/
def write (s : Session) : Write → Session
  | .vertex mode v => (connection.storeVertex v (s.withWriteMode mode)).2
  | .edge mode e => (connection.storeEdge e (s.withWriteMode mode)).2

/-- The session after a sequence of calls. -/
def run (s : Session) (writes : List Write) : Session := writes.foldl write s

theorem state_run (writes : List Write) : ∀ s : Session,
    (s.run writes).state = s.state.run writes := by
  induction writes with
  | nil => intro s; rfl
  | cons w rest ih =>
    intro s
    have hstate : (s.write w).state = s.state.write w := by cases w <;> rfl
    exact (ih (s.write w)).trans (congrArg (fun state => State.run state rest) hstate)

/-- Opening a file opens its rows. -/
theorem connect_file {c : Config} {path : String}
    (hplace : Place.ofDatabase c.database = .file path)
    {disk : String → Option Tables} {t : Tables} (hrows : disk path = some t) :
    connect disk c = ofTables t c.writeMode := by
  unfold connect
  rw [hplace]
  dsimp only
  rw [hrows]

/-- A graph that is opened on an empty file, written to by any sequence of calls, and opened
again on the rows that these left, is the graph that was kept open: the same nodes and arcs in
the same order, the same index, and the same rows with the same numbers to come.  Whatever is
asked of it or stored in it afterwards therefore has the same answer. -/
theorem reopen_run (c : Config) (path : String) (hplace : Place.ofDatabase c.database = .file path)
    (disk : String → Option Tables) (hempty : disk path = some {}) (writes : List Write) :
    ∃ opened, connect disk c = .ok opened ∧
      ((opened.run writes).state.Legible →
        ∀ later : String → Option Tables, later path = some (opened.run writes).state.tables →
          connect later c = .ok ((opened.run writes).withWriteMode c.writeMode)) := by
  refine ⟨⟨{}, c.writeMode⟩, ?_, ?_⟩
  · rw [connect_file hplace hempty, ofTables, State.ofTables_empty]
  · intro hread later hlater
    rw [state_run] at hread
    rw [connect_file hplace hlater, state_run, ofTables, State.ofTables_run writes hread,
      withWriteMode, state_run]

/-- A vertex, and an edge from it to a vertex that is stored along with the edge. -/
def sampleWrites : List Write :=
  [.vertex .create
      { labels := ["Person"], properties := Dict.ofList [("name", .string "Tom")] },
    .edge .merge
      { edgeType := "KNOWS"
        sourceId := some (Identifier.ofInt 1)
        destination := some { labels := ["Person", "Friend"] }
        properties := Dict.ofList [("since", .integer 1990)] }]

-- The labels and properties of the sample as they are stored.

theorem readLabels_person : readLabels "[\"Person\"]" = .ok ["Person"] := by cbv

theorem readLabels_friend : readLabels "[\"Person\",\"Friend\"]" = .ok ["Person", "Friend"] := by
  cbv

theorem readProperties_empty : readProperties "\x7b\x7d" = .ok ∅ :=
  readProperties_of_document (by cbv) (by rfl)

theorem readProperties_name :
    readProperties "\x7b\"name\":\"Tom\"\x7d" = .ok (Dict.ofList [("name", .string "Tom")]) :=
  readProperties_of_document (by cbv) (by rfl)

theorem readProperties_since :
    readProperties "\x7b\"since\":1990\x7d" = .ok (Dict.ofList [("since", .integer 1990)]) :=
  readProperties_of_document (by cbv) (by rfl)

theorem legible_sampleWrites : (State.run {} sampleWrites).Legible := by
  have hnodes : (State.run {} sampleWrites).graph.nodes =
      [⟨1, ["Person"], Dict.ofList [("name", .string "Tom")]⟩,
        ⟨2, ["Person", "Friend"], ∅⟩] := by rfl
  have harcs : (State.run {} sampleWrites).graph.arcs =
      [⟨0, 1, 1, "KNOWS", Dict.ofList [("since", .integer 1990)]⟩] := by rfl
  have hread {properties : PropertyMap} {text : String}
      (htext : (Json.ofDict properties).text = text)
      (h : readProperties text = .ok properties) :
      readProperties (Json.ofDict properties).text = .ok properties := by
    rw [htext, h]
  refine ⟨?_, ?_, ?_⟩
  · have hperson : (Json.texts ["Person"]).text = "[\"Person\"]" := by decide +kernel
    have hfriend : (Json.texts ["Person", "Friend"]).text = "[\"Person\",\"Friend\"]" := by
      decide +kernel
    rw [hnodes, List.forall_mem_cons, List.forall_mem_singleton]
    exact ⟨(congrArg readLabels hperson).trans readLabels_person,
      (congrArg readLabels hfriend).trans readLabels_friend⟩
  · rw [hnodes, List.forall_mem_cons, List.forall_mem_singleton]
    exact ⟨hread (by decide +kernel) readProperties_name,
      hread (by decide +kernel) readProperties_empty⟩
  · rw [harcs, List.forall_mem_singleton]
    exact hread (by decide +kernel) readProperties_since

/-- The rows of the sample are opened as the two vertices and the edge that it stored. -/
theorem reopen_sampleWrites :
    Place.ofDatabase (some "graph.db") = .file "graph.db" ∧
      ∃ opened, connect (fun _ => some {}) { database := some "graph.db" } = .ok opened ∧
        (opened.run sampleWrites).vertexCount = 2 ∧ (opened.run sampleWrites).edgeCount = 1 ∧
        (opened.run sampleWrites).state.Legible ∧
        connect (fun _ => some (opened.run sampleWrites).state.tables)
          { database := some "graph.db" } =
            .ok ((opened.run sampleWrites).withWriteMode .merge) := by
  have hplace : Place.ofDatabase (some "graph.db") = .file "graph.db" := by decide
  obtain ⟨opened, hopen, hreopen⟩ := reopen_run { database := some "graph.db" } "graph.db" hplace
    (fun _ => some {}) rfl sampleWrites
  have hempty : opened.state = {} := by
    rw [connect_file hplace rfl, ofTables, State.ofTables_empty] at hopen
    cases hopen
    rfl
  have hread : (opened.run sampleWrites).state.Legible := by
    rw [state_run, hempty]
    exact legible_sampleWrites
  refine ⟨hplace, opened, hopen, ?_, ?_, hread, hreopen hread _ rfl⟩
  · rw [vertexCount, state_run, hempty]
    rfl
  · rw [edgeCount, state_run, hempty]
    rfl

end Session
end PropertyGraph.Embedded
