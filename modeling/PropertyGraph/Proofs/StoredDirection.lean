import PropertyGraph.Agens.Session
import PropertyGraph.Bolt.Session
import PropertyGraph.Proofs.GraphSearch

/-!
# The direction of a stored relationship

A relationship runs from one vertex to another, but the statements that match and store it have
no direction: a row may bind its two vertices either way round.  Reading a row for a query minds
this and puts either vertex where the relationship has it (`attachEndpoints_ends`).  Storing an
edge does not: the edge takes over the identifiers of its vertices as they are bound.

> Main result (`storeEdge_ends_iff`): a stored edge has the endpoints that its relationship
> reports, and that every later query for it reports, exactly if the relationship runs from the
> vertex that is bound as its start to the one that is bound as its end.
-/

namespace PropertyGraph

/-- The identifiers of the endpoints of an edge. -/
def Edge.ends (e : Edge) : Option Identifier × Option Identifier := (e.sourceId, e.destinationId)

namespace Remote

/-- An edge joins two vertices, in the one direction or in the other. -/
def Joins (e : Edge) (v w : Vertex) : Prop := e.ends = (v.id, w.id) ∨ e.ends = (w.id, v.id)

/-- Vertices that are attached to an edge leave its direction as it is. -/
theorem attachEndpoints_ends {e : Edge} {start finish : Vertex} (hid : start.id.isSome = true)
    (h : Joins e start finish) : (attachEndpoints e start finish).ends = e.ends := by
  unfold attachEndpoints
  by_cases hstart : start.id = e.sourceId
  · -- A relationship that joins a vertex to itself is bound both ways at once.
    have hboth : e.ends = (start.id, finish.id) := by
      rcases h with h | h
      · exact h
      · obtain ⟨hsource, hdestination⟩ := Prod.mk.inj h
        rw [h, ← hstart.trans hsource]
    rw [if_pos (by rw [hid, hstart, beq_self_eq_true, Bool.and_self]), hboth]
    rfl
  · have hreversed : e.ends = (finish.id, start.id) := by
      rcases h with h | h
      · exact absurd (Prod.mk.inj h).1.symm hstart
      · exact h
    rw [if_neg (by simp [hstart]), hreversed]
    rfl

/-! ## Replies -/

variable {σ ρ : Type}

/-- Every vertex that is read has an identifier. -/
def RowReader.Identifies (reader : RowReader ρ) : Prop :=
  ∀ column row v, reader.vertex column row = .ok v → v.id.isSome = true

section Replies

variable (run : Run σ ρ) (reader : RowReader ρ)

/-- The reply to storing an edge reports a relationship between two vertices: its first row
holds all three. -/
structure StoreReply (e : Edge) (s : σ) (start finish : Vertex) (rel : Edge) : Prop where
  answered : ∃ text row rest s', Query.storeEdge e = .ok text ∧
    run text .write ∅ s = (.ok (row :: rest), s') ∧
    reader.vertex Query.startVariable row = .ok start ∧
    reader.vertex Query.endVariable row = .ok finish ∧
    reader.edge Query.storedEdgeVariable row = .ok rel
  joined : Joins rel start finish

/-- A row of a reply to a request for edges holds a relationship, and the two vertices that it
joins where these are asked for. -/
structure Holds (mode : FetchMode) (row : ρ) (rel : Edge) : Prop where
  edge : reader.edge Query.edgeVariable row = .ok rel
  vertices : mode = .completeVertex → ∃ start finish,
    reader.vertex Query.startVariable row = .ok start ∧
    reader.vertex Query.endVariable row = .ok finish ∧ Joins rel start finish

/-- The reply to a request for edges returns a relationship. -/
def QueryReply (r : EdgeRequest) (s : σ) (rel : Edge) : Prop :=
  ∃ text rows s', Query.matchEdge r = .ok text ∧ run text .read r.params s = (.ok rows, s') ∧
    ∃ row ∈ rows, Holds reader r.fetchMode row rel

/-- A connection stores edges as their vertices are bound, and reports them as they run: an edge
that is stored has the ends of its relationship exactly if it was bound in its own direction,
and a query that returns the relationship finds an edge with its ends in either case. -/
def StoresAsBound (c : Connection σ) : Prop :=
  ∀ e s start finish rel, StoreReply run reader e s start finish rel →
    (c.storeEdge e s).1.outcome = .ok () ∧
    ((c.storeEdge e s).1.element.ends = rel.ends ↔ rel.ends = (start.id, finish.id)) ∧
    ∀ r s' edges, QueryReply run reader r s' rel → (c.queryEdge r s').1 = .ok edges →
      ∃ found ∈ edges, found.id = rel.id ∧ found.ends = rel.ends

variable {run reader}

/-- Whichever way round a row binds its vertices, the edge that is read runs as the relationship
does. -/
theorem readEdge_ends (hreader : reader.Identifies) {mode : FetchMode} {row : ρ}
    {rel found : Edge} (h : Holds reader mode row rel)
    (hfound : readEdge reader mode row = .ok found) :
    found.id = rel.id ∧ found.ends = rel.ends := by
  unfold readEdge at hfound
  rw [h.edge] at hfound
  cases mode with
  | vertexIds =>
    cases hfound
    exact ⟨rfl, rfl⟩
  | completeVertex =>
    obtain ⟨start, finish, hstart, hfinish, hjoins⟩ := h.vertices rfl
    simp only [hstart, hfinish, bind, Except.bind] at hfound
    cases hfound
    refine ⟨?_, attachEndpoints_ends (hreader _ _ _ hstart) hjoins⟩
    unfold attachEndpoints
    split <;> rfl

/-- What a store reports is the first row of its reply. -/
theorem StoreReply.storeEdge_eq {e : Edge} {s : σ} {start finish : Vertex} {rel : Edge}
    (h : StoreReply run reader e s start finish rel) (writeMode : σ → WriteMode)
    (close : σ → Reply σ Unit) :
    ((connection run reader writeMode close).storeEdge e s).1 =
      identifyEdge e (.ok { source := start, destination := finish, edge := rel }) := by
  obtain ⟨text, row, rest, s', htext, hrun, hstart, hfinish, hrel⟩ := h.answered
  simp only [connection, ask, htext, hrun, storedEdge, firstRow, hstart, hfinish, hrel, bind,
    Except.bind]

/-- What a query answers are the rows of its reply, each read as an edge. -/
theorem QueryReply.exists_row {r : EdgeRequest} {s : σ} {rel : Edge}
    (h : QueryReply run reader r s rel) {writeMode : σ → WriteMode} {close : σ → Reply σ Unit}
    {edges : List Edge}
    (hedges : ((connection run reader writeMode close).queryEdge r s).1 = .ok edges) :
    ∃ row, Holds reader r.fetchMode row rel ∧
      ∃ found ∈ edges, readEdge reader r.fetchMode row = .ok found := by
  obtain ⟨text, rows, s', htext, hrun, row, hrow, hholds⟩ := h
  simp only [connection, ask, htext, hrun] at hedges
  exact ⟨row, hholds, (exists_mem_of_forall₂ (mapM_eq_ok_iff.1 hedges)).2 row hrow⟩

/-- A remote graph whose vertices all have identifiers stores edges as they are bound. -/
theorem storesAsBound_connection (hreader : reader.Identifies) (writeMode : σ → WriteMode)
    (close : σ → Reply σ Unit) :
    StoresAsBound run reader (connection run reader writeMode close) := by
  intro e s start finish rel hstore
  rw [hstore.storeEdge_eq writeMode close]
  refine ⟨rfl, eq_comm, fun r s' edges hquery hedges => ?_⟩
  obtain ⟨row, hholds, found, hmem, hread⟩ := hquery.exists_row hedges
  exact ⟨found, hmem, readEdge_ends hreader hholds hread⟩

end Replies
end Remote

/-! ## Databases -/

/-- A vertex that is read from its text has an identifier. -/
theorem Agens.isSome_id_of_readVertex {text : String} {v : Vertex}
    (h : readVertex text = .ok v) : v.id.isSome = true := by
  unfold readVertex at h
  split at h
  next => cases h
  next label id written _ =>
    cases hread : readProperties written with
    | error e => rw [hread] at h; cases h
    | ok properties =>
      rw [hread] at h
      cases h
      rfl

theorem Agens.Session.identifies_reader : Agens.Session.reader.Identifies := by
  intro name row v hv
  have hbind : (column name row).bind readVertex = .ok v := hv
  cases htext : column name row with
  | error e => rw [htext] at hbind; cases hbind
  | ok text =>
    rw [htext] at hbind
    exact isSome_id_of_readVertex hbind

/-- A vertex that is read from a node has an identifier. -/
theorem Bolt.Value.isSome_id_of_vertex? {value : Value} {v : Vertex}
    (h : value.vertex? = some v) : v.id.isSome = true := by
  cases value with
  | node id labels properties =>
    cases h
    rfl
  | _ => cases h

/-- What is read from a column is read from some value. -/
theorem Bolt.Session.exists_value_of_column {α : Type} {read : Value → Option α} {name : String}
    {row : Record} {a : α} (h : column read name row = .ok a) :
    ∃ value, read value = some a := by
  unfold column at h
  split at h
  next b hread =>
    cases h
    obtain ⟨value, -, hvalue⟩ := Option.bind_eq_some_iff.1 hread
    exact ⟨value, hvalue⟩
  next => cases h

theorem Bolt.Session.identifies_reader : Bolt.Session.reader.Identifies := by
  intro name row v hv
  obtain ⟨value, hvalue⟩ := exists_value_of_column hv
  exact Value.isSome_id_of_vertex? hvalue

/-! ## Two people -/

namespace Agens

/-- A vertex is read from its parts. -/
theorem readVertex_of_parts {text label written : String} {id : Identifier}
    {properties : PropertyMap}
    (hparts : vertexParts? (Text.trim text.toList) = some (label, id, written))
    (hread : readProperties written = .ok properties) :
    readVertex text = .ok { id := some id, labels := [label], properties } := by
  unfold readVertex
  rw [hparts]
  dsimp only
  rw [hread]
  rfl

/-- An edge is read from its parts. -/
theorem readEdge_of_parts {text edgeType written : String} {id start finish : Identifier}
    {properties : PropertyMap}
    (hparts : edgeParts? (Text.trim text.toList) = some (edgeType, id, (start, finish), written))
    (hread : readProperties written = .ok properties) :
    readEdge text = .ok
      { id := some id
        edgeType
        sourceId := some start
        destinationId := some finish
        properties } := by
  unfold readEdge
  rw [hparts]
  dsimp only
  rw [hread]
  rfl

namespace Session

/-- A server that answers everything with two people, bound in this order, and a relationship. -/
def peopleServer (relationship : String) : Server Unit where
  accepts _ := true
  answer _ far := (.done [⟨["sv", "rel", "ev", "r"],
    [[some "person[3.1]\x7b\x7d", some relationship, some "person[3.2]\x7b\x7d",
      some relationship]]⟩], far)

/-- The row of that answer. -/
def peopleRow (relationship : String) : TextRow :=
  Dict.ofList [("sv", some "person[3.1]\x7b\x7d"), ("rel", some relationship),
    ("ev", some "person[3.2]\x7b\x7d"), ("r", some relationship)]

/-- A session with that server. -/
def peopleSession : Session Unit where
  graphName := "g"
  queryTimeout := 5
  writeMode := .merge
  poolSize := 1
  canConnect := true
  server := ()

/-- A column holds the text of its cell. -/
theorem column_ofList {cells : List (String × Option String)} {name text : String}
    (hcell : cells.reverse.lookup name = some (some text)) :
    column name (Dict.ofList cells) = .ok text := by
  rw [column, Dict.get?_ofList, hcell]

/-- A vertex is read from the text in its column. -/
theorem vertex_of_column {name text : String} {row : TextRow} {read : Except GraphError Vertex}
    (hcolumn : column name row = .ok text) (hread : readVertex text = read) :
    reader.vertex name row = read := by
  show (column name row).bind readVertex = read
  rw [hcolumn]
  exact hread

/-- An edge is read from the text in its column. -/
theorem edge_of_column {name text : String} {row : TextRow} {read : Except GraphError Edge}
    (hcolumn : column name row = .ok text) (hread : readEdge text = read) :
    reader.edge name row = read := by
  show (column name row).bind readEdge = read
  rw [hcolumn]
  exact hread

/-- The server answers every statement that can be sent. -/
theorem run_peopleServer {relationship text statement : String} {mode : QueryMode}
    {params : PropertyMap} (hstatement : peopleSession.statement text = statement)
    (hsend : isSendable statement = true) :
    run (peopleServer relationship) text mode params peopleSession =
      (.ok [peopleRow relationship], peopleSession) := by
  unfold run
  dsimp only
  rw [hstatement, hsend]
  rfl

end Session
end Agens

namespace Remote

open Agens.Session

/-- A person with an identifier. -/
def person (id : String) : Vertex := (Vertex.ofLabels ["person"]).withId ⟨id⟩

/-- The relationship of a person who knows another. -/
def knows (source destination : String) : Edge :=
  ((Edge.ofType "knows").withId ⟨"4.1"⟩).withEndpointIds ⟨source⟩ ⟨destination⟩

/-- An edge between two people that are still to be stored. -/
def acquaintance : Edge :=
  ((Edge.ofType "knows").withSource (.ofLabels ["person"])).withDestination (.ofLabels ["person"])

/-- A request for the edges between people. -/
def acquaintances : EdgeRequest where
  label := "knows"
  startLabels := ["person"]
  endLabels := ["person"]
  fetchMode := .completeVertex

/-- The query text of the request. -/
def matchAcquaintances : String := "MATCH (sv:person)-[r:knows]-(ev:person)  return sv, r, ev"

theorem matchEdge_acquaintances :
    Query.matchEdge acquaintances = .ok matchAcquaintances := by decide +kernel

theorem run_matchAcquaintances (relationship : String) :
    run (peopleServer relationship) matchAcquaintances .read ∅ peopleSession =
      (.ok [peopleRow relationship], peopleSession) := by
  have hstatement : peopleSession.statement matchAcquaintances =
      "SET graph_path = g;MATCH (sv:person)-[r:knows]-(ev:person)  return sv, r, ev" := by
    decide +kernel
  exact run_peopleServer hstatement (by simp [Agens.isSendable])

theorem readProperties_nothing : Agens.readProperties "\x7b\x7d" = .ok ∅ := rfl

theorem vertex_peopleRow (relationship : String) :
    reader.vertex Query.startVariable (peopleRow relationship) = .ok (person "3.1") ∧
      reader.vertex Query.endVariable (peopleRow relationship) = .ok (person "3.2") := by
  have hstart : Agens.readVertex "person[3.1]\x7b\x7d" = .ok (person "3.1") :=
    Agens.readVertex_of_parts (by decide +kernel) readProperties_nothing
  have hend : Agens.readVertex "person[3.2]\x7b\x7d" = .ok (person "3.2") :=
    Agens.readVertex_of_parts (by decide +kernel) readProperties_nothing
  exact ⟨vertex_of_column (column_ofList rfl) hstart, vertex_of_column (column_ofList rfl) hend⟩

section Relationship

variable {relationship source destination : String}
  (hparts : Agens.edgeParts? (Text.trim relationship.toList) =
    some ("knows", ⟨"4.1"⟩, (⟨source⟩, ⟨destination⟩), "\x7b\x7d"))

include hparts

theorem edge_peopleRow :
    reader.edge Query.storedEdgeVariable (peopleRow relationship) =
        .ok (knows source destination) ∧
      reader.edge Query.edgeVariable (peopleRow relationship) =
        .ok (knows source destination) := by
  have hread : Agens.readEdge relationship = .ok (knows source destination) :=
    Agens.readEdge_of_parts hparts readProperties_nothing
  exact ⟨edge_of_column (column_ofList rfl) hread, edge_of_column (column_ofList rfl) hread⟩

/-- The server reports the relationship when the edge is stored. -/
theorem storeReply_acquaintance (hjoins : Joins (knows source destination) (person "3.1")
    (person "3.2")) :
    StoreReply (run (peopleServer relationship)) reader acquaintance peopleSession
      (person "3.1") (person "3.2") (knows source destination) where
  answered := by
    have hstatement : peopleSession.statement
        "MERGE (sv:person)-[rel:knows]-(ev:person)  return sv, rel, ev" =
          "SET graph_path = g;MERGE (sv:person)-[rel:knows]-(ev:person)  return sv, rel, ev" := by
      decide +kernel
    exact ⟨"MERGE (sv:person)-[rel:knows]-(ev:person)  return sv, rel, ev",
      peopleRow relationship, [], peopleSession, by decide +kernel,
      run_peopleServer hstatement (by simp [Agens.isSendable]), (vertex_peopleRow relationship).1,
      (vertex_peopleRow relationship).2, (edge_peopleRow hparts).1⟩
  joined := hjoins

/-- The server returns the relationship when it is asked for. -/
theorem queryReply_acquaintances (hjoins : Joins (knows source destination) (person "3.1")
    (person "3.2")) :
    QueryReply (run (peopleServer relationship)) reader acquaintances peopleSession
      (knows source destination) := by
  refine ⟨matchAcquaintances, [peopleRow relationship], peopleSession, matchEdge_acquaintances,
    run_matchAcquaintances relationship, peopleRow relationship, List.mem_singleton.2 rfl,
    (edge_peopleRow hparts).2, fun _ => ?_⟩
  exact ⟨person "3.1", person "3.2", (vertex_peopleRow relationship).1,
    (vertex_peopleRow relationship).2, hjoins⟩

/-- The server's answer to the request is the relationship between the two people. -/
theorem queryEdge_acquaintances :
    ((Agens.Session.connection (peopleServer relationship)).queryEdge acquaintances
      peopleSession).1 =
        .ok [attachEndpoints (knows source destination) (person "3.1") (person "3.2")] := by
  have hparams : acquaintances.params = ∅ := rfl
  have hmode : acquaintances.fetchMode = .completeVertex := rfl
  obtain ⟨hstart, hend⟩ := vertex_peopleRow relationship
  simp only [Agens.Session.connection, connection, ask, matchEdge_acquaintances, hparams, hmode,
    run_matchAcquaintances, List.mapM_cons, List.mapM_nil, readEdge, (edge_peopleRow hparts).2,
    hstart, hend, bind, Except.bind, pure, Except.pure]

end Relationship

/-! ## Direction -/

/-- **Direction of a stored relationship.**  On every remote graph and for every edge: when the
first row of the reply to storing it holds two vertices and a relationship that joins them in
either direction, the edge is stored.  Its endpoints are those that the relationship reports
exactly if that runs from the vertex bound as the start to the one bound as the end; a query
that returns the relationship reports its own endpoints, whichever way round it is bound. -/
theorem storeEdge_ends_iff {σ : Type} :
    (∀ server : Agens.Server σ, StoresAsBound (Agens.Session.run server) Agens.Session.reader
      (Agens.Session.connection server)) ∧
    ∀ server : Bolt.Server σ, StoresAsBound (Bolt.Session.run server) Bolt.Session.reader
      (Bolt.Session.connection server) :=
  ⟨fun _ => storesAsBound_connection Agens.Session.identifies_reader _ _,
    fun _ => storesAsBound_connection Bolt.Session.identifies_reader _ _⟩

/-- A relationship that runs from the first person to the second is stored in its direction. -/
theorem storeEdge_ends_forward :
    let c := Agens.Session.connection (peopleServer "knows[4.1][3.1,3.2]\x7b\x7d")
    StoreReply (run (peopleServer "knows[4.1][3.1,3.2]\x7b\x7d")) reader acquaintance
      peopleSession (person "3.1") (person "3.2") (knows "3.1" "3.2") ∧
    (c.storeEdge acquaintance peopleSession).1.element.ends = (some ⟨"3.1"⟩, some ⟨"3.2"⟩) ∧
    ∃ edges, (c.queryEdge acquaintances peopleSession).1 = .ok edges ∧
      ∃ found ∈ edges, found.ends = (some ⟨"3.1"⟩, some ⟨"3.2"⟩) := by
  have hparts : Agens.edgeParts? (Text.trim "knows[4.1][3.1,3.2]\x7b\x7d".toList) =
      some ("knows", ⟨"4.1"⟩, (⟨"3.1"⟩, ⟨"3.2"⟩), "\x7b\x7d") := by decide +kernel
  have hjoins : Joins (knows "3.1" "3.2") (person "3.1") (person "3.2") := Or.inl rfl
  have hstore := storeReply_acquaintance hparts hjoins
  obtain ⟨-, hends, hquery⟩ := storeEdge_ends_iff.1 _ _ _ _ _ _ hstore
  have hedges := queryEdge_acquaintances hparts
  obtain ⟨found, hfound, -, hfoundEnds⟩ :=
    hquery _ _ _ (queryReply_acquaintances hparts hjoins) hedges
  exact ⟨hstore, hends.2 rfl, _, hedges, found, hfound, hfoundEnds⟩

/-- A relationship that runs from the second person to the first is stored against its
direction, and returned in it. -/
theorem storeEdge_ends_reversed :
    let c := Agens.Session.connection (peopleServer "knows[4.1][3.2,3.1]\x7b\x7d")
    StoreReply (run (peopleServer "knows[4.1][3.2,3.1]\x7b\x7d")) reader acquaintance
      peopleSession (person "3.1") (person "3.2") (knows "3.2" "3.1") ∧
    (c.storeEdge acquaintance peopleSession).1.outcome = .ok () ∧
    (c.storeEdge acquaintance peopleSession).1.element.ends = (some ⟨"3.1"⟩, some ⟨"3.2"⟩) ∧
    ∃ found, (c.queryEdge acquaintances peopleSession).1 = .ok [found] ∧
      found.ends = (some ⟨"3.2"⟩, some ⟨"3.1"⟩) := by
  have hparts : Agens.edgeParts? (Text.trim "knows[4.1][3.2,3.1]\x7b\x7d".toList) =
      some ("knows", ⟨"4.1"⟩, (⟨"3.2"⟩, ⟨"3.1"⟩), "\x7b\x7d") := by decide +kernel
  have hstore := storeReply_acquaintance hparts (Or.inr rfl)
  have hstored := hstore.storeEdge_eq Agens.Session.writeMode Agens.Session.close
  refine ⟨hstore, congrArg Stored.outcome hstored,
    congrArg (fun stored => stored.element.ends) hstored, _, queryEdge_acquaintances hparts, ?_⟩
  decide

end Remote
end PropertyGraph
