import PropertyGraph.Proofs.RecordedCalls
import PropertyGraph.Proofs.StoredDirection

/-!
# Storing with one statement

A remote graph stores an element with the one statement that says what is to be stored, or with
none where no statement does.  Anything may come back: an error, no rows, rows with columns that
are missing or hold something else, more rows than one.  `AllOrNothing` says what becomes of the
element: a call that succeeds takes every identifier from the first row, and a call that fails,
for whichever column, takes none.

The statement goes to the server as one request.  AgensGraph has a pool in between, which may
have no connection to give, and a text that cannot travel is held back there (`canSend`).

> Main result (`store_allOrNothing`): this is how all the remote graphs store, whatever their
> servers answer.
-/

namespace PropertyGraph

namespace Remote

variable {σ ρ α β : Type}

/-! ## Elements and rows -/

/-- The vertex that a row makes of another: it has the identifier of the row's vertex. -/
def VertexFromRow (reader : RowReader ρ) (v : Vertex) (row : ρ) (after : Vertex) : Prop :=
  ∃ found, reader.vertex Query.startVariable row = .ok found ∧ after = { v with id := found.id }

/-- The edge that a row makes of another: it has the identifiers of the row's relationship and of
the row's vertices, and the vertices that it came with have the latter. -/
def EdgeFromRow (reader : RowReader ρ) (e : Edge) (row : ρ) (after : Edge) : Prop :=
  ∃ start finish rel, reader.vertex Query.startVariable row = .ok start ∧
    reader.vertex Query.endVariable row = .ok finish ∧
    reader.edge Query.storedEdgeVariable row = .ok rel ∧
    after = { e with
      id := rel.id
      sourceId := start.id
      source := e.source.map fun v => { v with id := start.id }
      destinationId := finish.id
      destination := e.destination.map fun v => { v with id := finish.id } }

/-- How a call stores an element with a statement, or without one. -/
structure AllOrNothing (run : Run σ ρ) (statement : Except GraphError String) (element : α)
    (fromRow : ρ → α → Prop) (s : σ) (reply : Stored α × σ) : Prop where
  /-- Without a statement the call fails, and nothing has happened. -/
  refused : ∀ err, statement = .error err → reply = (⟨.error err, element⟩, s)
  /-- A statement is run once, and nothing else is. -/
  asked : ∀ text, statement = .ok text → reply.2 = (run text .write ∅ s).2
  /-- A call that fails leaves the element as it was. -/
  kept : ∀ err, reply.1.outcome = .error err → reply.1.element = element
  /-- A call succeeds if there is a first row that can be read, and makes the element of it. -/
  stored : ∀ after, reply.1 = ⟨.ok (), after⟩ ↔ ∃ text row rest, statement = .ok text ∧
    (run text .write ∅ s).1 = .ok (row :: rest) ∧ fromRow row after

/-- Vertices and edges are stored all or nothing. -/
def StoresWhole (run : Run σ ρ) (reader : RowReader ρ) (writeMode : σ → WriteMode)
    (c : Connection σ) : Prop :=
  (∀ v s, AllOrNothing run (Query.storeVertex v (writeMode s)) v (VertexFromRow reader v) s
    (c.storeVertex v s)) ∧
  ∀ e s, AllOrNothing run (Query.storeEdge e) e (EdgeFromRow reader e) s (c.storeEdge e s)

/-- A call fails if the first row that comes back cannot be read. -/
theorem AllOrNothing.exists_error {run : Run σ ρ} {text : String} {element : α}
    {fromRow : ρ → α → Prop} {s : σ} {reply : Stored α × σ} {row : ρ} {rest : List ρ}
    (h : AllOrNothing run (.ok text) element fromRow s reply)
    (hrows : (run text .write ∅ s).1 = .ok (row :: rest)) (hrow : ∀ after, ¬ fromRow row after) :
    ∃ err, reply.1.outcome = .error err := by
  cases hreply : reply.1 with
  | mk outcome after =>
    cases outcome with
    | error err => exact ⟨err, rfl⟩
    | ok _ =>
      obtain ⟨_, _, _, htext, hrun, hfrom⟩ := (h.stored after).1 hreply
      cases htext
      cases hrows.symm.trans hrun
      exact absurd hfrom (hrow after)

/-! ## Asking -/

section Asking

/-- A statement is run once, and its rows are read if there are any. -/
theorem ask_ok (run : Run σ ρ) (text : String) (mode : QueryMode) (params : PropertyMap)
    (read : List ρ → Except GraphError β) (s : σ) :
    ask run (.ok text) mode params read s =
      ((run text mode params s).1.bind read, (run text mode params s).2) := by
  unfold ask
  dsimp only
  obtain ⟨result, s'⟩ := run text mode params s
  cases result <;> rfl

/-- An element that is changed by what was found, or left as it was. -/
def settle (element : α) (take : β → α) : Except GraphError β → Stored α
  | .ok found => ⟨.ok (), take found⟩
  | .error err => ⟨.error err, element⟩

theorem settle_eq_ok_iff {element after : α} {take : β → α} {found : Except GraphError β} :
    settle element take found = ⟨.ok (), after⟩ ↔ ∃ x, found = .ok x ∧ after = take x := by
  cases found with
  | error err => simp [settle]
  | ok x => simp [settle, eq_comm]

/-- An element that is settled by what the first row holds is stored all or nothing. -/
theorem allOrNothing_settle (run : Run σ ρ) (element : α) {read : List ρ → Except GraphError β}
    {take : β → α} {fromRow : ρ → α → Prop}
    (hread : ∀ rows after, (∃ x, read rows = .ok x ∧ after = take x) ↔
      ∃ row rest, rows = row :: rest ∧ fromRow row after)
    (statement : Except GraphError String) (s : σ) :
    AllOrNothing run statement element fromRow s
      (settle element take (ask run statement .write ∅ read s).1,
        (ask run statement .write ∅ read s).2) where
  refused := by
    rintro err rfl
    rfl
  asked := by
    rintro text rfl
    rw [ask_ok]
  kept := by
    intro err
    cases (ask run statement .write ∅ read s).1 with
    | error _ => exact fun _ => rfl
    | ok _ => exact fun h => nomatch h
  stored := by
    intro after
    rw [settle_eq_ok_iff]
    cases statement with
    | error err => simp [ask]
    | ok text =>
      rw [ask_ok]
      cases hrun : (run text .write ∅ s).1 with
      | error err => simp [Except.bind, hrun]
      | ok rows =>
        have hbind : (Except.ok rows : Except GraphError (List ρ)).bind read = read rows := rfl
        rw [hbind, hread]
        simp [hrun]

/-- Of the rows that report a vertex only the first is read. -/
theorem storedVertex_iff (reader : RowReader ρ) (v : Vertex) (rows : List ρ) (after : Vertex) :
    (∃ found, storedVertex reader rows = .ok found ∧ after = { v with id := found.id }) ↔
      ∃ row rest, rows = row :: rest ∧ VertexFromRow reader v row after := by
  cases rows with
  | nil => simp [storedVertex, firstRow, bind_eq_ok_iff]
  | cons row rest => simp [storedVertex, firstRow, bind_eq_ok_iff, VertexFromRow]

/-- Of the rows that report an edge only the first is read, in all three columns. -/
theorem storedEdge_iff (reader : RowReader ρ) (e : Edge) (rows : List ρ) (after : Edge) :
    (∃ found, storedEdge reader rows = .ok found ∧ after = { e with
        id := found.edge.id
        sourceId := found.source.id
        source := e.source.map fun v => { v with id := found.source.id }
        destinationId := found.destination.id
        destination := e.destination.map fun v => { v with id := found.destination.id } }) ↔
      ∃ row rest, rows = row :: rest ∧ EdgeFromRow reader e row after := by
  cases rows with
  | nil => simp [storedEdge, firstRow, bind_eq_ok_iff]
  | cons row rest =>
    have hfound : ∀ found, storedEdge reader (row :: rest) = .ok found ↔
        reader.vertex Query.startVariable row = .ok found.source ∧
        reader.vertex Query.endVariable row = .ok found.destination ∧
        reader.edge Query.storedEdgeVariable row = .ok found.edge := by
      rintro ⟨source, destination, edge⟩
      simp [storedEdge, firstRow, bind_eq_ok_iff]
    constructor
    · rintro ⟨found, hok, rfl⟩
      obtain ⟨hsource, hdestination, hedge⟩ := (hfound found).1 hok
      exact ⟨row, rest, rfl, found.source, found.destination, found.edge, hsource, hdestination,
        hedge, rfl⟩
    · rintro ⟨_, _, hrow, start, finish, rel, hstart, hfinish, hrel, rfl⟩
      cases hrow
      exact ⟨⟨start, finish, rel⟩, (hfound _).2 ⟨hstart, hfinish, hrel⟩, rfl⟩

end Asking

/-- A remote graph stores all or nothing. -/
theorem storesWhole_connection (run : Run σ ρ) (reader : RowReader ρ) (writeMode : σ → WriteMode)
    (close : σ → Reply σ Unit) :
    StoresWhole run reader writeMode (connection run reader writeMode close) := by
  constructor
  · intro v s
    have hidentify : identifyVertex v = settle v fun found => { v with id := found.id } := by
      funext found
      cases found <;> rfl
    have hstore := allOrNothing_settle run v (storedVertex_iff reader v)
      (Query.storeVertex v (writeMode s)) s
    rwa [← hidentify] at hstore
  · intro e s
    have hidentify : identifyEdge e = settle e fun found => { e with
        id := found.edge.id
        sourceId := found.source.id
        source := e.source.map fun v => { v with id := found.source.id }
        destinationId := found.destination.id
        destination := e.destination.map fun v => { v with id := found.destination.id } } := by
      funext found
      cases found <;> rfl
    have hstore := allOrNothing_settle run e (storedEdge_iff reader e)
      (Query.storeEdge e) s
    rwa [← hidentify] at hstore

/-! ## Requests -/

section Requests

variable {κ : Type}

/-- Storing an element sends the requests that come of its statement, and no others. -/
def SendsStatement (c : Connection σ) (writeMode : σ → WriteMode) (sent : σ → List κ)
    (requests : σ → String → List κ) : Prop :=
  (∀ v s, sent (c.storeVertex v s).2 =
    sent s ++ requestsOf (requests s) (Query.storeVertex v (writeMode s))) ∧
  ∀ e s, sent (c.storeEdge e s).2 = sent s ++ requestsOf (requests s) (Query.storeEdge e)

variable {run : Run σ ρ} {sent : σ → List κ} {requests : σ → String → List κ}
  (hrun : ∀ text s, sent (run text .write ∅ s).2 = sent s ++ requests s text)

include hrun

/-- What is sent is what one run of the statement sends. -/
theorem AllOrNothing.sent_eq {statement : Except GraphError String} {element : α}
    {fromRow : ρ → α → Prop} {s : σ} {reply : Stored α × σ}
    (h : AllOrNothing run statement element fromRow s reply) :
    sent reply.2 = sent s ++ requestsOf (requests s) statement := by
  cases statement with
  | error err => rw [h.refused err rfl, requestsOf, List.append_nil]
  | ok text => rw [h.asked text rfl, hrun, requestsOf]

theorem StoresWhole.sendsStatement {reader : RowReader ρ} {writeMode : σ → WriteMode}
    {c : Connection σ} (h : StoresWhole run reader writeMode c) :
    SendsStatement c writeMode sent requests :=
  ⟨fun v s => (h.1 v s).sent_eq hrun, fun e s => (h.2 e s).sent_eq hrun⟩

end Requests
end Remote

/-! ## Databases -/

section Databases

variable {σ : Type}

namespace Agens

/-- A server that keeps the requests it receives. -/
def Server.recorded (server : Server σ) : Server (σ × List Request) where
  accepts far := server.accepts far.1
  answer request far :=
    ((server.answer request far.1).1, (server.answer request far.1).2, far.2 ++ [request])

namespace Session

/-- Whether a query text gets to the server: the pool is open and has a connection to give in
time, and the statement can travel. -/
def canSend (server : Server σ) (s : Session σ) (text : String) : Bool :=
  s.isOpen && s.queryTimeout != 0 && s.poolSize != 0 && s.canConnect && server.accepts s.server &&
    isSendable (s.statement text)

/-- The requests with which a statement that writes gets to the server: one, or none. -/
def requests (server : Server σ) (s : Session σ) (text : String) : List Request :=
  if s.canSend server text then [⟨false, s.statement text⟩] else []

/-- A text that cannot be sent is not, and the session stays as it is. -/
theorem run_of_not_canSend {server : Server σ} {s : Session σ} {text : String}
    (h : s.canSend server text = false) (mode : QueryMode) (params : PropertyMap) :
    (run server text mode params s).2 = s := by
  unfold run
  dsimp only
  split_ifs with hopen htime hconnect hsend
  · rfl
  · rfl
  · rfl
  · rfl
  · simp_all [canSend]

/-- A text that can be sent is one request to the server. -/
theorem run_of_canSend {server : Server σ} {s : Session σ} {text : String}
    (h : s.canSend server text = true) (mode : QueryMode) (params : PropertyMap) :
    (run server text mode params s).2.server =
      (server.answer ⟨decide (mode = .read), s.statement text⟩ s.server).2 := by
  simp only [canSend, Bool.and_eq_true, bne_iff_ne, ne_eq] at h
  obtain ⟨⟨⟨⟨⟨hopen, htime⟩, hsize⟩, hconnect⟩, haccepts⟩, hsend⟩ := h
  unfold run
  dsimp only
  rw [if_neg (by simp [hopen]), if_neg (by simp [htime, hsize]),
    if_neg (by simp [hconnect, haccepts]), if_neg (by simp [hsend])]
  cases (server.answer ⟨decide (mode = .read), s.statement text⟩ s.server).1 <;> rfl

theorem sent_run (server : Server σ) (text : String) (s : Session (σ × List Request)) :
    (run server.recorded text .write ∅ s).2.server.2 =
      s.server.2 ++ requests server.recorded s text := by
  unfold requests
  by_cases hsend : s.canSend server.recorded text = true
  · rw [run_of_canSend hsend, if_pos hsend]
    rfl
  · rw [run_of_not_canSend (Bool.eq_false_iff.2 hsend), if_neg hsend, List.append_nil]

end Session
end Agens

namespace Bolt

/-- A server that keeps the requests it receives. -/
def Server.recorded (server : Server σ) : Server (σ × List Request) where
  answer request far :=
    ((server.answer request far.1).1, (server.answer request far.1).2, far.2 ++ [request])

/-- A statement gets to the server as one request, with its parameters. -/
theorem Session.requested_run (server : Server σ) (text : String) (mode : QueryMode)
    (params : PropertyMap) (s : Session (σ × List Request)) :
    (run server.recorded text mode params s).2.server.2 =
      s.server.2 ++ [⟨s.database, text, Value.ofMembers params.entries⟩] := by
  unfold run Server.recorded
  dsimp only
  cases (server.answer _ s.server.1).1 <;> rfl

/-- A statement that writes gets to the server as one request. -/
theorem Session.sent_run (server : Server σ) (text : String) (s : Session (σ × List Request)) :
    (run server.recorded text .write ∅ s).2.server.2 =
      s.server.2 ++ [⟨s.database, text, []⟩] := requested_run server text .write ∅ s

end Bolt
end Databases

namespace Remote

/-- **Stores of a remote graph are all or nothing.**  On AgensGraph and over Bolt, for every
vertex or edge, every state of the session and whatever the server answers: without a statement
nothing is run, and otherwise the statement is run once and nothing else is; a call that fails
leaves the element as it was, with its endpoints; a call succeeds if the first row that comes
back can be read in all its columns, and then the element differs in its identifier, the
identifiers of its endpoints and those of the vertices it came with, which are those of this row.

A statement that is run is one request to a Bolt server; AgensGraph gets it as one request if the
session can send it, and else gets none. -/
theorem store_allOrNothing {σ : Type} :
    (∀ server : Agens.Server σ,
      StoresWhole (Agens.Session.run server) Agens.Session.reader Agens.Session.writeMode
        (Agens.Session.connection server) ∧
      SendsStatement (Agens.Session.connection server.recorded) Agens.Session.writeMode
        (fun s => s.server.2) (Agens.Session.requests server.recorded)) ∧
    ∀ server : Bolt.Server σ,
      StoresWhole (Bolt.Session.run server) Bolt.Session.reader Bolt.Session.writeMode
        (Bolt.Session.connection server) ∧
      SendsStatement (Bolt.Session.connection server.recorded) Bolt.Session.writeMode
        (fun s => s.server.2) fun s text => [⟨s.database, text, []⟩] := by
  constructor
  · intro server
    have hwhole := storesWhole_connection (Agens.Session.run server.recorded) Agens.Session.reader
      Agens.Session.writeMode Agens.Session.close
    exact ⟨storesWhole_connection _ _ _ _,
      hwhole.sendsStatement (Agens.Session.sent_run server)⟩
  · intro server
    have hwhole := storesWhole_connection (Bolt.Session.run server.recorded) Bolt.Session.reader
      Bolt.Session.writeMode fun s => (.ok (), s)
    exact ⟨storesWhole_connection _ _ _ _,
      hwhole.sendsStatement (Bolt.Session.sent_run server)⟩

/-! ## Two people -/

open Agens.Session

/-- A session with a server that keeps its requests and has received none. -/
def recordedSession : Agens.Session (Unit × List Agens.Request) where
  graphName := "g"
  queryTimeout := 5
  writeMode := .merge
  poolSize := 1
  canConnect := true
  server := ((), [])

/-- The query text that stores the edge between two people. -/
def mergeAcquaintance : String := "MERGE (sv:person)-[rel:knows]-(ev:person)  return sv, rel, ev"

theorem storeEdge_acquaintance : Query.storeEdge acquaintance = .ok mergeAcquaintance := by
  decide +kernel

/-- The statement of the session for it can be sent. -/
theorem isSendable_mergeAcquaintance :
    Agens.isSendable (recordedSession.statement mergeAcquaintance) = true := by
  have hstatement : recordedSession.statement mergeAcquaintance =
      "SET graph_path = g;MERGE (sv:person)-[rel:knows]-(ev:person)  return sv, rel, ev" := by
    decide +kernel
  simp [hstatement, Agens.isSendable]

theorem canSend_mergeAcquaintance (relationship : String) :
    recordedSession.canSend (peopleServer relationship).recorded mergeAcquaintance = true := by
  unfold canSend
  rw [isSendable_mergeAcquaintance]
  rfl

theorem run_mergeAcquaintance (relationship : String) :
    (run (peopleServer relationship).recorded mergeAcquaintance .write ∅ recordedSession).1 =
      .ok [peopleRow relationship] := by
  unfold run
  dsimp only
  rw [isSendable_mergeAcquaintance]
  rfl

/-- A relationship without its ends cannot be read. -/
theorem edge_peopleRow_broken :
    reader.edge Query.storedEdgeVariable (peopleRow "knows[4.1]\x7b\x7d") =
      .error (.unexpectedResult "not an AgensGraph edge: knows[4.1]\x7b\x7d") := by
  have hparts : Agens.edgeParts? (Text.trim "knows[4.1]\x7b\x7d".toList) = none := by
    decide +kernel
  have hread : Agens.readEdge "knows[4.1]\x7b\x7d" =
      .error (.unexpectedResult "not an AgensGraph edge: knows[4.1]\x7b\x7d") := by
    rw [Agens.readEdge, hparts]
    rfl
  exact edge_of_column (column_ofList rfl) hread

/-- Two people come back, but of their relationship no ends: the edge has been sent, and is left
as it was.  When the ends come back, the edge and its people take their identifiers. -/
theorem store_allOrNothing_people :
    let broken := Agens.Session.connection (peopleServer "knows[4.1]\x7b\x7d").recorded
    let whole := Agens.Session.connection (peopleServer "knows[4.1][3.1,3.2]\x7b\x7d").recorded
    ((∃ err, (broken.storeEdge acquaintance recordedSession).1.outcome = .error err) ∧
      (broken.storeEdge acquaintance recordedSession).1.element = acquaintance ∧
      (broken.storeEdge acquaintance recordedSession).2.server.2 =
        [⟨false, recordedSession.statement mergeAcquaintance⟩]) ∧
    (whole.storeEdge acquaintance recordedSession).1 =
      ⟨.ok (), ((knows "3.1" "3.2").withSource (person "3.1")).withDestination (person "3.2")⟩ := by
  intro broken whole
  constructor
  · have hstored := (store_allOrNothing.1 (peopleServer "knows[4.1]\x7b\x7d").recorded).1.2
      acquaintance recordedSession
    have hsent := (store_allOrNothing.1 (peopleServer "knows[4.1]\x7b\x7d")).2.2 acquaintance
      recordedSession
    rw [storeEdge_acquaintance] at hstored hsent
    have hbroken : ∀ after, ¬ EdgeFromRow reader acquaintance (peopleRow "knows[4.1]\x7b\x7d")
        after := by
      rintro after ⟨start, finish, rel, -, -, hrel, -⟩
      rw [edge_peopleRow_broken] at hrel
      cases hrel
    obtain ⟨err, herr⟩ := hstored.exists_error (run_mergeAcquaintance _) hbroken
    refine ⟨⟨err, herr⟩, hstored.kept err herr, ?_⟩
    rw [requestsOf, Agens.Session.requests, if_pos (canSend_mergeAcquaintance _)] at hsent
    exact hsent
  · obtain ⟨⟨-, hstore⟩, -⟩ :=
      store_allOrNothing.1 (peopleServer "knows[4.1][3.1,3.2]\x7b\x7d").recorded
    have hparts : Agens.edgeParts? (Text.trim "knows[4.1][3.1,3.2]\x7b\x7d".toList) =
        some ("knows", ⟨"4.1"⟩, (⟨"3.1"⟩, ⟨"3.2"⟩), "\x7b\x7d") := by decide +kernel
    obtain ⟨hstart, hend⟩ := vertex_peopleRow "knows[4.1][3.1,3.2]\x7b\x7d"
    refine ((hstore acquaintance recordedSession).stored _).2
      ⟨mergeAcquaintance, _, [], storeEdge_acquaintance, run_mergeAcquaintance _, ?_⟩
    exact ⟨_, _, _, hstart, hend, (edge_peopleRow hparts).1, rfl⟩

end Remote
end PropertyGraph
