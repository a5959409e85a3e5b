import PropertyGraph.Proofs.EdgeIdentifiers
import PropertyGraph.Proofs.KeptAnswers

/-!
# Merging again

A call in merge mode searches up to three times, for either endpoint and for the edge, and each
search runs on the state that the step before has left.  Made again, the call runs all of them on
the state that its last step left.  They come to the same elements all the same: a vertex search
takes the first node that fits, and nodes are only ever added behind (`existingVertex?_extends`);
an edge search takes the last arc that fits, and the call added no arc but the one it was for
(`existingEdge?_of_upsertEdge`).  A vertex or an edge that was inserted fits itself.

The edge that a call hands back names its endpoints by the numbers they were stored under.  That
these are found again needs that every number is one of 64 bits (`Numbered`), since only such a
number is read back from its text.

> Main result (`store_merge_again`): after a call in merge mode succeeded, the same call succeeds
> with the same answer and changes nothing, and so does the call with the edge that was handed
> back.
-/

open Relation (ReflTransGen)

namespace PropertyGraph.Embedded

/-- The position of an element at the end comes last. -/
theorem Graph.positions_concat {α : Type} (p : α → Bool) (xs : List α) (x : α) :
    positions p (xs ++ [x]) = positions p xs ++ if p x then [xs.length] else [] := by
  unfold positions
  rw [List.zipIdx_append, List.filter_append, List.map_append, List.zipIdx_singleton,
    List.filter_singleton, Nat.zero_add]
  cases p x <;> rfl

/-- An arc is found by what it is. -/
theorem Graph.joins_self (a : Arc) :
    Graph.joins a.source a.target a.data.edgeType a.data.properties a = true := by
  simp [Graph.joins, satisfies_self]

namespace State

variable {s s' s₁ s₂ : State} {vertices edges : Nat}

/-! ## Vertices -/

section Vertices

variable {labels : List String} {properties : PropertyMap} {id : Int}

/-- A vertex that the search finds is reused. -/
theorem upsertVertex_of_existingVertex?
    (h : s.existingVertex? labels properties = some id) :
    s.upsertVertex .merge labels properties = (.ok id, s) := by
  unfold upsertVertex
  dsimp only
  rw [h]

/-- What a search for a vertex finds it finds when there are more nodes behind. -/
theorem existingVertex?_extends (h : Extends vertices edges s s')
    (hfound : s.existingVertex? labels properties = some id) :
    s'.existingVertex? labels properties = some id := by
  obtain ⟨added, hnodes, -⟩ := h.nodes
  rw [existingVertex?_eq] at hfound ⊢
  obtain ⟨n, hn, hid⟩ := Option.map_eq_some_iff.1 hfound
  rw [hnodes, List.find?_append, hn, Option.some_or, Option.map_some, hid]

/-- After a vertex was merged the search for it finds what it was merged into: the node that was
found before, or the new one, before which none fits. -/
theorem existingVertex?_of_upsertVertex
    (h : s.upsertVertex .merge labels properties = (.ok id, s')) :
    s'.existingVertex? labels properties = some id := by
  unfold upsertVertex at h
  cases hexisting : s.existingVertex? labels properties with
  | some found =>
    rw [hexisting] at h
    cases h
    exact hexisting
  | none =>
    rw [hexisting] at h
    dsimp only at h
    have hnone : (s.graph.nodes.find? fun n => n.fits labels [properties]) = none := by
      rwa [existingVertex?_eq, Option.map_eq_none_iff] at hexisting
    have houtcome := insertVertex_outcome s labels properties
    rw [h] at houtcome
    cases houtcome with
    | reused n stored fits =>
      exact absurd fits (List.find?_eq_none.1 hnone n stored)
    | inserted =>
      rw [existingVertex?_eq]
      have hself : Node.fits ⟨id, labels, properties⟩ labels [properties] = true :=
        Node.fits_self _
      simp only [Graph.addNode, List.find?_append, hnone, Option.none_or, List.find?_cons, hself,
        Option.map_some]

end Vertices

/-! ## Edges -/

section Edges

variable {source target id : Int} {edgeType : String} {properties : PropertyMap}

/-- An edge that the search finds is reused. -/
theorem upsertEdge_of_existingEdge?
    (h : s.existingEdge? source target edgeType properties = some id) :
    s.upsertEdge .merge source target edgeType properties = (.ok id, s) := by
  unfold upsertEdge
  dsimp only
  rw [h]

/-- The search finds an arc that was just added. -/
theorem existingEdge?_concat {a : Arc} (hsource : s.graph.position? source = some a.source)
    (htarget : s.graph.position? target = some a.target) (tables : Tables) :
    existingEdge? ⟨tables, { s.graph with arcs := s.graph.arcs ++ [a] }⟩ source target
      a.data.edgeType a.data.properties = some a.data.id := by
  have hlast : Graph.findEdge { s.graph with arcs := s.graph.arcs ++ [a] } a.source a.target
      a.data.edgeType a.data.properties = some s.graph.arcs.length := by
    unfold Graph.findEdge
    rw [Graph.positions_concat, Graph.joins_self, if_pos rfl, List.getLast?_concat]
  have hat : Graph.arc? { s.graph with arcs := s.graph.arcs ++ [a] } s.graph.arcs.length =
      some a := List.getElem?_concat_length
  have hfirst : Graph.position? { s.graph with arcs := s.graph.arcs ++ [a] } source =
      some a.source := hsource
  have hsecond : Graph.position? { s.graph with arcs := s.graph.arcs ++ [a] } target =
      some a.target := htarget
  simp only [existingEdge?, hfirst, hsecond, hlast, hat, bind, Option.bind_some]

/-- After an edge was merged the search for it finds what it was merged into. -/
theorem existingEdge?_of_upsertEdge
    (h : s.upsertEdge .merge source target edgeType properties = (.ok id, s')) :
    s'.existingEdge? source target edgeType properties = some id := by
  unfold upsertEdge at h
  cases hexisting : s.existingEdge? source target edgeType properties with
  | some found =>
    rw [hexisting] at h
    cases h
    exact hexisting
  | none =>
    rw [hexisting] at h
    dsimp only at h
    unfold insertEdge at h
    rcases hsave : s.tables.saveEdge source target edgeType properties with err | ⟨next, tables⟩
    · rw [hsave] at h
      cases h
    · rw [hsave] at h
      dsimp only at h
      unfold Graph.addEdge? at h
      cases hsource : s.graph.position? source with
      | none => rw [hsource] at h; cases h
      | some first =>
        cases htarget : s.graph.position? target with
        | none => rw [hsource, htarget] at h; cases h
        | some last =>
          rw [hsource, htarget] at h
          cases h
          exact existingEdge?_concat (a := ⟨first, last, id, edgeType, properties⟩) hsource
            htarget tables

end Edges

/-! ## Numbers -/

/-- The numbers that were given to vertices are positive numbers of 64 bits. -/
structure Numbered (t : Tables) : Prop where
  last_nonneg : 0 ≤ t.lastVertexId
  last_le : t.lastVertexId ≤ Text.int64Max
  positive : ∀ row ∈ t.vertices, 0 < row.id

theorem Numbered.grows (h : Numbered s.tables) (hgrows : Grows s s') : Numbered s'.tables := by
  obtain ⟨hnonneg, hle, hpositive⟩ := h
  cases hgrows with
  | node n room next =>
    have hid : 0 < n.id := by omega
    refine ⟨?_, ?_, ?_⟩
    · exact Int.le_trans hnonneg (Int.le_max_left _ _)
    · simp only [Tables.putVertex, Node.row]
      omega
    · simp only [Tables.putVertex, List.forall_mem_append, List.forall_mem_singleton]
      exact ⟨hpositive, hid⟩
  | arc d source target room next hsource htarget => exact ⟨hnonneg, hle, hpositive⟩

theorem Numbered.of_reflTransGen (h : Numbered s.tables) (hrun : ReflTransGen Grows s s') :
    Numbered s'.tables := by
  induction hrun with
  | refl => exact h
  | tail _ hstep ih => exact ih.grows hstep

/-- Opening keeps the rows as they are. -/
theorem tables_of_ofTables {t : Tables} (h : ofTables t = .ok s) : s.tables = t := by
  unfold ofTables at h
  cases hload : Graph.load t with
  | error e => rw [hload] at h; cases h
  | ok g => rw [hload] at h; cases h; rfl

theorem Reachable.numbered (h : s.Reachable) : Numbered s.tables := by
  induction h with
  | new opened =>
    rw [tables_of_ofTables opened]
    exact ⟨by decide, by decide, fun _ hrow => (List.not_mem_nil hrow).elim⟩
  | write before w ih => exact ih.of_reflTransGen (write_grows _ w)
  | reopen before opened ih => rwa [tables_of_ofTables opened]

/-- The number of a vertex that the graph knows is read back from its text. -/
theorem storedId?_of_knows (h : s.InStep) (hnumbered : Numbered s.tables) {id : Int}
    (hknows : s.Knows id) : storedId? (Identifier.ofInt id) = some id := by
  obtain ⟨row, hrow, heq⟩ := List.any_eq_true.1 (h.hasVertex hknows)
  have hpositive := hnumbered.positive row hrow
  have hle := h.highest row hrow
  have hlast := hnumbered.last_le
  rw [eq_of_beq heq] at hpositive hle
  have hrange : Text.int64Min ≤ id ∧ id ≤ Text.int64Max := by
    have hmin : Text.int64Min ≤ 0 := by decide
    omega
  have hread := Text.signed64?_toString id
  rwa [if_pos hrange] at hread

/-! ## Endpoints -/

section Endpoints

variable {role : Role} {vertex : Option Vertex} {given : Option Identifier} {endpoint : Endpoint}

/-- An identifier is accepted if it leads to a vertex that the graph knows. -/
theorem storedEndpoint_eq_ok_iff (s : State) (role : Role) (id : Option Identifier)
    (endpoint : Endpoint) :
    let result : Except GraphError Endpoint := match id.bind storedId? with
      | some n =>
        if (s.graph.position? n).isSome then .ok (.stored n) else .error (endpointNotFound role)
      | none => .error (endpointNotFound role)
    result = .ok endpoint ↔
      ∃ i n, id = some i ∧ storedId? i = some n ∧ s.Knows n ∧ endpoint = .stored n := by
  dsimp only
  constructor
  · intro h
    split at h
    next n hn =>
      split at h
      next hknows =>
        obtain ⟨i, rfl, hread⟩ := Option.bind_eq_some_iff.1 hn
        cases h
        exact ⟨i, n, rfl, hread, hknows, rfl⟩
      next => cases h
    next => cases h
  · rintro ⟨i, n, rfl, hread, hknows, rfl⟩
    rw [Option.bind_some, hread]
    exact if_pos hknows

/-- The check of an endpoint accepts a vertex with labels that has no identifier yet, and an
identifier, of the vertex or for want of one by itself, that leads to a stored vertex. -/
theorem checkEndpoint_eq_ok_iff : s.checkEndpoint role vertex given = .ok endpoint ↔
    (∃ v, vertex = some v ∧ v.id = none ∧ v.labels.isEmpty = false ∧ endpoint = .fresh) ∨
      ∃ id n, vertex.elim given Vertex.id = some id ∧ storedId? id = some n ∧ s.Knows n ∧
        endpoint = .stored n := by
  unfold checkEndpoint
  cases vertex with
  | none =>
    refine (s.storedEndpoint_eq_ok_iff role given endpoint).trans ?_
    simp
  | some v =>
    cases hid : v.id with
    | some vid =>
      dsimp only
      rw [hid]
      refine (s.storedEndpoint_eq_ok_iff role (some vid) endpoint).trans ?_
      simp [hid]
    | none =>
      dsimp only
      rw [hid]
      by_cases hlabels : v.labels = []
      · simp [hid, hlabels]
      · simp [hid, hlabels, eq_comm (a := Endpoint.fresh)]

/-- The check of an endpoint comes to the same later on. -/
theorem checkEndpoint_again (hcheck : s.checkEndpoint role vertex given = .ok endpoint)
    (hrun : ReflTransGen Grows s s') : s'.checkEndpoint role vertex given = .ok endpoint := by
  rw [checkEndpoint_eq_ok_iff] at hcheck ⊢
  refine hcheck.imp_right ?_
  rintro ⟨id, n, hid, hread, hknows, rfl⟩
  exact ⟨id, n, hid, hread, hknows.of_reflTransGen hrun, rfl⟩

/-- An endpoint that was settled passes the check as a stored vertex, by the identifier that its
vertex has by now or else by the one that the edge has. -/
theorem checkEndpoint_settled {n : Int}
    (hcheck : s.checkEndpoint role vertex given = .ok endpoint)
    (hsettle : s₁.settle .merge role vertex endpoint = (.ok n, s₂)) (hknows : s'.Knows n)
    (hread : storedId? (Identifier.ofInt n) = some n) :
    s'.checkEndpoint role (settled endpoint n vertex) (some (Identifier.ofInt n)) =
      .ok (.stored n) := by
  rw [checkEndpoint_eq_ok_iff] at hcheck ⊢
  refine Or.inr ?_
  rcases hcheck with ⟨v, rfl, -, -, rfl⟩ | ⟨id, m, hid, hreadId, -, rfl⟩
  · exact ⟨Identifier.ofInt n, n, rfl, hread, hknows, rfl⟩
  · cases hsettle
    cases vertex with
    | none => exact ⟨Identifier.ofInt n, n, rfl, hread, hknows, rfl⟩
    | some v => exact ⟨id, n, hid, hreadId, hknows, rfl⟩

/-- An endpoint that is settled again comes to the same vertex, and nothing is stored. -/
theorem settle_again {n : Int} (hsettle : s.settle .merge role vertex endpoint = (.ok n, s₁))
    (hextends : Extends vertices edges s₁ s₂) :
    s₂.settle .merge role vertex endpoint = (.ok n, s₂) := by
  cases endpoint with
  | stored m =>
    cases hsettle
    rfl
  | fresh =>
    cases vertex with
    | none => cases hsettle
    | some v =>
      have hfound := existingVertex?_of_upsertVertex hsettle
      exact upsertVertex_of_existingVertex? (existingVertex?_extends hextends hfound)

end Endpoints

/-! ## Calls -/

/-- A vertex that was merged is merged again into the same vertex, as it was given and as it was
handed back. -/
theorem storeVertex_merge_again {v stored : Vertex}
    (h : s.storeVertex .merge v = (⟨.ok (), stored⟩, s')) :
    s'.storeVertex .merge v = (⟨.ok (), stored⟩, s') ∧
      s'.storeVertex .merge stored = (⟨.ok (), stored⟩, s') := by
  unfold storeVertex at h
  split at h
  next => cases h
  next hlabels =>
    rcases hupsert : s.upsertVertex .merge v.labels v.properties with ⟨err | id, s₁⟩
    · rw [hupsert] at h
      cases h
    · rw [hupsert] at h
      cases h
      have hagain := upsertVertex_of_existingVertex? (existingVertex?_of_upsertVertex hupsert)
      -- The search is for labels and properties, which the call has left alone.
      have hstored : ∀ w : Vertex, w.labels = v.labels → w.properties = v.properties →
          s'.storeVertex .merge w = (⟨.ok (), w.withId (Identifier.ofInt id)⟩, s') := by
        intro w hw hw'
        unfold storeVertex
        rw [hw, hw', if_neg hlabels, hagain]
      exact ⟨hstored v rfl rfl, hstored (v.withId (Identifier.ofInt id)) rfl rfl⟩

/-- An edge is stored between its endpoints, once these were checked and settled. -/
theorem storeEdge_of_parts {mode : WriteMode} (e : Edge) (source destination : Endpoint)
    {sourceId targetId id : Int} (htype : e.edgeType.isEmpty = false)
    (hsource : s.checkEndpoint .source e.source e.sourceId = .ok source)
    (hdestination : s.checkEndpoint .destination e.destination e.destinationId = .ok destination)
    (hfirst : s.settle mode .source e.source source = (.ok sourceId, s₁))
    (hsecond : s₁.settle mode .destination e.destination destination = (.ok targetId, s₂))
    (hedge : s₂.upsertEdge mode sourceId targetId e.edgeType e.properties = (.ok id, s')) :
    s.storeEdge mode e =
      (⟨.ok (), storedEdge e source destination sourceId targetId id⟩, s') := by
  unfold storeEdge
  rw [if_neg (by simp [htype]), hsource]
  dsimp only
  rw [hdestination]
  dsimp only
  unfold storeChecked
  rw [hfirst]
  dsimp only
  rw [hsecond]
  dsimp only
  rw [hedge]
  rfl

/-- An edge that was merged is merged again into the same edge between the same vertices, as it
was given and as it was handed back. -/
theorem storeEdge_merge_again (h : s.Reachable) {e stored : Edge}
    (hstored : s.storeEdge .merge e = (⟨.ok (), stored⟩, s')) :
    s'.storeEdge .merge e = (⟨.ok (), stored⟩, s') ∧
      s'.storeEdge .merge stored = (⟨.ok (), stored⟩, s') := by
  have hok : (s.storeEdge .merge e).1.outcome = .ok () := by rw [hstored]
  obtain ⟨htype, source, destination, hsource, hdestination, hchecked⟩ := storeEdge_eq_ok hok
  rw [hchecked] at hok
  obtain ⟨sourceId, s₁, targetId, s₂, id, s₃, hfirst, hsecond, hedge, heq⟩ := storeChecked_eq_ok hok
  cases hstored.symm.trans (hchecked.trans heq)
  -- Every search of the first call has its result in the state that the call left.
  have hstep₁ : VertexStep .merge s s₁ := by
    simpa only [hfirst] using settle_step .merge s .source e.source source
  have hstep₂ : VertexStep .merge s₁ s₂ := by
    simpa only [hsecond] using settle_step .merge s₁ .destination e.destination destination
  have hstep₃ : EdgeStep .merge s₂ s' :=
    Or.inr ⟨sourceId, targetId, e.edgeType, e.properties, by rw [hedge]⟩
  have hagain := upsertEdge_of_existingEdge? (existingEdge?_of_upsertEdge hedge)
  have hgrows : ReflTransGen Grows s s' := (hstep₁.grows.trans hstep₂.grows).trans hstep₃.grows
  refine ⟨storeEdge_of_parts e source destination htype (checkEndpoint_again hsource hgrows)
    (checkEndpoint_again hdestination hgrows)
    (settle_again hfirst (hstep₂.extends.trans hstep₃.extends))
    (settle_again hsecond hstep₃.extends) hagain, ?_⟩
  -- The edge that was handed back names its endpoints by numbers that the graph knows.
  have hfound := (found_of_checkEndpoint hdestination).of_reflTransGen hstep₁.grows
  obtain ⟨h₁, hknown⟩ := knows_of_settle h.inStep (found_of_checkEndpoint hsource) hfirst
  obtain ⟨h₂, hknown₂⟩ := knows_of_settle h₁ hfound hsecond
  have h₃ : s'.InStep := h₂.of_reflTransGen hstep₃.grows
  have hnumbered := h.numbered.of_reflTransGen hgrows
  have hknows : s'.Knows sourceId :=
    hknown.of_reflTransGen (hstep₂.grows.trans hstep₃.grows)
  have hknows₂ : s'.Knows targetId := hknown₂.of_reflTransGen hstep₃.grows
  exact storeEdge_of_parts (storedEdge e source destination sourceId targetId id)
    (.stored sourceId) (.stored targetId) htype
    (checkEndpoint_settled hsource hfirst hknows (storedId?_of_knows h₃ hnumbered hknows))
    (checkEndpoint_settled hdestination hsecond hknows₂
      (storedId?_of_knows h₃ hnumbered hknows₂)) rfl rfl hagain

end State

namespace Session

/-- **Merging again changes nothing.**  In a session that merges, in any reachable state: a vertex
that was stored is stored again, as it was given or as it was handed back, with the same
identifier, and an edge that was stored is stored again, as it was given or as it was handed back,
with the same identifiers of its own and of its endpoints.  Rows, graph and index stay as the
first call left them. -/
theorem store_merge_again (s : Session) (h : s.state.Reachable) (hmode : s.writeMode = .merge) :
    (∀ v stored after, connection.storeVertex v s = (⟨.ok (), stored⟩, after) →
      connection.storeVertex v after = (⟨.ok (), stored⟩, after) ∧
      connection.storeVertex stored after = (⟨.ok (), stored⟩, after)) ∧
    ∀ e stored after, connection.storeEdge e s = (⟨.ok (), stored⟩, after) →
      connection.storeEdge e after = (⟨.ok (), stored⟩, after) ∧
      connection.storeEdge stored after = (⟨.ok (), stored⟩, after) := by
  obtain ⟨state, mode⟩ := s
  cases hmode
  refine ⟨fun v stored after hstored => ?_, fun e stored after hstored => ?_⟩
  · rcases hcall : state.storeVertex .merge v with ⟨answer, left⟩
    simp only [connection, hcall, Prod.mk.injEq] at hstored
    obtain ⟨rfl, rfl⟩ := hstored
    obtain ⟨hgiven, hback⟩ := State.storeVertex_merge_again hcall
    exact ⟨by simp only [connection, hgiven], by simp only [connection, hback]⟩
  · rcases hcall : state.storeEdge .merge e with ⟨answer, left⟩
    simp only [connection, hcall, Prod.mk.injEq] at hstored
    obtain ⟨rfl, rfl⟩ := hstored
    obtain ⟨hgiven, hback⟩ := State.storeEdge_merge_again h hcall
    exact ⟨by simp only [connection, hgiven], by simp only [connection, hback]⟩

/-- An edge whose endpoints come with it and are both contained in the first person stored. -/
def selfAcquaintance : Edge where
  edgeType := "KNOWS"
  source := some { labels := ["Person"] }
  destination := some
    { labels := ["Person"], properties := Dict.ofList [("name", .string "Tom")] }

/-- In the sample a person is found to be the second vertex, twice, and the edge is inserted as
the second one, from the first vertex to itself, and found again by both forms of it. -/
theorem store_merge_again_self :
    let s : Session := ⟨State.run {} sampleWrites, .merge⟩
    s.state.Reachable ∧ s.writeMode = .merge ∧ s.edgeCount = 1 ∧
    (∃ stored, connection.storeVertex samplePerson s = (⟨.ok (), stored⟩, s) ∧
      stored.id = some ⟨"2"⟩ ∧ connection.storeVertex stored s = (⟨.ok (), stored⟩, s)) ∧
    ∃ stored after, connection.storeEdge selfAcquaintance s = (⟨.ok (), stored⟩, after) ∧
      stored.id = some ⟨"2"⟩ ∧ stored.sourceId = some ⟨"1"⟩ ∧
      stored.destinationId = some ⟨"1"⟩ ∧ after.vertexCount = 2 ∧ after.edgeCount = 2 ∧
      connection.storeEdge selfAcquaintance after = (⟨.ok (), stored⟩, after) ∧
      connection.storeEdge stored after = (⟨.ok (), stored⟩, after) := by
  intro s
  have hreachable : s.state.Reachable :=
    (State.Reachable.new State.ofTables_empty).run sampleWrites
  have hperson : connection.storeVertex samplePerson s =
      (⟨.ok (), samplePerson.withId (Identifier.ofInt 2)⟩, s) := by rfl
  have hcall : connection.storeEdge selfAcquaintance s =
      (⟨.ok (), (connection.storeEdge selfAcquaintance s).1.element⟩,
        (connection.storeEdge selfAcquaintance s).2) := by rfl
  obtain ⟨hvertex, hedge⟩ := store_merge_again s hreachable rfl
  obtain ⟨-, hperson'⟩ := hvertex _ _ _ hperson
  obtain ⟨hgiven, hback⟩ := hedge _ _ _ hcall
  exact ⟨hreachable, rfl, rfl, ⟨_, hperson, by decide +kernel, hperson'⟩, _, _, hcall,
    by decide +kernel, by decide +kernel, by decide +kernel, rfl, rfl, hgiven, hback⟩

end Session
end PropertyGraph.Embedded
