import PropertyGraph.Proofs.DecimalText
import PropertyGraph.Proofs.ReachableStates

/-!
# Identifiers of stored edges

An identifier travels as text.  The embedded graph reads a number from it, finds the vertex, and
writes the number again when it gives the edge the identifiers of its endpoints.  A vertex that
comes with the edge keeps the text that it came with.  The two agree if the text is the one that
the number is written as (`Identifier.Plain`), as is that of every identifier the graph gave out;
they differ for any other text of the number, such as `+1`.

> Main result (`storeEdge_identifiers`): after an edge was stored its identifiers are those of
> vertices that are stored, and a query for its type finds it under these; each vertex that came
> with it has the same identifier as the edge says exactly if its own is plain.
-/

open Relation (ReflTransGen)

namespace PropertyGraph

/-- An identifier is plain if some number is written as it. -/
def Identifier.Plain (id : Identifier) : Prop := ∃ n : Int, id = Identifier.ofInt n

namespace Embedded

/-- A number that is written as an identifier is the only one that is read from it. -/
theorem eq_of_storedId?_ofInt {m n : Int} (h : storedId? (Identifier.ofInt m) = some n) :
    m = n := by
  have hread : Text.signed64? (toString m) = some n := h
  rw [Text.signed64?_toString] at hread
  split at hread
  next => exact Option.some.inj hread
  next => cases hread

/-- The number that is read from an identifier is written as it exactly if it is plain. -/
theorem eq_ofInt_iff_plain {id : Identifier} {n : Int} (h : storedId? id = some n) :
    id = Identifier.ofInt n ↔ id.Plain := by
  constructor
  · exact fun heq => ⟨n, heq⟩
  · rintro ⟨m, rfl⟩
    rw [eq_of_storedId?_ofInt h]

/-- A vertex that comes with an edge has a plain identifier, or none. -/
def PlainEnd (vertex : Option Vertex) : Prop :=
  ∀ v id, vertex = some v → v.id = some id → id.Plain

namespace State

variable {s s' : State}

/-! ## Endpoints -/

/-- A vertex that was found among the stored ones has an identifier of the number that it was
found under. -/
theorem storedId?_of_checkEndpoint {role : Role} {v : Vertex} {id : Option Identifier} {n : Int}
    (h : s.checkEndpoint role (some v) id = .ok (.stored n)) :
    ∃ vid, v.id = some vid ∧ storedId? vid = some n := by
  unfold checkEndpoint at h
  dsimp only at h
  cases hid : v.id with
  | none =>
    rw [hid] at h
    dsimp only at h
    split at h <;> cases h
  | some vid =>
    rw [hid] at h
    dsimp only [Option.bind_some] at h
    cases hread : storedId? vid with
    | none => rw [hread] at h; cases h
    | some m =>
      rw [hread] at h
      dsimp only at h
      split at h
      next => cases h; exact ⟨vid, rfl, hread⟩
      next => cases h

/-- What the check of an endpoint accepted was found. -/
theorem found_of_checkEndpoint {role : Role} {vertex : Option Vertex} {id : Option Identifier}
    {endpoint : Endpoint} (h : s.checkEndpoint role vertex id = .ok endpoint) :
    s.Found vertex endpoint := by
  rcases checkEndpoint_cases s role vertex id with ⟨err, herr, -⟩ | ⟨endpoint', hok, hfound⟩
  · cases h.symm.trans herr
  · cases h.symm.trans hok
    exact hfound

/-- An endpoint that was settled is a vertex that the graph knows. -/
theorem knows_of_settle (h : s.InStep) {mode : WriteMode} {role : Role} {vertex : Option Vertex}
    {endpoint : Endpoint} {n : Int} (hfound : s.Found vertex endpoint)
    (hsettle : s.settle mode role vertex endpoint = (.ok n, s')) : s'.InStep ∧ s'.Knows n := by
  rcases settle_cases h mode role hfound with hfull | ⟨m, s₁, heq, hstep, hknows⟩
  · cases hsettle.symm.trans hfull
  · cases hsettle.symm.trans heq
    exact ⟨hstep, hknows⟩

/-- After an endpoint was settled its vertex has the identifier that the edge takes over,
exactly if it came with none or with a plain one. -/
theorem settled_id_iff {s₀ : State} {mode : WriteMode} {role : Role} {vertex : Option Vertex}
    {id : Option Identifier} {endpoint : Endpoint} {n : Int}
    (hcheck : s₀.checkEndpoint role vertex id = .ok endpoint)
    (hsettle : s.settle mode role vertex endpoint = (.ok n, s')) :
    (∀ v, settled endpoint n vertex = some v → v.id = some (Identifier.ofInt n)) ↔
      PlainEnd vertex := by
  cases endpoint with
  | stored m =>
    cases hsettle
    cases vertex with
    | none => exact ⟨fun _ _ _ hv => (nomatch hv), fun _ _ hv => (nomatch hv)⟩
    | some v =>
      obtain ⟨vid, hvid, hread⟩ := storedId?_of_checkEndpoint hcheck
      have hplain := eq_ofInt_iff_plain hread
      unfold settled PlainEnd
      constructor
      · intro hends w wid hw hwid
        cases hw
        cases hvid.symm.trans hwid
        exact hplain.1 (Option.some.inj (hvid.symm.trans (hends v rfl)))
      · intro hend w hw
        cases hw
        rw [hvid, hplain.2 (hend v vid rfl hvid)]
  | fresh =>
    cases found_of_checkEndpoint hcheck with
    | fresh v here unnamed labelled =>
      subst here
      unfold settled PlainEnd
      constructor
      · intro _ w wid hw hwid
        cases hw
        cases unnamed.symm.trans hwid
      · intro _ w hw
        cases hw
        rfl

/-! ## Edges -/

/-- The edge that a call hands back: with the vertices it came with, settled, and the numbers of
both of them and of itself. -/
def storedEdge (e : Edge) (source destination : Endpoint) (sourceId targetId id : Int) : Edge :=
  { e with
    source := settled source sourceId e.source
    destination := settled destination targetId e.destination
    id := some (Identifier.ofInt id)
    sourceId := some (Identifier.ofInt sourceId)
    destinationId := some (Identifier.ofInt targetId) }

/-- What storing an edge did once its endpoints were checked, if it succeeded: they were settled
one after the other, and the edge was stored between them. -/
theorem storeChecked_eq_ok {mode : WriteMode} {e : Edge} {source destination : Endpoint}
    (hok : (s.storeChecked mode e source destination).1.outcome = .ok ()) :
    ∃ sourceId s₁ targetId s₂ id s₃,
      s.settle mode .source e.source source = (.ok sourceId, s₁) ∧
      s₁.settle mode .destination e.destination destination = (.ok targetId, s₂) ∧
      s₂.upsertEdge mode sourceId targetId e.edgeType e.properties = (.ok id, s₃) ∧
      s.storeChecked mode e source destination =
        (⟨.ok (), storedEdge e source destination sourceId targetId id⟩, s₃) := by
  unfold storeChecked at hok ⊢
  rcases hfirst : s.settle mode .source e.source source with ⟨err | sourceId, s₁⟩
  · rw [hfirst] at hok
    cases hok
  rw [hfirst] at hok
  dsimp only at hok ⊢
  rcases hsecond : s₁.settle mode .destination e.destination destination with
    ⟨err | targetId, s₂⟩
  · rw [hsecond] at hok
    cases hok
  rw [hsecond] at hok
  dsimp only at hok ⊢
  rcases hedge : s₂.upsertEdge mode sourceId targetId e.edgeType e.properties with ⟨err | id, s₃⟩
  · rw [hedge] at hok
    cases hok
  exact ⟨sourceId, s₁, targetId, s₂, id, s₃, rfl, hsecond, hedge, rfl⟩

/-- What storing an edge did if it succeeded: both endpoints were found, and then it was stored. -/
theorem storeEdge_eq_ok {mode : WriteMode} {e : Edge}
    (hok : (s.storeEdge mode e).1.outcome = .ok ()) :
    e.edgeType.isEmpty = false ∧ ∃ source destination,
      s.checkEndpoint .source e.source e.sourceId = .ok source ∧
      s.checkEndpoint .destination e.destination e.destinationId = .ok destination ∧
      s.storeEdge mode e = s.storeChecked mode e source destination := by
  unfold storeEdge at hok ⊢
  split at hok
  next => cases hok
  next htype =>
    refine ⟨Bool.eq_false_iff.2 htype, ?_⟩
    rw [if_neg htype]
    cases hsource : s.checkEndpoint .source e.source e.sourceId with
    | error err => rw [hsource] at hok; cases hok
    | ok source =>
      cases hdestination : s.checkEndpoint .destination e.destination e.destinationId with
      | error err => rw [hsource, hdestination] at hok; cases hok
      | ok destination => exact ⟨source, destination, rfl, rfl, rfl⟩

/-- A query for the type of an arc finds it, with the numbers of the nodes it joins. -/
theorem exists_queryEdge (h : s.InStep) {a : Arc} (ha : a ∈ s.graph.arcs)
    (htype : a.data.edgeType.isEmpty = false) {source target : Int}
    (hsource : s.graph.position? source = some a.source)
    (htarget : s.graph.position? target = some a.target) (mode : FetchMode) :
    ∃ edges, s.queryEdge { label := a.data.edgeType, fetchMode := mode } = .ok edges ∧
      ∃ found ∈ edges, found.id = some (Identifier.ofInt a.data.id) ∧
        found.sourceId = some (Identifier.ofInt source) ∧
        found.destinationId = some (Identifier.ofInt target) := by
  obtain ⟨n, hn, rfl⟩ := h.exists_of_position? hsource
  obtain ⟨m, hm, rfl⟩ := h.exists_of_position? htarget
  refine ⟨_, queryEdge_eq s htype, Graph.toEdge a.data n m mode, ?_, ?_⟩
  · have hfits : s.graph.arcFits { label := a.data.edgeType, fetchMode := mode } a = true := by
      have hnone : ∀ properties : PropertyMap, satisfies properties ∅ = true := fun _ => rfl
      simp [Graph.arcFits, Graph.dataFits, Graph.orientedFits, Graph.nodeFits, hn, hm, Node.fits,
        Node.hasLabels, hnone]
    refine List.mem_filterMap.2 ⟨a, List.mem_filter.2 ⟨ha, hfits⟩, ?_⟩
    simp only [Graph.edgeOf?, hn, hm, bind, Option.bind_some]
  · cases mode with
    | vertexIds => exact ⟨rfl, rfl, rfl⟩
    | completeVertex => exact ⟨rfl, rfl, rfl⟩

/-- **Identifiers of a stored edge.**  When storing an edge succeeds, the identifiers of its
endpoints are those of two vertices that are stored, and a query for its type finds it under its
identifier between these two.  A vertex that came with the edge has the identifier that the edge
gives for it exactly if it came with none or with a plain one. -/
theorem storeEdge_identifiers (h : s.Reachable) (mode : WriteMode) (e : Edge)
    (hok : (s.storeEdge mode e).1.outcome = .ok ()) :
    ∃ stored after, s.storeEdge mode e = (⟨.ok (), stored⟩, after) ∧
      (∃ n ∈ after.graph.nodes, stored.sourceId = n.toVertex.id) ∧
      (∃ n ∈ after.graph.nodes, stored.destinationId = n.toVertex.id) ∧
      (∀ fetchMode, ∃ edges,
        after.queryEdge { label := e.edgeType, fetchMode := fetchMode } = .ok edges ∧
        ∃ found ∈ edges, found.id = stored.id ∧ found.sourceId = stored.sourceId ∧
          found.destinationId = stored.destinationId) ∧
      ((∀ v, stored.source = some v → v.id = stored.sourceId) ↔ PlainEnd e.source) ∧
      ((∀ v, stored.destination = some v → v.id = stored.destinationId) ↔
        PlainEnd e.destination) := by
  obtain ⟨htype, source, destination, hsource, hdestination, heq⟩ := storeEdge_eq_ok hok
  rw [heq] at hok
  obtain ⟨sourceId, s₁, targetId, s₂, id, s₃, hfirst, hsecond, hedge, heq'⟩ :=
    storeChecked_eq_ok hok
  -- The destination was looked up before the source was stored, and is still there afterwards.
  have hfound := found_of_checkEndpoint hdestination
  have hgrows₁ : ReflTransGen Grows s s₁ := by
    simpa only [hfirst] using settle_grows mode s .source e.source source
  have hgrows₂ : ReflTransGen Grows s₁ s₂ := by
    simpa only [hsecond] using settle_grows mode s₁ .destination e.destination destination
  have hgrows₃ : ReflTransGen Grows s₂ s₃ := by
    simpa only [hedge] using upsertEdge_grows mode s₂ sourceId targetId e.edgeType e.properties
  obtain ⟨h₁, hknown⟩ := knows_of_settle h.inStep (found_of_checkEndpoint hsource) hfirst
  obtain ⟨h₂, hknown₂⟩ := knows_of_settle h₁ (hfound.of_reflTransGen hgrows₁) hsecond
  have h₃ : s₃.InStep := h₂.of_reflTransGen hgrows₃
  have houtcome := upsertEdge_outcome h₂ (hknown.of_reflTransGen hgrows₂) hknown₂ e.edgeType
    e.properties mode
  rw [hedge] at houtcome
  obtain ⟨a, ha, rfl, hatype, hfirstAt, hlastAt⟩ := houtcome.exists_arc
  rw [← hatype] at htype
  have hnode : ∀ {n : Int} {i : Nat}, s₃.graph.position? n = some i →
      ∃ node ∈ s₃.graph.nodes, some (Identifier.ofInt n) = node.toVertex.id := by
    intro n i hi
    obtain ⟨node, hat, rfl⟩ := h₃.exists_of_position? hi
    exact ⟨node, List.mem_of_getElem? hat, rfl⟩
  refine ⟨_, s₃, heq.trans heq', hnode hfirstAt, hnode hlastAt, fun fetchMode => ?_,
    settled_id_iff hsource hfirst, settled_id_iff hdestination hsecond⟩
  rw [← hatype]
  exact exists_queryEdge h₃ ha htype hfirstAt hlastAt fetchMode

/-- The vertices of the sample, one by its number with a sign and one by its plain number. -/
def signedEdge : Edge where
  edgeType := "KNOWS"
  source := some { id := some ⟨"+1"⟩, labels := ["Person"] }
  destination := some { id := some ⟨"2"⟩, labels := ["Person"] }

/-- The destination has the identifier that the edge gives for it. -/
theorem storeEdge_identifiers_signed : ∃ s : State, s.Reachable ∧
    (s.storeEdge .create signedEdge).1.outcome = .ok () ∧ PlainEnd signedEdge.destination ∧
    ∃ stored after, s.storeEdge .create signedEdge = (⟨.ok (), stored⟩, after) ∧
      (∀ v, stored.destination = some v → v.id = stored.destinationId) ∧
      ∃ edges, after.queryEdge { label := "KNOWS" } = .ok edges ∧
        ∃ found ∈ edges, found.id = stored.id ∧ found.sourceId = stored.sourceId ∧
          found.destinationId = stored.destinationId := by
  have hreachable : (run {} Session.sampleWrites).Reachable :=
    (Reachable.new ofTables_empty).run Session.sampleWrites
  have hok : ((run {} Session.sampleWrites).storeEdge .create signedEdge).1.outcome = .ok () := by
    rfl
  have hplain : PlainEnd signedEdge.destination := by
    intro v id hv hid
    cases hv
    cases hid
    exact ⟨2, by decide⟩
  obtain ⟨stored, after, heq, -, -, hquery, -, hdestination⟩ :=
    storeEdge_identifiers hreachable .create signedEdge hok
  exact ⟨_, hreachable, hok, hplain, stored, after, heq, hdestination.2 hplain, hquery .vertexIds⟩

/-- The source keeps the text that it came with, and the edge gives another. -/
theorem storeEdge_identifiers_differ :
    let s := run {} Session.sampleWrites
    s.Reachable ∧ (s.storeEdge .create signedEdge).1.outcome = .ok () ∧
      (s.storeEdge .create signedEdge).1.element.source.bind Vertex.id = some ⟨"+1"⟩ ∧
      (s.storeEdge .create signedEdge).1.element.sourceId = some ⟨"1"⟩ :=
  ⟨(Reachable.new ofTables_empty).run Session.sampleWrites, rfl, rfl, by decide +kernel⟩

end State
end Embedded
end PropertyGraph
