import PropertyGraph.Proofs.EmbeddedSync
import PropertyGraph.Proofs.GraphSearch

/-!
# What a call comes to

`EmbeddedGrowth.lean` says how a call may change the state; this file says which answer goes
with which change.  Storing a vertex reuses a node or inserts one (`VertexOutcome`), storing an
edge between two known vertices reuses an arc or inserts one (`EdgeOutcome`), and neither fails
unless all numbers are used up (`diskFull`).

The checks of the endpoints come before the first write, and what they found stays true
through it (`Knows.of_reflTransGen`).  So a whole call has three ways to end:

> `storeEdge_cases`: it is refused, with everything as it was; or the numbers are used up; or
> it succeeds.

This rests on rows and graph being in step: there the rows never refuse an edge for want of an
endpoint, and the graph knows every endpoint that the rows accept.
-/

open Relation (ReflTransGen)

namespace PropertyGraph.Embedded

/-- Properties satisfy themselves. -/
theorem satisfies_self (properties : PropertyMap) : satisfies properties properties = true :=
  (satisfies_iff properties properties).2 fun _ value hvalue => ⟨value, hvalue, BEq.rfl⟩

/-- All numbers of a table are used up. -/
def diskFull : GraphError := storageError "database or disk is full"

/-- A search for positions finds those of the elements that pass its test. -/
theorem Graph.mem_positions_iff {α : Type} {p : α → Bool} {xs : List α} {i : Nat} :
    i ∈ positions p xs ↔ ∃ x, xs[i]? = some x ∧ p x = true := by
  constructor
  · intro h
    obtain ⟨⟨x, j⟩, hx, rfl⟩ := List.mem_map.1 h
    obtain ⟨hmem, hp⟩ := List.mem_filter.1 hx
    exact ⟨x, List.mem_zipIdx_iff_getElem?.1 hmem, hp⟩
  · rintro ⟨x, hx, hp⟩
    exact List.mem_map.2 ⟨(x, i), List.mem_filter.2 ⟨List.mem_zipIdx_iff_getElem?.2 hx, hp⟩, rfl⟩

/-- A node has its own labels and properties. -/
theorem Node.fits_self (n : Node) : n.fits n.labels [n.properties] = true := by
  simp [Node.fits, Node.hasLabels, satisfies_self]

namespace State

variable {s s' : State}

/-! ## Vertices -/

/-- What storing a vertex comes to. -/
inductive VertexOutcome (s : State) (labels : List String) (properties : PropertyMap) :
    Reply State Int → Prop
  | full : VertexOutcome s labels properties (.error diskFull, s)
  | reused (n : Node) (stored : n ∈ s.graph.nodes) (fits : n.fits labels [properties] = true) :
      VertexOutcome s labels properties (.ok n.id, s)
  | inserted (id : Int) :
      VertexOutcome s labels properties
        (.ok id, ⟨s.tables.putVertex (Node.row ⟨id, labels, properties⟩),
          s.graph.addNode ⟨id, labels, properties⟩⟩)

theorem insertVertex_outcome (s : State) (labels : List String) (properties : PropertyMap) :
    VertexOutcome s labels properties (s.insertVertex labels properties) := by
  rw [insertVertex_eq]
  by_cases hfull : Text.int64Max ≤ s.tables.lastVertexId
  · rw [if_pos hfull]
    exact .full
  · rw [if_neg hfull]
    exact .inserted _

theorem upsertVertex_outcome (mode : WriteMode) (s : State) (labels : List String)
    (properties : PropertyMap) :
    VertexOutcome s labels properties (s.upsertVertex mode labels properties) := by
  cases mode with
  | create => exact insertVertex_outcome s labels properties
  | merge =>
    unfold upsertVertex
    dsimp only
    rw [existingVertex?_eq]
    cases hfind : s.graph.nodes.find? fun n => n.fits labels [properties] with
    | none => exact insertVertex_outcome s labels properties
    | some n =>
      have hfits := List.find?_some hfind
      exact .reused n (List.mem_of_find?_eq_some hfind) hfits

/-- A vertex that was stored is there, with everything it was stored with. -/
theorem VertexOutcome.exists_node {labels : List String} {properties : PropertyMap}
    {id : Int} (h : VertexOutcome s labels properties (.ok id, s')) :
    ∃ n ∈ s'.graph.nodes, n.id = id ∧ n.fits labels [properties] = true := by
  cases h with
  | reused n stored fits => exact ⟨n, stored, rfl, fits⟩
  | inserted id =>
    refine ⟨⟨id, labels, properties⟩, ?_, rfl, Node.fits_self _⟩
    exact List.mem_append_right _ (List.mem_singleton.2 rfl)

/-- Storing a vertex is refused or finds the numbers used up, with everything as it was, or
succeeds. -/
theorem storeVertex_cases (mode : WriteMode) (s : State) (v : Vertex) :
    (∃ err, s.storeVertex mode v = (⟨.error err, v⟩, s)) ∨
      (s.storeVertex mode v).1.outcome = .ok () := by
  unfold storeVertex
  by_cases hlabels : v.labels.isEmpty = true
  · rw [if_pos hlabels]
    exact Or.inl ⟨_, rfl⟩
  · rw [if_neg hlabels]
    have houtcome := upsertVertex_outcome mode s v.labels v.properties
    generalize s.upsertVertex mode v.labels v.properties = reply at houtcome
    cases houtcome with
    | full => exact Or.inl ⟨_, rfl⟩
    | reused n stored fits => exact Or.inr rfl
    | inserted id => exact Or.inr rfl

/-! ## What stays -/

/-- Nodes keep their positions. -/
theorem node?_of_reflTransGen {i : Nat} {n : Node} (hn : s.graph.node? i = some n)
    (hrun : ReflTransGen Grows s s') : s'.graph.node? i = some n := by
  induction hrun with
  | refl => exact hn
  | tail _ hstep ih =>
    cases hstep with
    | node m room next =>
      obtain ⟨hlt, -⟩ := List.getElem?_eq_some_iff.1 ih
      exact (List.getElem?_append_left hlt).trans ih
    | arc d source target room next hsource htarget =>
      unfold Graph.addEdge?
      split
      next => exact ih
      next => exact ih

/-- No node is lost. -/
theorem mem_nodes_of_reflTransGen {n : Node} (hn : n ∈ s.graph.nodes)
    (hrun : ReflTransGen Grows s s') : n ∈ s'.graph.nodes := by
  obtain ⟨i, hi⟩ := List.getElem?_of_mem hn
  have hkept : s'.graph.node? i = some n := node?_of_reflTransGen hi hrun
  exact List.mem_of_getElem? hkept

/-- No arc is lost. -/
theorem mem_arcs_of_reflTransGen {a : Arc} (ha : a ∈ s.graph.arcs)
    (hrun : ReflTransGen Grows s s') : a ∈ s'.graph.arcs := by
  induction hrun with
  | refl => exact ha
  | tail _ hstep ih =>
    cases hstep with
    | node m room next => exact ih
    | arc d source target room next hsource htarget =>
      unfold Graph.addEdge?
      split
      next => exact List.mem_append_left _ ih
      next => exact ih

/-! ## Known numbers -/

/-- The graph has one node with a number, at the position that the index knows. -/
theorem InStep.node?_of_position? (h : s.InStep) {n : Node} (hn : n ∈ s.graph.nodes) {i : Nat}
    (hi : s.graph.position? n.id = some i) : s.graph.node? i = some n := by
  obtain ⟨m, hm, hid⟩ := h.exists_of_position? hi
  have hascending : (s.graph.nodes.map Node.id).Pairwise (· < ·) := h.rows ▸ h.ascending
  have hnodup : (s.graph.nodes.map Node.id).Nodup := hascending.imp Int.ne_of_lt
  rw [hm, List.inj_on_of_nodup_map hnodup (List.mem_of_getElem? hm) hn hid]

/-- The graph knows the vertex with a number. -/
def Knows (s : State) (id : Int) : Prop := (s.graph.position? id).isSome = true

/-- A vertex that the graph knows is stored. -/
theorem InStep.hasVertex (h : s.InStep) {id : Int} (hid : s.Knows id) :
    s.tables.hasVertex id = true := by
  obtain ⟨i, hi⟩ := Option.isSome_iff_exists.1 hid
  obtain ⟨n, hn, hnid⟩ := h.exists_of_position? hi
  have hmem : n.id ∈ s.tables.vertices.map VertexRow.id :=
    h.rows ▸ List.mem_map_of_mem (List.mem_of_getElem? hn)
  obtain ⟨row, hrow, hrid⟩ := List.mem_map.1 hmem
  exact List.any_eq_true.2 ⟨row, hrow, beq_iff_eq.2 (hrid.trans hnid)⟩

/-- The graph knows the number of each of its nodes. -/
theorem InStep.knows_of_mem (h : s.InStep) {n : Node} (hn : n ∈ s.graph.nodes) :
    s.Knows n.id := by
  unfold Knows
  rw [h.position?_eq]
  exact Graph.isSome_position?_ofNodes hn

/-- What the graph knows it knows after an insertion. -/
theorem Knows.grows {id : Int} (hid : s.Knows id) (hgrows : Grows s s') : s'.Knows id := by
  unfold Knows at hid ⊢
  cases hgrows with
  | node n room next =>
    rw [Graph.position?_addNode]
    split
    next => rfl
    next => exact hid
  | arc d source target room next hsource htarget =>
    unfold Graph.addEdge?
    split
    next => exact hid
    next => exact hid

/-- What the graph knows it knows ever after. -/
theorem Knows.of_reflTransGen {id : Int} (hid : s.Knows id) (hrun : ReflTransGen Grows s s') :
    s'.Knows id := by
  induction hrun with
  | refl => exact hid
  | tail _ hstep ih => exact ih.grows hstep

/-! ## Edges -/

/-- What storing an edge between two known vertices comes to. -/
inductive EdgeOutcome (s : State) (source target : Int) (edgeType : String)
    (properties : PropertyMap) : Reply State Int → Prop
  | full : EdgeOutcome s source target edgeType properties (.error diskFull, s)
  | reused (a : Arc) (stored : a ∈ s.graph.arcs)
      (hsource : s.graph.position? source = some a.source)
      (htarget : s.graph.position? target = some a.target)
      (htype : a.data.edgeType = edgeType)
      (hproperties : satisfies a.data.properties properties = true) :
      EdgeOutcome s source target edgeType properties (.ok a.data.id, s)
  | inserted (first last : Nat) (id : Int)
      (hsource : s.graph.position? source = some first)
      (htarget : s.graph.position? target = some last) :
      EdgeOutcome s source target edgeType properties
        (.ok id, ⟨s.tables.putEdge (EdgeData.row ⟨id, edgeType, properties⟩ source target),
          { s.graph with arcs := s.graph.arcs ++ [⟨first, last, ⟨id, edgeType, properties⟩⟩] }⟩)

/-- An edge that was stored is there, between the positions of its endpoints. -/
theorem EdgeOutcome.exists_arc {source target id : Int} {edgeType : String}
    {properties : PropertyMap} (h : EdgeOutcome s source target edgeType properties (.ok id, s')) :
    ∃ a ∈ s'.graph.arcs, a.data.id = id ∧ a.data.edgeType = edgeType ∧
      s'.graph.position? source = some a.source ∧ s'.graph.position? target = some a.target := by
  cases h with
  | reused a stored hsource htarget htype hproperties =>
    exact ⟨a, stored, rfl, htype, hsource, htarget⟩
  | inserted first last id hsource htarget =>
    refine ⟨⟨first, last, ⟨id, edgeType, properties⟩⟩, ?_, rfl, rfl, hsource, htarget⟩
    exact List.mem_append_right _ (List.mem_singleton.2 rfl)

section Edges

variable {source target : Int} (h : s.InStep) (hsource : s.Knows source)
  (htarget : s.Knows target) (edgeType : String) (properties : PropertyMap)

include h hsource htarget

theorem insertEdge_outcome : EdgeOutcome s source target edgeType properties
    (s.insertEdge source target edgeType properties) := by
  rw [insertEdge_eq]
  by_cases hfull : Text.int64Max ≤ s.tables.lastEdgeId
  · rw [if_pos hfull]
    exact .full
  · have hrows : (s.tables.hasVertex source && s.tables.hasVertex target) = true :=
      Bool.and_eq_true_iff.2 ⟨h.hasVertex hsource, h.hasVertex htarget⟩
    obtain ⟨first, hfirst⟩ := Option.isSome_iff_exists.1 hsource
    obtain ⟨last, hlast⟩ := Option.isSome_iff_exists.1 htarget
    rw [if_neg hfull, if_pos hrows]
    simp only [Graph.addEdge?, hfirst, hlast, Option.getD_some]
    exact .inserted first last _ hfirst hlast

theorem upsertEdge_outcome (mode : WriteMode) : EdgeOutcome s source target edgeType properties
    (s.upsertEdge mode source target edgeType properties) := by
  cases mode with
  | create => exact insertEdge_outcome h hsource htarget edgeType properties
  | merge =>
    unfold upsertEdge
    dsimp only
    cases hexisting : s.existingEdge? source target edgeType properties with
    | none => exact insertEdge_outcome h hsource htarget edgeType properties
    | some id =>
      simp only [existingEdge?, bind, Option.bind_eq_some_iff] at hexisting
      obtain ⟨first, hfirst, last, hlast, i, hi, a, ha, hid⟩ := hexisting
      obtain ⟨a', ha', hjoins⟩ := Graph.mem_positions_iff.1 (List.mem_of_getLast? hi)
      cases (Option.some.inj (ha.symm.trans ha'))
      simp only [Graph.joins, Bool.and_eq_true, beq_iff_eq] at hjoins
      obtain ⟨⟨⟨hs, ht⟩, htype⟩, hsatisfies⟩ := hjoins
      cases hid
      exact .reused a (List.mem_of_getElem? ha) (hs ▸ hfirst) (ht ▸ hlast) htype hsatisfies

end Edges

/-! ## Endpoints -/

/-- What the check of an endpoint found: a vertex that the graph knows, or one with labels and
without an identifier. -/
inductive Found (s : State) (vertex : Option Vertex) : Endpoint → Prop
  | stored (id : Int) (known : s.Knows id) : Found s vertex (.stored id)
  | fresh (v : Vertex) (here : vertex = some v) (unnamed : v.id = none)
      (labelled : v.labels.isEmpty = false) : Found s vertex .fresh

/-- An identifier leads to a vertex that is stored, or the endpoint is not found. -/
theorem storedEndpoint_cases (s : State) (role : Role) (vertex : Option Vertex)
    (id : Option Identifier) :
    let result : Except GraphError Endpoint := match id.bind storedId? with
      | some n =>
        if (s.graph.position? n).isSome then .ok (.stored n) else .error (endpointNotFound role)
      | none => .error (endpointNotFound role)
    (∃ err, result = .error err ∧ err.isValidation = true) ∨
      ∃ endpoint, result = .ok endpoint ∧ s.Found vertex endpoint := by
  cases id.bind storedId? with
  | none => exact Or.inl ⟨_, rfl, rfl⟩
  | some n =>
    by_cases hn : (s.graph.position? n).isSome = true
    · exact Or.inr ⟨_, if_pos hn, .stored n hn⟩
    · exact Or.inl ⟨_, if_neg hn, rfl⟩

/-- An endpoint is refused, or found. -/
theorem checkEndpoint_cases (s : State) (role : Role) (vertex : Option Vertex)
    (id : Option Identifier) :
    (∃ err, s.checkEndpoint role vertex id = .error err ∧ err.isValidation = true) ∨
      ∃ endpoint, s.checkEndpoint role vertex id = .ok endpoint ∧ s.Found vertex endpoint := by
  unfold checkEndpoint
  cases vertex with
  | none => exact s.storedEndpoint_cases role none id
  | some v =>
    cases hid : v.id with
    | some vid =>
      dsimp only
      rw [hid]
      exact s.storedEndpoint_cases role (some v) (some vid)
    | none =>
      dsimp only
      rw [hid]
      by_cases hlabels : v.labels.isEmpty = true
      · exact Or.inl ⟨_, if_pos hlabels, rfl⟩
      · exact Or.inr ⟨_, if_neg hlabels, .fresh v rfl hid (Bool.not_eq_true _ ▸ hlabels)⟩

/-- What was found stays found. -/
theorem Found.of_reflTransGen {vertex : Option Vertex} {endpoint : Endpoint}
    (hfound : s.Found vertex endpoint) (hrun : ReflTransGen Grows s s') :
    s'.Found vertex endpoint := by
  cases hfound with
  | stored id known => exact .stored id (known.of_reflTransGen hrun)
  | fresh v here unnamed labelled => exact .fresh v here unnamed labelled

/-- An endpoint that was found comes to a vertex that the graph knows. -/
theorem settle_cases (h : s.InStep) (mode : WriteMode) (role : Role) {vertex : Option Vertex}
    {endpoint : Endpoint} (hfound : s.Found vertex endpoint) :
    s.settle mode role vertex endpoint = (.error diskFull, s) ∨
      ∃ id s', s.settle mode role vertex endpoint = (.ok id, s') ∧ s'.InStep ∧ s'.Knows id := by
  have hgrows := settle_grows mode s role vertex endpoint
  cases hfound with
  | stored id known => exact Or.inr ⟨id, s, rfl, h, known⟩
  | fresh v here unnamed labelled =>
    subst here
    have houtcome := upsertVertex_outcome mode s v.labels v.properties
    unfold settle at hgrows ⊢
    dsimp only at hgrows ⊢
    generalize s.upsertVertex mode v.labels v.properties = reply at houtcome hgrows ⊢
    obtain ⟨result, s'⟩ := reply
    cases result with
    | error err => cases houtcome; exact Or.inl rfl
    | ok id =>
      have hstep := h.of_reflTransGen hgrows
      obtain ⟨n, hn, hid, -⟩ := houtcome.exists_node
      exact Or.inr ⟨id, s', rfl, hstep, hid ▸ hstep.knows_of_mem hn⟩

/-! ## Whole calls -/

/-- An edge whose endpoints are labelled and have no identifier yet passes its checks. -/
theorem storeEdge_fresh (s : State) (mode : WriteMode) {e : Edge} {v w : Vertex}
    (htype : e.edgeType.isEmpty = false) (hsource : e.source = some v) (hv : v.id = none)
    (hvlabels : v.labels.isEmpty = false) (hdestination : e.destination = some w)
    (hw : w.id = none) (hwlabels : w.labels.isEmpty = false) :
    s.storeEdge mode e = s.storeChecked mode e .fresh .fresh := by
  simp only [storeEdge, checkEndpoint, htype, hsource, hv, hvlabels, hdestination, hw, hwlabels,
    Bool.false_eq_true, if_false]

/-- Once both endpoints are found, only the numbers can be wanting. -/
theorem storeChecked_cases (h : s.InStep) (mode : WriteMode) (e : Edge)
    {source destination : Endpoint} (hsource : s.Found e.source source)
    (hdestination : s.Found e.destination destination) :
    (s.storeChecked mode e source destination).1.outcome = .error diskFull ∨
      (s.storeChecked mode e source destination).1.outcome = .ok () := by
  have hgrows := settle_grows mode s .source e.source source
  unfold storeChecked
  rcases settle_cases h mode .source hsource with hfull | ⟨sourceId, s₁, heq, h₁, hknown⟩
  · rw [hfull]
    exact Or.inl rfl
  · rw [heq] at hgrows ⊢
    have hgrows₁ := settle_grows mode s₁ .destination e.destination destination
    rcases settle_cases h₁ mode .destination (hdestination.of_reflTransGen hgrows) with
      hfull | ⟨targetId, s₂, heq₂, h₂, hknown₂⟩
    · dsimp only
      rw [hfull]
      exact Or.inl rfl
    · rw [heq₂] at hgrows₁
      have houtcome := upsertEdge_outcome h₂ (hknown.of_reflTransGen hgrows₁) hknown₂ e.edgeType
        e.properties mode
      dsimp only
      rw [heq₂]
      dsimp only
      generalize s₂.upsertEdge mode sourceId targetId e.edgeType e.properties = reply at houtcome
      cases houtcome with
      | full => exact Or.inl rfl
      | reused => exact Or.inr rfl
      | inserted => exact Or.inr rfl

/-- Storing an edge is refused with everything as it was, or finds the numbers used up, or
succeeds. -/
theorem storeEdge_cases (h : s.InStep) (mode : WriteMode) (e : Edge) :
    (∃ err, s.storeEdge mode e = (⟨.error err, e⟩, s) ∧ err.isValidation = true) ∨
      (s.storeEdge mode e).1.outcome = .error diskFull ∨
      (s.storeEdge mode e).1.outcome = .ok () := by
  unfold storeEdge
  by_cases htype : e.edgeType.isEmpty = true
  · rw [if_pos htype]
    exact Or.inl ⟨_, rfl, rfl⟩
  · rw [if_neg htype]
    rcases checkEndpoint_cases s .source e.source e.sourceId with
      ⟨err, herr, hvalidation⟩ | ⟨source, hsource, hfound⟩
    · rw [herr]
      exact Or.inl ⟨err, rfl, hvalidation⟩
    · rw [hsource]
      dsimp only
      rcases checkEndpoint_cases s .destination e.destination e.destinationId with
        ⟨err, herr, hvalidation⟩ | ⟨destination, hdestination, hfound'⟩
      · rw [herr]
        exact Or.inl ⟨err, rfl, hvalidation⟩
      · rw [hdestination]
        exact Or.inr (storeChecked_cases h mode e hfound hfound')

end State
end PropertyGraph.Embedded
