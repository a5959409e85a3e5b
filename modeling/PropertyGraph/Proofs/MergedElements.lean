import Mathlib.Tactic.FinCases
import PropertyGraph.Proofs.KeptAnswers

/-!
# Merging stores nothing twice

Merging looks for what it is about to store and inserts it only if there is nothing that
contains it.  The search and the insertion have to mean the same by that: a node or an arc that
is not found contains less, in some label or property, than the one that is put behind it
(`Distinct.vertexStep`, `Distinct.edgeStep`).  Storing an edge searches three times, each time
in the state that the step before has left.

> Main result (`run_merge_distinct`): on an empty graph that is only ever merged into, no vertex
> and no edge is contained in an older one, and a vertex that is contained in a stored one is
> stored as the oldest of those that contain it.
-/

namespace PropertyGraph.Embedded

/-- An arc contains another one: it joins the same nodes in the same direction, is of the same
type and has all of its properties. -/
structure Arc.Contains (stored a : Arc) : Prop where
  source : stored.source = a.source
  target : stored.target = a.target
  edgeType : stored.data.edgeType = a.data.edgeType
  properties : Includes stored.data.properties a.data.properties

/-- Looking for what an arc would be finds the arcs that contain it. -/
theorem Graph.joins_iff_contains {stored a : Arc} :
    Graph.joins a.source a.target a.data.edgeType a.data.properties stored = true ↔
      stored.Contains a := by
  simp only [Graph.joins, Bool.and_eq_true, beq_iff_eq, satisfies_iff]
  constructor
  · rintro ⟨⟨⟨hsource, htarget⟩, htype⟩, hproperties⟩
    exact ⟨hsource, htarget, htype, hproperties⟩
  · exact fun h => ⟨⟨⟨h.source, h.target⟩, h.edgeType⟩, h.properties⟩

/-- No node and no arc is contained in one that stands before it. -/
structure Graph.Distinct (g : Graph) : Prop where
  nodes : g.nodes.Pairwise fun older newer => ¬ Contains older.toVertex newer.toVertex
  arcs : g.arcs.Pairwise fun older newer => ¬ older.Contains newer

/-- An element at the end stands behind all the others. -/
theorem pairwise_concat_iff {α : Type} {R : α → α → Prop} {xs : List α} {x : α} :
    (xs ++ [x]).Pairwise R ↔ xs.Pairwise R ∧ ∀ y ∈ xs, R y x := by
  simp [List.pairwise_append]

/-- Of elements that ascend by number, those with a smaller number stand before. -/
theorem of_pairwise_of_lt {α : Type} {id : α → Int} {R : α → α → Prop} {xs : List α}
    (hascending : (xs.map id).Pairwise (· < ·)) (h : xs.Pairwise R) {x y : α} (hx : x ∈ xs)
    (hy : y ∈ xs) (hlt : id x < id y) : R x y := by
  induction xs with
  | nil => cases hx
  | cons z rest ih =>
    obtain ⟨hfirst, hrest⟩ := List.pairwise_cons.1 h
    obtain ⟨hleast, htail⟩ := List.pairwise_cons.1 hascending
    rw [List.forall_mem_map] at hleast
    rcases List.mem_cons.1 hx with rfl | hx'
    · rcases List.mem_cons.1 hy with rfl | hy'
      · exact absurd hlt (Int.lt_irrefl _)
      · exact hfirst y hy'
    · rcases List.mem_cons.1 hy with rfl | hy'
      · exact absurd hlt (Int.not_lt.2 (Int.le_of_lt (hleast x hx')))
      · exact ih htail hrest hx' hy'

/-- Of elements that ascend by number, the first that passes a test has the smallest number. -/
theorem le_of_find? {α : Type} {id : α → Int} {p : α → Bool} {xs : List α} {x y : α}
    (hascending : (xs.map id).Pairwise (· < ·)) (hfind : xs.find? p = some x) (hy : y ∈ xs)
    (hp : p y = true) : id x ≤ id y := by
  obtain ⟨-, before, after, rfl, hbefore⟩ := List.find?_eq_some_iff_append.1 hfind
  rw [List.map_append, List.map_cons, List.pairwise_append, List.pairwise_cons,
    List.forall_mem_map] at hascending
  obtain ⟨-, ⟨hleast, -⟩, -⟩ := hascending
  rcases List.mem_append.1 hy with hy | hy
  · exact absurd hp (by simpa using hbefore y hy)
  · rcases List.mem_cons.1 hy with rfl | hy
    · exact Int.le_refl _
    · exact Int.le_of_lt (hleast y hy)

namespace State

variable {s s' : State}

/-! ## What a search has not found -/

/-- Merging inserts a vertex only if no node contains it. -/
theorem not_contains_of_existingVertex? {v : Vertex}
    (h : s.existingVertex? v.labels v.properties = none) {n : Node} (hn : n ∈ s.graph.nodes) :
    ¬ Contains n.toVertex v := by
  rw [existingVertex?_eq, Option.map_eq_none_iff, List.find?_eq_none] at h
  exact fun hcontains => h n hn (Node.fits_iff_contains.2 hcontains)

/-- Merging inserts an edge only if no arc contains it. -/
theorem not_contains_of_existingEdge? {source target : Int} {a : Arc}
    (h : s.existingEdge? source target a.data.edgeType a.data.properties = none)
    (hsource : s.graph.position? source = some a.source)
    (htarget : s.graph.position? target = some a.target) {stored : Arc}
    (hstored : stored ∈ s.graph.arcs) : ¬ stored.Contains a := by
  intro hcontains
  have hjoins := Graph.joins_iff_contains.2 hcontains
  -- The arc is among those that the search found, so that it found a last one.
  obtain ⟨i, hi⟩ := List.getElem?_of_mem hstored
  have hmem : i ∈ Graph.positions (Graph.joins a.source a.target a.data.edgeType
      a.data.properties) s.graph.arcs :=
    Graph.mem_positions_iff.2 ⟨stored, hi, hjoins⟩
  cases hlast : s.graph.findEdge a.source a.target a.data.edgeType a.data.properties with
  | none =>
    rw [Graph.findEdge, List.getLast?_eq_none_iff] at hlast
    rw [hlast] at hmem
    cases hmem
  | some j =>
    obtain ⟨b, hb, -⟩ := Graph.mem_positions_iff.1 (List.mem_of_getLast? hlast)
    have hb : s.graph.arc? j = some b := hb
    simp only [existingEdge?, hsource, htarget, hlast, hb, bind, Option.bind_some,
      reduceCtorEq] at h

/-! ## Steps -/

/-- A vertex may be inserted that no node contains. -/
theorem Distinct.insertVertex (h : s.graph.Distinct) {v : Vertex}
    (hnew : ∀ n ∈ s.graph.nodes, ¬ Contains n.toVertex v) :
    (s.insertVertex v.labels v.properties).2.graph.Distinct := by
  rw [insertVertex_eq]
  split
  next => exact h
  next =>
    refine ⟨pairwise_concat_iff.2 ⟨h.nodes, fun n hn hcontains => ?_⟩, h.arcs⟩
    exact hnew n hn ⟨hcontains.labels, hcontains.properties⟩

/-- An edge may be inserted that no arc between its endpoints contains. -/
theorem Distinct.insertEdge (h : s.graph.Distinct) {source target : Int} {d : EdgeData}
    (hnew : ∀ id first last, s.graph.position? source = some first →
      s.graph.position? target = some last →
        ∀ stored ∈ s.graph.arcs, ¬ stored.Contains ⟨first, last, { d with id }⟩) :
    (s.insertEdge source target d.edgeType d.properties).2.graph.Distinct := by
  rw [insertEdge_eq]
  split
  next => exact h
  next =>
    split
    next =>
      dsimp only
      unfold Graph.addEdge?
      split
      next first last hfirst hlast =>
        exact ⟨h.nodes, pairwise_concat_iff.2 ⟨h.arcs, hnew _ first last hfirst hlast⟩⟩
      next => exact h
    next => exact h

/-- Merging a vertex keeps the elements distinct. -/
theorem Distinct.vertexStep (h : s.graph.Distinct) (hstep : VertexStep .merge s s') :
    s'.graph.Distinct := by
  rcases hstep with rfl | ⟨labels, properties, rfl⟩
  · exact h
  · unfold upsertVertex
    cases hexisting : s.existingVertex? labels properties with
    | some id => exact h
    | none =>
      exact Distinct.insertVertex h (v := { labels, properties }) fun n hn =>
        not_contains_of_existingVertex? hexisting hn

/-- Merging an edge keeps the elements distinct. -/
theorem Distinct.edgeStep (h : s.graph.Distinct) (hstep : EdgeStep .merge s s') :
    s'.graph.Distinct := by
  rcases hstep with rfl | ⟨source, target, edgeType, properties, rfl⟩
  · exact h
  · unfold upsertEdge
    cases hexisting : s.existingEdge? source target edgeType properties with
    | some id => exact h
    | none =>
      exact Distinct.insertEdge h (d := ⟨0, edgeType, properties⟩)
        fun id first last hfirst hlast stored hstored =>
          not_contains_of_existingEdge? (a := ⟨first, last, id, edgeType, properties⟩) hexisting
            hfirst hlast hstored

/-- A call that merges keeps the elements distinct. -/
theorem Distinct.write (h : s.graph.Distinct) {w : Write} (hmerge : w.mode = .merge) :
    (s.write w).graph.Distinct := by
  cases w with
  | vertex mode v =>
    cases hmerge
    exact Distinct.vertexStep h (storeVertex_step .merge s v)
  | edge mode e =>
    cases hmerge
    -- Each search runs on the state that the step before has left.
    obtain ⟨s₁, s₂, hfirst, hsecond, hedge⟩ := storeEdge_steps .merge s e
    exact Distinct.edgeStep (Distinct.vertexStep (Distinct.vertexStep h hfirst) hsecond) hedge

theorem Distinct.run {writes : List Write} (hmerge : ∀ w ∈ writes, w.mode = .merge)
    (h : s.graph.Distinct) : (s.run writes).graph.Distinct := by
  induction writes generalizing s with
  | nil => exact h
  | cons w rest ih =>
    obtain ⟨hfirst, hrest⟩ := List.forall_mem_cons.1 hmerge
    exact ih hrest (Distinct.write h hfirst)

/-! ## Reuse -/

/-- A vertex that is contained in a stored one is merged into the one with the smallest number,
and nothing is inserted. -/
theorem storeVertex_merge_reuses (h : s.InStep) {v : Vertex} (hlabels : v.labels ≠ [])
    (hexists : ∃ n ∈ s.graph.nodes, Contains n.toVertex v) :
    ∃ n ∈ s.graph.nodes, Contains n.toVertex v ∧
      (∀ m ∈ s.graph.nodes, Contains m.toVertex v → n.id ≤ m.id) ∧
      s.storeVertex .merge v = (⟨.ok (), v.withId (Identifier.ofInt n.id)⟩, s) := by
  obtain ⟨m, hm, hcontains⟩ := hexists
  cases hfind : s.graph.nodes.find? fun n => n.fits v.labels [v.properties] with
  | none =>
    rw [List.find?_eq_none] at hfind
    exact absurd (Node.fits_iff_contains.2 hcontains) (hfind m hm)
  | some n =>
    have hfits : n.fits v.labels [v.properties] = true :=
      List.find?_some (p := fun n : Node => n.fits v.labels [v.properties]) hfind
    refine ⟨n, List.mem_of_find?_eq_some hfind, Node.fits_iff_contains.1 hfits, ?_, ?_⟩
    · intro m hm hcontains
      exact le_of_find? h.wellFormed.nodesAscending hfind hm (Node.fits_iff_contains.2 hcontains)
    · unfold storeVertex upsertVertex
      rw [if_neg (by simpa using hlabels)]
      dsimp only
      rw [existingVertex?_eq, hfind]
      rfl

/-- **Merging stores nothing twice.**  After any calls in merge mode on an empty graph, no
vertex has all labels and properties of one that was stored later, and no edge joins the same
vertices as one of its type that was stored later and has all of its properties.  A vertex
that some stored one contains is stored as the one with the smallest number of those, and
changes nothing. -/
theorem run_merge_distinct {writes : List Write} (hmerge : ∀ w ∈ writes, w.mode = .merge) :
    (∀ older ∈ (run {} writes).graph.nodes, ∀ newer ∈ (run {} writes).graph.nodes,
      older.id < newer.id → ¬ Contains older.toVertex newer.toVertex) ∧
    (∀ older ∈ (run {} writes).graph.arcs, ∀ newer ∈ (run {} writes).graph.arcs,
      older.data.id < newer.data.id → ¬ older.Contains newer) ∧
    ∀ v : Vertex, v.labels ≠ [] →
      (∃ n ∈ (run {} writes).graph.nodes, Contains n.toVertex v) →
      ∃ n ∈ (run {} writes).graph.nodes, Contains n.toVertex v ∧
        (∀ m ∈ (run {} writes).graph.nodes, Contains m.toVertex v → n.id ≤ m.id) ∧
        (run {} writes).storeVertex .merge v =
          (⟨.ok (), v.withId (Identifier.ofInt n.id)⟩, run {} writes) := by
  have hstep : (run {} writes).InStep := inStep_run writes
  have hwell := hstep.wellFormed
  have hdistinct : (run {} writes).graph.Distinct := Distinct.run hmerge ⟨.nil, .nil⟩
  refine ⟨?_, ?_, fun v hlabels => storeVertex_merge_reuses hstep hlabels⟩
  · intro older holder newer hnewer
    exact of_pairwise_of_lt hwell.nodesAscending hdistinct.nodes holder hnewer
  · intro older holder newer hnewer
    exact of_pairwise_of_lt hwell.arcsAscending hdistinct.arcs holder hnewer

/-- Two people, the second of whom is stored along with an edge from the first, which is then
stored again with less. -/
def mergedSample : List Write :=
  [.vertex .merge
      { labels := ["Person"], properties := Dict.ofList [("name", .string "Tom")] },
    .edge .merge
      { edgeType := "KNOWS"
        source := some { labels := ["Person"] }
        destination := some
          { labels := ["Person"], properties := Dict.ofList [("name", .string "Jerry")] }
        properties := Dict.ofList [("since", .integer 1990)] },
    .edge .merge
      { edgeType := "KNOWS"
        sourceId := some (Identifier.ofInt 1)
        destinationId := some (Identifier.ofInt 2) }]

/-- The sample comes to two people and one edge, and any person is merged into the first. -/
theorem run_merge_distinct_sample :
    (∀ w ∈ mergedSample, w.mode = .merge) ∧
    (run {} mergedSample).graph.nodes.map Node.id = [1, 2] ∧
    (run {} mergedSample).graph.arcs.length = 1 ∧
    (run {} mergedSample).storeVertex .merge { labels := ["Person"] } =
      (⟨.ok (), { id := some (Identifier.ofInt 1), labels := ["Person"] }⟩,
        run {} mergedSample) := by
  have hmerge : ∀ w ∈ mergedSample, w.mode = .merge := by
    intro w hw
    fin_cases hw <;> rfl
  have hids : (run {} mergedSample).graph.nodes.map Node.id = [1, 2] := by rfl
  obtain ⟨tom, htom, htomId, hcontains⟩ : ∃ n ∈ (run {} mergedSample).graph.nodes,
      n.id = 1 ∧ Contains n.toVertex { labels := ["Person"] } :=
    ⟨_, List.mem_cons_self, rfl, fun _ hlabel => hlabel, fun _ _ hvalue => nomatch hvalue⟩
  obtain ⟨-, -, hreuse⟩ := run_merge_distinct hmerge
  obtain ⟨n, hn, -, hleast, hstored⟩ :=
    hreuse { labels := ["Person"] } (by decide) ⟨tom, htom, hcontains⟩
  have hid : n.id = 1 := by
    have hle : n.id ≤ 1 := htomId ▸ hleast tom htom hcontains
    have hmem : n.id ∈ [1, 2] := hids ▸ List.mem_map_of_mem hn
    rcases List.mem_cons.1 hmem with hone | htwo
    · exact hone
    · rw [List.mem_singleton.1 htwo] at hle
      exact absurd hle (by decide)
  rw [hid] at hstored
  exact ⟨hmerge, hids, by rfl, hstored⟩

end State
end PropertyGraph.Embedded
