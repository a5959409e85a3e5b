import PropertyGraph.Proofs.KeptAnswers

/-!
# Searching for edges

A request for edges has conditions for the edge and for each of its two ends.  The search goes
through the arcs once, in their order, and tries both ways of putting the nodes of an arc at the
ends of the request.  It is one test for each arc (`Graph.arcFits_iff`), so an arc that fits both
ways is found once, as is one that leads from a node to itself.

> Main result (`findEdges_exact`): a search finds exactly the arcs that answer the request, each
> of them once and in ascending order, and does not change when the ends of the request are
> exchanged.
-/

namespace PropertyGraph

namespace Embedded

/-- What a request asks of one end of an edge. -/
structure EndConditions where
  labels : List String
  selectors : PropertyMap
  filters : PropertyMap

/-- A node meets the conditions for an end: it has the labels and includes both maps. -/
structure EndConditions.MetBy (c : EndConditions) (n : Node) : Prop where
  labels : ∀ label ∈ c.labels, label ∈ n.labels
  selectors : Includes n.properties c.selectors
  filters : Includes n.properties c.filters

end Embedded

namespace EdgeRequest

open Embedded

/-- The conditions for the start. -/
def start (r : EdgeRequest) : EndConditions := ⟨r.startLabels, r.startSelectors, r.startFilters⟩

/-- The conditions for the end. -/
def finish (r : EdgeRequest) : EndConditions := ⟨r.endLabels, r.endSelectors, r.endFilters⟩

/-- The request with the conditions for its ends exchanged. -/
def exchanged (r : EdgeRequest) : EdgeRequest :=
  { r with
    startLabels := r.endLabels
    endLabels := r.startLabels
    startSelectors := r.endSelectors
    endSelectors := r.startSelectors
    startFilters := r.endFilters
    endFilters := r.startFilters }

end EdgeRequest

namespace Embedded.Graph

/-- The two ways of putting the nodes of an arc at the ends of a request. -/
inductive Assigns (g : Graph) (a : Arc) : Node → Node → Prop
  | along {source target : Node} (first : g.node? a.source = some source)
      (last : g.node? a.target = some target) : Assigns g a source target
  | against {source target : Node} (first : g.node? a.source = some source)
      (last : g.node? a.target = some target) : Assigns g a target source

/-- An arc answers a request: it is of the type, it includes the selectors and filters for the
edge, and its nodes meet the conditions for the ends in one of the two ways. -/
structure Answers (g : Graph) (r : EdgeRequest) (a : Arc) : Prop where
  edgeType : a.data.edgeType = r.label
  selectors : Includes a.data.properties r.selectors
  filters : Includes a.data.properties r.filters
  ends : ∃ first last, g.Assigns a first last ∧ r.start.MetBy first ∧ r.finish.MetBy last

variable (g : Graph) (r : EdgeRequest)

theorem nodeFits_iff_metBy (i : Nat) (c : EndConditions) :
    g.nodeFits i c.labels c.selectors c.filters = true ↔ ∃ n, g.node? i = some n ∧ c.MetBy n := by
  rw [nodeFits_iff]
  refine exists_congr fun n => and_congr_right fun _ => ?_
  rw [Node.fits_iff_includes, List.forall_mem_cons, List.forall_mem_singleton]
  exact ⟨fun h => ⟨h.1, h.2.1, h.2.2⟩, fun h => ⟨h.labels, h.selectors, h.filters⟩⟩

theorem orientedFits_iff (i j : Nat) : g.orientedFits r i j = true ↔
    (∃ first, g.node? i = some first ∧ r.start.MetBy first) ∧
      ∃ last, g.node? j = some last ∧ r.finish.MetBy last := by
  rw [← nodeFits_iff_metBy, ← nodeFits_iff_metBy, ← Bool.and_eq_true]
  exact Iff.rfl

/-- The test of an arc. -/
theorem arcFits_iff (a : Arc) : g.arcFits r a = true ↔ g.Answers r a := by
  have hdata : dataFits r a.data = true ↔ a.data.edgeType = r.label ∧
      Includes a.data.properties r.selectors ∧ Includes a.data.properties r.filters := by
    unfold dataFits
    rw [Bool.and_eq_true, Bool.and_eq_true, beq_iff_eq, satisfies_iff, satisfies_iff, and_assoc]
    exact Iff.rfl
  unfold arcFits
  rw [Bool.and_eq_true, Bool.or_eq_true, hdata, orientedFits_iff, orientedFits_iff]
  constructor
  · rintro ⟨⟨htype, hselectors, hfilters⟩, hends⟩
    refine ⟨htype, hselectors, hfilters, ?_⟩
    rcases hends with ⟨⟨first, hfirst, hstart⟩, last, hlast, hend⟩ |
      ⟨⟨first, hfirst, hstart⟩, last, hlast, hend⟩
    · exact ⟨first, last, .along hfirst hlast, hstart, hend⟩
    · exact ⟨first, last, .against hlast hfirst, hstart, hend⟩
  · rintro ⟨htype, hselectors, hfilters, first, last, hassigns, hstart, hend⟩
    refine ⟨⟨htype, hselectors, hfilters⟩, ?_⟩
    cases hassigns with
    | along hfirst hlast => exact Or.inl ⟨⟨first, hfirst, hstart⟩, last, hlast, hend⟩
    | against hlast hfirst => exact Or.inr ⟨⟨first, hfirst, hstart⟩, last, hlast, hend⟩

/-- The test does not tell the ends of a request apart. -/
theorem arcFits_exchanged (a : Arc) : g.arcFits r.exchanged a = g.arcFits r a := by
  have horiented : ∀ i j, g.orientedFits r.exchanged i j = g.orientedFits r j i :=
    fun i j => Bool.and_comm _ _
  unfold arcFits
  rw [horiented, horiented, Bool.or_comm]
  rfl

theorem findEdges_exchanged : g.findEdges r.exchanged = g.findEdges r := by
  unfold findEdges
  rw [funext (g.arcFits_exchanged r)]

/-- A search finds positions in ascending order. -/
theorem positions_ascending {α : Type} (p : α → Bool) (xs : List α) :
    (positions p xs).Pairwise (· < ·) := by
  have hall : (xs.zipIdx.map Prod.snd).Pairwise (· < ·) := by
    rw [List.zipIdx_map_snd]
    exact List.pairwise_lt_range'
  exact hall.sublist (List.filter_sublist.map Prod.snd)

end Embedded.Graph

namespace Embedded.State

variable {s : State}

/-- The numbers of the arcs that are found ascend as their positions do. -/
theorem numbers_findEdges (h : s.Reachable) (r : EdgeRequest) :
    ((s.graph.findEdges r).filterMap fun i => (s.graph.arc? i).map fun a => a.data.id).Pairwise
      (· < ·) := by
  have hfind : ((s.graph.findEdges r).filterMap fun i =>
        (s.graph.arc? i).map fun a => a.data.id) =
      (s.graph.arcs.filter (s.graph.arcFits r)).map fun a => a.data.id := by
    rw [← List.filterMap_eq_map, ← Graph.filterMap_positions]
    exact List.filterMap_congr fun i _ => Option.map_eq_bind
  rw [hfind]
  exact h.inStep.wellFormed.arcsAscending.sublist (List.filter_sublist.map _)

/-- **Searching for edges.**  In every state that can be reached and for every request, the search
finds the positions of exactly those arcs that answer the request.  These ascend, and so do the
numbers of the arcs: each is found once, also if it leads from a node to itself or fits both ways
round.  A request with its ends exchanged finds the same arcs and is answered alike. -/
theorem findEdges_exact (h : s.Reachable) (r : EdgeRequest) :
    (∀ i, i ∈ s.graph.findEdges r ↔ ∃ a, s.graph.arc? i = some a ∧ s.graph.Answers r a) ∧
    (s.graph.findEdges r).Pairwise (· < ·) ∧
    ((s.graph.findEdges r).filterMap fun i => (s.graph.arc? i).map fun a => a.data.id).Pairwise
      (· < ·) ∧
    s.graph.findEdges r.exchanged = s.graph.findEdges r ∧
    s.queryEdge r.exchanged = s.queryEdge r := by
  refine ⟨fun i => ?_, Graph.positions_ascending _ _, numbers_findEdges h r,
    s.graph.findEdges_exchanged r, ?_⟩
  · rw [Graph.findEdges, Graph.mem_positions_iff]
    exact exists_congr fun a => and_congr_right fun _ => s.graph.arcFits_iff r a
  · unfold queryEdge
    rw [s.graph.findEdges_exchanged r]
    rfl

/-- The sample, with an edge from a vertex to itself. -/
def loopSample : State :=
  (run {} Session.sampleWrites).write
    (.edge .create { edgeType := "KNOWS", sourceId := some ⟨"2"⟩, destinationId := some ⟨"2"⟩ })

/-- A request for a friend at the end finds the edge that leads to one and the edge of that friend
to itself, each of them once, and so does a request for a friend at the start. -/
theorem findEdges_exact_loop :
    let r : EdgeRequest := { label := "KNOWS", startLabels := ["Person"], endLabels := ["Friend"] }
    loopSample.Reachable ∧ loopSample.graph.findEdges r = [0, 1] ∧
      loopSample.graph.findEdges r.exchanged = [0, 1] ∧
      ∃ a, loopSample.graph.arc? 1 = some a ∧ a.source = a.target ∧
        loopSample.graph.Answers r a := by
  intro r
  have hreachable : loopSample.Reachable := ((Reachable.new ofTables_empty).run _).write _
  have hfound : loopSample.graph.findEdges r = [0, 1] := by rfl
  obtain ⟨hmem, -, -, hexchanged, -⟩ := findEdges_exact hreachable r
  have hloop : 1 ∈ loopSample.graph.findEdges r := by
    rw [hfound]
    exact List.mem_cons_of_mem 0 List.mem_cons_self
  obtain ⟨a, ha, hanswers⟩ := (hmem 1).1 hloop
  have hself : (loopSample.graph.arc? 1).map (fun a => (a.source, a.target)) = some (1, 1) := by
    rfl
  refine ⟨hreachable, hfound, hexchanged.trans hfound, a, ha, ?_, hanswers⟩
  rw [ha, Option.map_some, Option.some_inj] at hself
  obtain ⟨hsource, htarget⟩ := Prod.mk.inj hself
  exact hsource.trans htarget.symm

end Embedded.State
end PropertyGraph
