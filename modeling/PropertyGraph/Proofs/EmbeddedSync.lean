import Mathlib.Data.List.Forall2
import Mathlib.Data.List.Induction
import PropertyGraph.Proofs.EmbeddedGrowth

/-!
# Rows and graph stay in step

The state keeps two copies of one graph: the stored rows, and the nodes and arcs in memory with
their index.  The code updates them side by side.  This file states what the two copies agree
on, in two parts.

> `InStep`: numbers and positions.  Rows and nodes carry the same ascending numbers, the index
> is the one that adding the nodes in their order builds, and every edge row stands beside an
> arc whose positions are those of the row's endpoints.

> `Transcribed`: contents.  Every row is the text of its node or arc.

One insertion preserves either part (`InStep.grows`, `Transcribed.grows`), and so does any
sequence of calls on an empty database (`inStep_run`, `transcribed_run`).  That both endpoints
of a stored edge are in the graph, whatever the rows say, is where the first part is needed:
the index is only consulted after the rows accepted the edge.
-/

namespace PropertyGraph.Embedded

open Relation (ReflTransGen)

namespace Graph

/-! ## The index -/

/-- Entering a position answers for its own number and leaves the others alone. -/
theorem lookup_enter (id other : Int) (position : Nat) (index : List (Int × Nat)) :
    (enter id position index).lookup other = if other = id then some position
      else index.lookup other := by
  unfold enter
  by_cases h : other = id
  · subst h
    rw [List.lookup_cons_self, if_pos rfl]
  · rw [List.lookup_cons, beq_false_of_ne h, if_neg h]
    dsimp only
    induction index with
    | nil => rfl
    | cons e rest ih =>
      by_cases he : e.1 = id
      · have hne : (other == e.1) = false := beq_false_of_ne fun heq => h (heq.trans he)
        rw [List.filter_cons_of_neg (by simp [he]), List.lookup_cons, hne]
        exact ih
      · rw [List.filter_cons_of_pos (by simp [he]), List.lookup_cons, List.lookup_cons, ih]

/-- A new node is found under its number; every other number leads where it led before. -/
theorem position?_addNode (g : Graph) (n : Node) (id : Int) :
    (g.addNode n).position? id = if id = n.id then some g.nodes.length else g.position? id :=
  lookup_enter n.id id g.nodes.length g.index

/-- The graph of nodes that are added one after the other. -/
def ofNodes (nodes : List Node) : Graph := nodes.foldl addNode empty

theorem ofNodes_concat (nodes : List Node) (n : Node) :
    ofNodes (nodes ++ [n]) = (ofNodes nodes).addNode n := by
  unfold ofNodes
  rw [List.foldl_append, List.foldl_cons, List.foldl_nil]

theorem nodes_ofNodes (nodes : List Node) : (ofNodes nodes).nodes = nodes := by
  induction nodes using List.reverseRecOn with
  | nil => rfl
  | append_singleton nodes n ih =>
    rw [ofNodes_concat]
    exact congrArg (· ++ [n]) ih

theorem arcs_ofNodes (nodes : List Node) : (ofNodes nodes).arcs = [] := by
  induction nodes using List.reverseRecOn with
  | nil => rfl
  | append_singleton nodes n ih => rwa [ofNodes_concat]

/-- The index leads to nodes that carry the number asked for. -/
theorem exists_of_position?_ofNodes (nodes : List Node) {id : Int} {i : Nat}
    (h : (ofNodes nodes).position? id = some i) : ∃ n, nodes[i]? = some n ∧ n.id = id := by
  induction nodes using List.reverseRecOn with
  | nil => cases h
  | append_singleton nodes n ih =>
    rw [ofNodes_concat, position?_addNode, nodes_ofNodes] at h
    by_cases hid : id = n.id
    · rw [if_pos hid] at h
      cases h
      exact ⟨n, List.getElem?_concat_length, hid.symm⟩
    · rw [if_neg hid] at h
      obtain ⟨m, hm, hmid⟩ := ih h
      have hlt : i < nodes.length := (List.getElem?_eq_some_iff.1 hm).1
      exact ⟨m, by rw [List.getElem?_append_left hlt, hm], hmid⟩

/-- The index knows the number of every node. -/
theorem isSome_position?_ofNodes {nodes : List Node} {n : Node} (h : n ∈ nodes) :
    ((ofNodes nodes).position? n.id).isSome = true := by
  induction nodes using List.reverseRecOn with
  | nil => cases h
  | append_singleton nodes m ih =>
    rw [ofNodes_concat, position?_addNode]
    by_cases hid : n.id = m.id
    · rw [if_pos hid, Option.isSome_some]
    · rw [if_neg hid]
      rcases List.mem_append.1 h with hold | hnew
      · exact ih hold
      · exact absurd (congrArg Node.id (List.mem_singleton.1 hnew)) hid

/-- An edge row stands beside an arc: same number, same type, and the arc's positions are those
of the row's endpoints. -/
structure Joins (g : Graph) (row : EdgeRow) (a : Arc) : Prop where
  id : row.id = a.data.id
  edgeType : row.edgeType = a.data.edgeType
  source : g.position? row.sourceId = some a.source
  target : g.position? row.targetId = some a.target

end Graph

namespace State

/-! ## Numbers and positions -/

/-- The rows and the graph agree on numbers and positions. -/
structure InStep (s : State) : Prop where
  rows : s.tables.vertices.map VertexRow.id = s.graph.nodes.map Node.id
  ascending : (s.tables.vertices.map VertexRow.id).Pairwise (· < ·)
  highest : ∀ row ∈ s.tables.vertices, row.id ≤ s.tables.lastVertexId
  index : s.graph.index = (Graph.ofNodes s.graph.nodes).index
  arcs : List.Forall₂ s.graph.Joins s.tables.edges s.graph.arcs
  edgesAscending : (s.tables.edges.map EdgeRow.id).Pairwise (· < ·)
  edgesHighest : ∀ row ∈ s.tables.edges, row.id ≤ s.tables.lastEdgeId

theorem inStep_empty : InStep {} where
  rows := rfl
  ascending := List.Pairwise.nil
  highest := by simp
  index := rfl
  arcs := List.Forall₂.nil
  edgesAscending := List.Pairwise.nil
  edgesHighest := by simp

/-- Numbers that go up to the last one stay ascending when the next one joins them. -/
theorem pairwise_concat_next {ids : List Int} {last next : Int} (h : ids.Pairwise (· < ·))
    (hlast : ∀ id ∈ ids, id ≤ last) (hnext : next = last + 1) :
    (ids ++ [next]).Pairwise (· < ·) := by
  refine List.pairwise_append.2 ⟨h, List.pairwise_singleton _ _, ?_⟩
  intro id hid other hother
  have hle := hlast id hid
  rw [List.mem_singleton.1 hother, hnext]
  omega

variable {s s' : State}

/-- The index answers like the one built from the nodes. -/
theorem InStep.position?_eq (h : s.InStep) (id : Int) :
    s.graph.position? id = (Graph.ofNodes s.graph.nodes).position? id := by
  unfold Graph.position?
  rw [h.index]

/-- A number the index knows is the number of the node it leads to. -/
theorem InStep.exists_of_position? (h : s.InStep) {id : Int} {i : Nat}
    (hi : s.graph.position? id = some i) : ∃ n, s.graph.node? i = some n ∧ n.id = id :=
  Graph.exists_of_position?_ofNodes _ ((h.position?_eq id).symm.trans hi)

/-- A vertex that is stored is a vertex the graph knows. -/
theorem InStep.position?_of_hasVertex (h : s.InStep) {id : Int}
    (hid : s.tables.hasVertex id = true) : ∃ i, s.graph.position? id = some i := by
  obtain ⟨row, hrow, heq⟩ := List.any_eq_true.1 hid
  have hmem : row.id ∈ s.graph.nodes.map Node.id := h.rows ▸ List.mem_map_of_mem hrow
  obtain ⟨n, hn, hnid⟩ := List.mem_map.1 hmem
  refine Option.isSome_iff_exists.1 ?_
  rw [h.position?_eq, ← eq_of_beq heq, ← hnid]
  exact Graph.isSome_position?_ofNodes hn

/-- A number the index knows was handed out already. -/
theorem InStep.le_lastVertexId (h : s.InStep) {id : Int} {i : Nat}
    (hi : s.graph.position? id = some i) : id ≤ s.tables.lastVertexId := by
  obtain ⟨n, hn, rfl⟩ := h.exists_of_position? hi
  have hmem : n.id ∈ s.tables.vertices.map VertexRow.id :=
    h.rows ▸ List.mem_map_of_mem (List.mem_of_getElem? hn)
  obtain ⟨row, hrow, hid⟩ := List.mem_map.1 hmem
  exact hid ▸ h.highest row hrow

/-- Arcs keep their endpoints when a node joins the graph, since its number is new. -/
theorem InStep.joins_addNode (h : s.InStep) {n : Node} (next : n.id = s.tables.lastVertexId + 1)
    {row : EdgeRow} {a : Arc} (hjoins : s.graph.Joins row a) :
    (s.graph.addNode n).Joins row a := by
  have keeps : ∀ {id : Int} {i : Nat}, s.graph.position? id = some i →
      (s.graph.addNode n).position? id = some i := by
    intro id i hi
    have hle := h.le_lastVertexId hi
    rw [Graph.position?_addNode, if_neg (by omega), hi]
  exact ⟨hjoins.id, hjoins.edgeType, keeps hjoins.source, keeps hjoins.target⟩

/-- An edge between stored vertices is added to the graph, between their positions. -/
theorem InStep.addEdge?_eq (h : s.InStep) {source target : Int} (d : EdgeData)
    (hsource : s.tables.hasVertex source = true) (htarget : s.tables.hasVertex target = true) :
    ∃ a : Arc, a.data = d ∧ s.graph.Joins (d.row source target) a ∧
      s.graph.addEdge? source target d = some { s.graph with arcs := s.graph.arcs ++ [a] } := by
  obtain ⟨i, hi⟩ := h.position?_of_hasVertex hsource
  obtain ⟨j, hj⟩ := h.position?_of_hasVertex htarget
  refine ⟨⟨i, j, d⟩, rfl, ⟨rfl, rfl, hi, hj⟩, ?_⟩
  unfold Graph.addEdge?
  rw [hi, hj]

/-- One insertion keeps rows and graph in step. -/
theorem InStep.grows (h : s.InStep) (hgrows : Grows s s') : s'.InStep := by
  cases hgrows with
  | node n room next =>
    refine ⟨?_, ?_, ?_, ?_, ?_, h.edgesAscending, h.edgesHighest⟩
    · simp only [Tables.putVertex, Graph.addNode, List.map_append, h.rows, List.map_singleton,
        Node.row]
    · simp only [Tables.putVertex, List.map_append, List.map_singleton, Node.row]
      refine pairwise_concat_next h.ascending ?_ next
      simpa only [List.forall_mem_map] using h.highest
    · simp only [Tables.putVertex, List.forall_mem_append, List.forall_mem_singleton]
      exact ⟨fun row hrow => Int.le_trans (h.highest row hrow) (Int.le_max_left _ _),
        Int.le_max_right _ _⟩
    · simp only [Graph.addNode, Graph.ofNodes_concat, Graph.nodes_ofNodes, h.index]
    · exact h.arcs.imp fun _ _ => h.joins_addNode next
  | arc d source target room next hsource htarget =>
    obtain ⟨a, -, hjoins, hadd⟩ := h.addEdge?_eq d hsource htarget
    rw [hadd, Option.getD_some]
    refine ⟨h.rows, h.ascending, h.highest, h.index, ?_, ?_, ?_⟩
    · have hboth : List.Forall₂ s.graph.Joins (s.tables.edges ++ [d.row source target])
          (s.graph.arcs ++ [a]) := List.rel_append h.arcs (.cons hjoins .nil)
      exact hboth.imp fun _ _ hj => ⟨hj.id, hj.edgeType, hj.source, hj.target⟩
    · simp only [Tables.putEdge, List.map_append, List.map_singleton, EdgeData.row]
      refine pairwise_concat_next h.edgesAscending ?_ next
      simpa only [List.forall_mem_map] using h.edgesHighest
    · simp only [Tables.putEdge, List.forall_mem_append, List.forall_mem_singleton]
      exact ⟨fun row hrow => Int.le_trans (h.edgesHighest row hrow) (Int.le_max_left _ _),
        Int.le_max_right _ _⟩

theorem InStep.of_reflTransGen (h : s.InStep) (hrun : ReflTransGen Grows s s') : s'.InStep := by
  induction hrun with
  | refl => exact h
  | tail _ hstep ih => exact ih.grows hstep

/-- Any sequence of calls on an empty database leaves rows and graph in step. -/
theorem inStep_run (writes : List Write) : (run {} writes).InStep :=
  inStep_empty.of_reflTransGen (run_grows writes {})

/-! ## Contents -/

/-- The rows are the text of the nodes and arcs. -/
structure Transcribed (s : State) : Prop where
  vertices : s.tables.vertices = s.graph.nodes.map Node.row
  edges : s.tables.edges.map EdgeRow.properties =
    s.graph.arcs.map fun a => (Json.ofDict a.data.properties).text

theorem transcribed_empty : Transcribed {} := ⟨rfl, rfl⟩

/-- One insertion puts the text of what it adds into the rows. -/
theorem Transcribed.grows (h : s.Transcribed) (hstep : s.InStep) (hgrows : Grows s s') :
    s'.Transcribed := by
  cases hgrows with
  | node n room next =>
    refine ⟨?_, h.edges⟩
    simp only [Tables.putVertex, Graph.addNode, List.map_append, List.map_singleton, h.vertices]
  | arc d source target room next hsource htarget =>
    obtain ⟨a, rfl, -, hadd⟩ := hstep.addEdge?_eq d hsource htarget
    rw [hadd, Option.getD_some]
    refine ⟨h.vertices, ?_⟩
    simp only [Tables.putEdge, List.map_append, List.map_singleton, h.edges, EdgeData.row]

theorem Transcribed.of_reflTransGen (h : s.Transcribed) (hstep : s.InStep)
    (hrun : ReflTransGen Grows s s') : s'.Transcribed := by
  induction hrun with
  | refl => exact h
  | tail hprefix hlast ih => exact ih.grows (hstep.of_reflTransGen hprefix) hlast

/-- After any sequence of calls on an empty database the rows are the text of the graph. -/
theorem transcribed_run (writes : List Write) : (run {} writes).Transcribed :=
  transcribed_empty.of_reflTransGen inStep_empty (run_grows writes {})

end State
end PropertyGraph.Embedded
