import PropertyGraph.Proofs.EmbeddedGrowth

/-!
# What is stored was given

Nothing that is stored is made up: the properties of every node and every arc came with a call,
or were there before.  So what all given properties satisfy all stored properties satisfy.

> `Holds.run`: a predicate on properties is kept by any sequence of calls that are given only
> such properties.

The proof follows the calls down to the two insertions, like the one for `Grows`, which does not
say where an insertion has its properties from.
-/

namespace PropertyGraph.Embedded

/-- The properties that come with a call. -/
def Write.given : Write → List PropertyMap
  | .vertex _ v => [v.properties]
  | .edge _ e => e.properties :: (e.source.toList ++ e.destination.toList).map Vertex.properties

namespace State

/-- All stored properties satisfy a predicate. -/
structure Holds (s : State) (P : PropertyMap → Prop) : Prop where
  nodes : ∀ n ∈ s.graph.nodes, P n.properties
  arcs : ∀ a ∈ s.graph.arcs, P a.data.properties

theorem holds_empty {P : PropertyMap → Prop} : Holds {} P :=
  ⟨fun _ h => (List.not_mem_nil h).elim, fun _ h => (List.not_mem_nil h).elim⟩

variable {s : State} {P : PropertyMap → Prop}

theorem Holds.insertVertex (h : s.Holds P) (labels : List String) {properties : PropertyMap}
    (hp : P properties) : (s.insertVertex labels properties).2.Holds P := by
  rw [insertVertex_eq]
  split
  next => exact h
  next =>
    refine ⟨fun n hn => ?_, h.arcs⟩
    rcases List.mem_append.1 hn with hold | hnew
    · exact h.nodes n hold
    · rw [List.mem_singleton.1 hnew]
      exact hp

theorem Holds.upsertVertex (h : s.Holds P) (mode : WriteMode) (labels : List String)
    {properties : PropertyMap} (hp : P properties) :
    (s.upsertVertex mode labels properties).2.Holds P := by
  unfold State.upsertVertex
  cases mode with
  | create => exact h.insertVertex labels hp
  | merge =>
    cases s.existingVertex? labels properties with
    | some id => exact h
    | none => exact h.insertVertex labels hp

theorem Holds.storeVertex (h : s.Holds P) (mode : WriteMode) {v : Vertex} (hp : P v.properties) :
    (s.storeVertex mode v).2.Holds P := by
  have hupsert := h.upsertVertex mode v.labels hp
  unfold State.storeVertex
  split
  next => exact h
  next =>
    split
    next _ _ heq => rwa [heq] at hupsert
    next _ _ heq => rwa [heq] at hupsert

theorem Holds.insertEdge (h : s.Holds P) (source target : Int) (edgeType : String)
    {properties : PropertyMap} (hp : P properties) :
    (s.insertEdge source target edgeType properties).2.Holds P := by
  rw [insertEdge_eq]
  split
  next => exact h
  next =>
    split
    next =>
      dsimp only
      unfold Graph.addEdge?
      split
      next =>
        refine ⟨h.nodes, fun a ha => ?_⟩
        rcases List.mem_append.1 ha with hold | hnew
        · exact h.arcs a hold
        · rw [List.mem_singleton.1 hnew]
          exact hp
      next => exact ⟨h.nodes, h.arcs⟩
    next => exact h

theorem Holds.upsertEdge (h : s.Holds P) (mode : WriteMode) (source target : Int)
    (edgeType : String) {properties : PropertyMap} (hp : P properties) :
    (s.upsertEdge mode source target edgeType properties).2.Holds P := by
  unfold State.upsertEdge
  cases mode with
  | create => exact h.insertEdge source target edgeType hp
  | merge =>
    cases s.existingEdge? source target edgeType properties with
    | some id => exact h
    | none => exact h.insertEdge source target edgeType hp

theorem Holds.settle (h : s.Holds P) (mode : WriteMode) (role : Role) {vertex : Option Vertex}
    (hp : ∀ v ∈ vertex, P v.properties) (endpoint : Endpoint) :
    (s.settle mode role vertex endpoint).2.Holds P := by
  cases endpoint with
  | stored id => exact h
  | fresh =>
    cases vertex with
    | none => exact h
    | some v => exact h.upsertVertex mode v.labels (hp v rfl)

theorem Holds.storeChecked (h : s.Holds P) (mode : WriteMode) {e : Edge}
    (hp : ∀ p ∈ Write.given (.edge mode e), P p) (source destination : Endpoint) :
    (s.storeChecked mode e source destination).2.Holds P := by
  have hends : ∀ v, v ∈ e.source ∨ v ∈ e.destination → P v.properties := by
    intro v hv
    refine hp v.properties (List.mem_cons_of_mem _ (List.mem_map_of_mem ?_))
    rw [List.mem_append, Option.mem_toList, Option.mem_toList]
    exact hv
  have hfirst := h.settle mode .source (fun v hv => hends v (Or.inl hv)) source
  unfold State.storeChecked
  split
  next _ _ heq => rwa [heq] at hfirst
  next sourceId s₁ heq =>
    rw [heq] at hfirst
    have hsecond := hfirst.settle mode .destination (fun v hv => hends v (Or.inr hv)) destination
    dsimp only
    split
    next _ _ heq₂ => rwa [heq₂] at hsecond
    next targetId s₂ heq₂ =>
      rw [heq₂] at hsecond
      have hedge := hsecond.upsertEdge mode sourceId targetId e.edgeType
        (hp e.properties List.mem_cons_self)
      split
      next _ _ heq₃ => rwa [heq₃] at hedge
      next _ _ heq₃ => rwa [heq₃] at hedge

theorem Holds.storeEdge (h : s.Holds P) (mode : WriteMode) {e : Edge}
    (hp : ∀ p ∈ Write.given (.edge mode e), P p) : (s.storeEdge mode e).2.Holds P := by
  unfold State.storeEdge
  split
  next => exact h
  next =>
    split
    next => exact h
    next source _ =>
      split
      next => exact h
      next destination _ => exact h.storeChecked mode hp source destination

theorem Holds.write (h : s.Holds P) {w : Write} (hp : ∀ p ∈ w.given, P p) :
    (s.write w).Holds P := by
  cases w with
  | vertex mode v => exact h.storeVertex mode (hp v.properties (List.mem_singleton.2 rfl))
  | edge mode e => exact h.storeEdge mode hp

/-- What is stored after a sequence of calls was there before or came with one of them. -/
theorem Holds.run {writes : List Write} (hp : ∀ w ∈ writes, ∀ p ∈ w.given, P p) :
    ∀ {s : State}, s.Holds P → (s.run writes).Holds P := by
  induction writes with
  | nil => exact fun h => h
  | cons w rest ih =>
    intro s h
    exact ih (fun w' hw => hp w' (List.mem_cons_of_mem w hw)) (h.write (hp w List.mem_cons_self))

end State
end PropertyGraph.Embedded
