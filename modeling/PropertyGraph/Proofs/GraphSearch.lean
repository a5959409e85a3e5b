import Mathlib.Data.List.Forall2
import PropertyGraph.Embedded.State
import PropertyGraph.Proofs.DictLookup
import PropertyGraph.Store

/-!
# What a search finds

Searches collect positions and look the elements up again afterwards.  Nothing is lost on the
way (`filterMap_positions`), so a search is a filter on the nodes or on the arcs, in their
order:

> `queryVertex_eq` and `queryEdge_eq`: the answers to queries.

> `existingVertex?_eq`: merging reuses the first node that fits.

Whether an element fits is a matter of its labels and of `satisfies`, which compares property
by property (`satisfies_nonNull_iff`).
-/

namespace PropertyGraph

/-- Two steps give a result if the first does and the second does with it. -/
theorem bind_eq_ok_iff {ε α β : Type} {x : Except ε α} {f : α → Except ε β} {y : β} :
    x >>= f = .ok y ↔ ∃ a, x = .ok a ∧ f a = .ok y := by
  cases x with
  | error e => simp [bind, Except.bind]
  | ok a => simp [bind, Except.bind]

/-- A list is read element by element: as many results, each from its own element. -/
theorem mapM_eq_ok_iff {ε α β : Type} {f : α → Except ε β} {xs : List α} : ∀ {ys : List β},
    xs.mapM f = .ok ys ↔ List.Forall₂ (fun x y => f x = .ok y) xs ys := by
  induction xs with
  | nil =>
    intro ys
    rw [List.mapM_nil, List.forall₂_nil_left_iff]
    exact ⟨fun h => (Except.ok.inj h).symm, fun h => h ▸ rfl⟩
  | cons x rest ih =>
    intro ys
    rw [List.mapM_cons, List.forall₂_cons_left_iff]
    simp only [← ih]
    cases hx : f x with
    | error e => simp [bind, Except.bind]
    | ok y =>
      cases hrest : rest.mapM f with
      | error e => simp [bind, Except.bind]
      | ok zs => simp [bind, Except.bind, pure, Except.pure, eq_comm]

/-- Related lists: every element on either side has a partner. -/
theorem exists_mem_of_forall₂ {α β : Type} {R : α → β → Prop} {xs : List α} {ys : List β}
    (h : List.Forall₂ R xs ys) :
    (∀ y ∈ ys, ∃ x ∈ xs, R x y) ∧ (∀ x ∈ xs, ∃ y ∈ ys, R x y) := by
  induction h with
  | nil => exact ⟨fun _ hy => (List.not_mem_nil hy).elim, fun _ hx => (List.not_mem_nil hx).elim⟩
  | @cons x y xs ys hxy _ ih =>
    constructor
    · rw [List.forall_mem_cons]
      refine ⟨⟨x, List.mem_cons_self, hxy⟩, fun y' hy' => ?_⟩
      obtain ⟨x', hx', hR⟩ := ih.1 y' hy'
      exact ⟨x', List.mem_cons_of_mem _ hx', hR⟩
    · rw [List.forall_mem_cons]
      refine ⟨⟨y, List.mem_cons_self, hxy⟩, fun x' hx' => ?_⟩
      obtain ⟨y', hy', hR⟩ := ih.2 x' hx'
      exact ⟨y', List.mem_cons_of_mem _ hy', hR⟩

/-- Related lists: what related elements have in common is the same along both. -/
theorem map_eq_of_forall₂ {α β γ : Type} {R : α → β → Prop} {f : α → γ} {g : β → γ} {xs : List α}
    {ys : List β} (h : List.Forall₂ R xs ys) (common : ∀ {x y}, R x y → f x = g y) :
    xs.map f = ys.map g := by
  induction h with
  | nil => rfl
  | cons hxy _ ih => rw [List.map_cons, List.map_cons, common hxy, ih]

/-- What is left without the nulls. -/
theorem get?_nonNull (properties : PropertyMap) (key : String) (value : Json) :
    (nonNull properties).get? key = some value ↔
      properties.get? key = some value ∧ value.isNull = false := by
  rw [nonNull, Dict.get?_filter, Option.filter_eq_some_iff, Bool.not_eq_true']

namespace Embedded

/-- Some properties are there with equal values: all those of a record that have a value. -/
def Covers (properties expected : PropertyMap) : Prop :=
  ∀ key value, expected.get? key = some value → value.isNull = false →
    ∃ stored, properties.get? key = some stored ∧ (stored == value) = true

theorem satisfies_iff (properties expected : PropertyMap) :
    satisfies properties expected = true ↔ ∀ key value, expected.get? key = some value →
      ∃ stored, properties.get? key = some stored ∧ (stored == value) = true := by
  unfold satisfies
  rw [List.all_eq_true]
  constructor
  · intro h key value hvalue
    have hkey := h (key, value) ((expected.mem_entries_iff key value).2 hvalue)
    cases hstored : properties.get? key with
    | none => rw [hstored] at hkey; cases hkey
    | some stored => rw [hstored] at hkey; exact ⟨stored, rfl, hkey⟩
  · intro h e he
    obtain ⟨stored, hstored, heq⟩ := h e.1 e.2 (Dict.get?_of_mem he)
    rw [hstored]
    exact heq

/-- Selectors made from properties ask for those that have a value. -/
theorem satisfies_nonNull_iff (properties expected : PropertyMap) :
    satisfies properties (nonNull expected) = true ↔ Covers properties expected := by
  rw [satisfies_iff]
  unfold Covers
  refine forall₂_congr fun key value => ?_
  rw [get?_nonNull, and_imp]

instance (properties expected : PropertyMap) : Decidable (Covers properties expected) :=
  decidable_of_iff _ (satisfies_nonNull_iff properties expected)

namespace Graph

/-! ## Positions -/

/-- Looking up the positions of a search gives the elements that pass its test. -/
theorem filterMap_positions {α β : Type} (p : α → Bool) (f : α → Option β) (xs : List α) :
    (positions p xs).filterMap (fun i => xs[i]?.bind f) = (xs.filter p).filterMap f := by
  have hlookup : ∀ x ∈ xs.zipIdx.filter fun x => p x.1,
      ((fun i => xs[i]?.bind f) ∘ Prod.snd) x = (f ∘ Prod.fst) x := by
    intro x hx
    have hget := List.mem_zipIdx_iff_getElem?.1 (List.mem_of_mem_filter hx)
    dsimp only [Function.comp_apply]
    rw [hget, Option.bind_some]
  calc (positions p xs).filterMap (fun i => xs[i]?.bind f)
      = (xs.zipIdx.filter fun x => p x.1).filterMap (f ∘ Prod.fst) := by
        rw [positions, List.filterMap_map, List.filterMap_congr hlookup]
    _ = ((xs.zipIdx.map Prod.fst).filter p).filterMap f := by
        rw [← List.filterMap_map, List.filter_map]
        rfl
    _ = (xs.filter p).filterMap f := by rw [List.zipIdx_map_fst]

/-- An arc as an edge between the nodes it joins. -/
def edgeOf? (g : Graph) (a : Arc) (mode : FetchMode) : Option Edge := do
  let source ← g.node? a.source
  let target ← g.node? a.target
  some (toEdge a.data source target mode)

/-- A node fits labels and maps of a request where it is there at all. -/
theorem nodeFits_iff (g : Graph) (position : Nat) (labels : List String)
    (selectors filters : PropertyMap) :
    g.nodeFits position labels selectors filters = true ↔
      ∃ n, g.node? position = some n ∧ n.fits labels [selectors, filters] = true := by
  unfold nodeFits
  cases g.node? position <;> simp

end Graph

namespace State

variable (s : State)

/-- A query for a label finds the nodes that fit, in their order. -/
theorem queryVertex_eq {label : String} (hlabel : label.isEmpty = false)
    (selectors filters : PropertyMap) :
    s.queryVertex label selectors filters =
      .ok ((s.graph.nodes.filter fun n => n.fits [label] [selectors, filters]).map
        Node.toVertex) := by
  have hfind := Graph.filterMap_positions (fun n => n.fits [label] [selectors, filters])
    (some ∘ Node.toVertex) s.graph.nodes
  rw [List.filterMap_eq_map] at hfind
  unfold queryVertex
  rw [if_neg (by simp [hlabel]), ← hfind]
  refine congrArg Except.ok (List.filterMap_congr fun i _ => ?_)
  exact Option.map_eq_bind

/-- A query for an edge type finds the arcs that fit, in their order. -/
theorem queryEdge_eq {r : EdgeRequest} (hlabel : r.label.isEmpty = false) :
    s.queryEdge r = .ok ((s.graph.arcs.filter (s.graph.arcFits r)).filterMap fun a =>
      s.graph.edgeOf? a r.fetchMode) := by
  unfold queryEdge
  rw [if_neg (by simp [hlabel]), ← Graph.filterMap_positions]
  rfl

/-- Merging reuses the first node that fits. -/
theorem existingVertex?_eq (labels : List String) (properties : PropertyMap) :
    s.existingVertex? labels properties =
      (s.graph.nodes.find? fun n => n.fits labels [properties]).map Node.id := by
  have hfind := Graph.filterMap_positions (fun n => n.fits labels [properties])
    (some ∘ Node.id) s.graph.nodes
  unfold existingVertex?
  rw [← List.head?_filterMap, ← List.head?_filter, ← List.head?_map, ← List.filterMap_eq_map,
    ← hfind]
  refine congrArg List.head? (List.filterMap_congr fun i _ => ?_)
  exact Option.map_eq_bind

end State
end Embedded
end PropertyGraph
