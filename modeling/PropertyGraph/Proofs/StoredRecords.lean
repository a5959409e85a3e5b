import PropertyGraph.Proofs.NullDropping

/-!
# Records as they are stored

What `Listable` asks of a type of records is asked here of two kinds of types at once, those
whose records become vertices and those whose records become edges.  A `VertexType` or a
`RelationshipType` comes with its promises, so that what follows needs no more of a record than
the properties it is stored with:

> `vertexOf` and `edgeOf`: what a record asks to store.

> `fromProperties`: what was stored is read back as the record.

> `satisfies_iff`: comparing stored properties is comparing fields.
-/

namespace PropertyGraph

open Embedded (Covers satisfies satisfies_nonNull_iff)

/-- A type whose records are stored as vertices and survive that. -/
structure VertexType (α : Type) where
  type : ObjectType α
  label : String
  shape : Shape
  fields : α → Dict Json
  listable : Listable type label shape fields

/-- The same records, as vertices. -/
def ObjectType.asVertices {α : Type} (t : ObjectType α) : ObjectType α :=
  { t with kind := fun _ => .vertex }

/-- A type whose records are stored as edges, and survive that as they would as vertices. -/
structure RelationshipType (α : Type) where
  type : ObjectType α
  kind : ∀ x, type.kind x = .relationship
  label : String
  shape : Shape
  fields : α → Dict Json
  listable : Listable type.asVertices label shape fields

namespace VertexType

variable {α : Type} (S : VertexType α)

/-- What is stored of a record. -/
def properties (x : α) : PropertyMap := nonNull (S.type.keyed (S.fields x))

/-- The vertex that a record asks to store. -/
def vertex (x : α) : Vertex where
  labels := [S.label]
  properties := S.properties x

theorem vertexOf (x : α) : S.type.vertexOf x = .ok (S.vertex x) := S.listable.vertexOf x

theorem expectKind (x : α) (role : String) : S.type.expectKind x .vertex role = .ok () :=
  if_pos (S.listable.kind x)

theorem fromProperties (x : α) :
    S.type.fromProperties (S.properties x) S.type.initial = .ok x :=
  S.listable.fromProperties_keyed x

theorem satisfies_iff (x y : α) :
    satisfies (S.properties x) (S.properties y) = true ↔ Covers (S.fields x) (S.fields y) :=
  (satisfies_nonNull_iff _ _).trans (S.listable.covers_iff x y)

/-- A type has one label and one way to store its records. -/
theorem eq_of_type {S D : VertexType α} (h : S.type = D.type) :
    S.label = D.label ∧ S.properties = D.properties := by
  have hlabel : S.label = D.label := by
    rw [← S.listable.sameLabel S.type.initial, h, D.listable.sameLabel]
  refine ⟨hlabel, funext fun x => ?_⟩
  have hvertex := S.vertexOf x
  rw [h, D.vertexOf x] at hvertex
  exact (congrArg Vertex.properties (Except.ok.inj hvertex)).symm

end VertexType

namespace RelationshipType

variable {α : Type} (R : RelationshipType α)

/-- What is stored of a record. -/
def properties (x : α) : PropertyMap := nonNull (R.type.keyed (R.fields x))

/-- The edge that a record asks to store, without endpoints. -/
def edge (x : α) : Edge where
  edgeType := R.label
  properties := R.properties x

theorem edgeOf (x : α) : R.type.edgeOf x = .ok (R.edge x) := by
  have hprops := R.type.toRecordType.toProperties_eq_ok R.listable.shape R.listable.accepted
    (R.listable.encode x)
  have hlabel : R.type.label x = R.label := R.listable.sameLabel x
  have htype : RecordType.edgeLabel (some R.label) R.shape.name = R.label := by
    simp [RecordType.edgeLabel, R.listable.labelled]
  simp only [ObjectType.edgeOf, RecordType.toEdge, hprops, hlabel, htype, bind, Except.bind, pure,
    Except.pure, Edge.withProperties]
  rfl

theorem expectKind (x : α) (role : String) : R.type.expectKind x .relationship role = .ok () :=
  if_pos (R.kind x)

theorem fromProperties (x : α) :
    R.type.fromProperties (R.properties x) R.type.initial = .ok x :=
  R.listable.fromProperties_keyed x

theorem satisfies_iff (x y : α) :
    satisfies (R.properties x) (R.properties y) = true ↔ Covers (R.fields x) (R.fields y) :=
  (satisfies_nonNull_iff _ _).trans (R.listable.covers_iff x y)

end RelationshipType

end PropertyGraph
