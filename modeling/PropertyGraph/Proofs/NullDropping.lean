import PropertyGraph.Proofs.GraphSearch
import PropertyGraph.Proofs.PropertyMapping

/-!
# Records that survive without their nulls

A record is stored without its nulls, and read back over the initial record of its type.  What
was left out is then whatever the initial record says, so the record survives if that is
nothing either.  `Listable` collects what a type has to promise:

> `Listable.fromProperties_keyed`: a stored record is read back as itself.

> `Listable.covers_iff`: comparing stored properties is comparing fields.

"Nothing" has two forms, null and missing, and the form that a field had is not stored: the one of
the initial record takes its place.  So the initial record has to be null where a record can be
null, and to lack what a record can lack.
-/

namespace PropertyGraph

open Embedded (Covers)

/-- A field has no value: it is missing or null. -/
def Unset (fields : Dict Json) (field : String) : Prop :=
  fields.get? field = none ∨ fields.get? field = some .null

/-- Dropping nulls leaves out the fields without a value and keeps the others. -/
theorem get?_nonNull_eq (fields : Dict Json) (field : String) :
    Unset fields field ∧ (nonNull fields).get? field = none ∨
      ¬ Unset fields field ∧ (nonNull fields).get? field = fields.get? field := by
  rw [nonNull, Dict.get?_filter, Unset]
  cases hfield : fields.get? field with
  | none => exact Or.inl ⟨Or.inl rfl, rfl⟩
  | some value =>
    cases value with
    | null => exact Or.inl ⟨Or.inr rfl, rfl⟩
    | _ =>
      refine Or.inr ⟨?_, rfl⟩
      rintro (hnone | hnull)
      · cases hnone
      · cases hnull

/-- Equal values are both null or both not. -/
theorem isNull_eq_false_of_beq {a b : Json} (h : (a == b) = true) (hb : b.isNull = false) :
    a.isNull = false := by
  cases a with
  | null =>
    cases b with
    | null => cases hb
    | _ => cases h
  | _ => rfl

/-- What a record type promises so that its records survive in a graph: one label that is not
empty, and vertices; tags that are accepted and stay clear of each other and of the names of
other fields; an encoder that writes declared fields only and can be undone; and an initial
record that is null in every field that a record can have as null, and lacks every field that a
record can lack. -/
structure Listable {α : Type} (t : ObjectType α) (label : String) (s : Shape)
    (fields : α → Dict Json) : Prop where
  sameLabel : ∀ x, t.label x = label
  labelled : label.isEmpty = false
  kind : ∀ x, t.kind x = .vertex
  shape : t.shape? = some s
  accepted : s.checkTags t.tags = .ok ()
  apart : s.TagsApart t.tags
  encode : ∀ x, t.fieldsOf s x = .ok (fields x)
  declared : ∀ x f, (fields x).contains f → f ∈ s.fields
  decode : ∀ x, t.decode (fields x) = .ok x
  /-- What can be null is null initially. -/
  nulls : ∀ x f, (fields x).get? f = some .null → (fields t.initial).get? f = some .null
  /-- What can be missing is missing initially. -/
  gaps : ∀ x f, (fields x).get? f = none → (fields t.initial).get? f = none

/-- Records that all have the same fields lack the same. -/
theorem get?_eq_none_of_contains {α : Type} {fields : α → Dict Json} {names : List String}
    (hnames : ∀ x f, (fields x).contains f ↔ f ∈ names) {x : α} {f : String}
    (hgap : (fields x).get? f = none) (y : α) : (fields y).get? f = none := by
  rw [← Option.not_isSome_iff_eq_none] at hgap ⊢
  exact fun hy => hgap ((hnames x f).2 ((hnames y f).1 hy))

/-! ## Properties without nulls -/

section Keyed

variable {α : Type} (r : RecordType α) {s : Shape} (accepted : s.checkTags r.tags = .ok ())

theorem contains_of_nonNull {fields : Dict Json} {f : String} (h : (nonNull fields).contains f) :
    fields.contains f := by
  obtain ⟨value, hvalue⟩ := Option.isSome_iff_exists.1 h
  exact Dict.contains_of_get? ((get?_nonNull fields f value).1 hvalue).1

include accepted

/-- Nulls can be dropped before or after fields get their keys. -/
theorem nonNull_keyed {fields : Dict Json} (declared : ∀ f, fields.contains f → f ∈ s.fields) :
    nonNull (r.keyed fields) = r.keyed (nonNull fields) := by
  refine Dict.ext_get? fun key => Option.ext fun value => ?_
  rw [get?_nonNull, r.get?_keyed accepted declared,
    r.get?_keyed accepted fun f hf => declared f (contains_of_nonNull hf)]
  constructor
  · rintro ⟨⟨f, hf, hkey⟩, hvalue⟩
    exact ⟨f, (get?_nonNull fields f value).2 ⟨hf, hvalue⟩, hkey⟩
  · rintro ⟨f, hf, hkey⟩
    obtain ⟨hget, hvalue⟩ := (get?_nonNull fields f value).1 hf
    exact ⟨⟨f, hget, hkey⟩, hvalue⟩

/-- Stored properties have those of another record exactly if the fields have its fields. -/
theorem covers_keyed {stored asked : Dict Json}
    (hstored : ∀ f, stored.contains f → f ∈ s.fields)
    (hasked : ∀ f, asked.contains f → f ∈ s.fields) :
    Covers (nonNull (r.keyed stored)) (r.keyed asked) ↔ Covers stored asked := by
  constructor
  · intro h f value hvalue hnull
    obtain ⟨found, hfound, heq⟩ := h (propertyKey r.tags f) value
      ((r.get?_keyed accepted hasked _ _).2 ⟨f, hvalue, rfl⟩) hnull
    obtain ⟨g, hg, hkey⟩ := (r.get?_keyed accepted hstored _ _).1
      ((get?_nonNull _ _ _).1 hfound).1
    have hgf : g = f := Shape.propertyKey_injective accepted
      (hstored g (Dict.contains_of_get? hg)) (hasked f (Dict.contains_of_get? hvalue)) hkey
    exact ⟨found, hgf ▸ hg, heq⟩
  · intro h key value hvalue hnull
    obtain ⟨f, hf, rfl⟩ := (r.get?_keyed accepted hasked _ _).1 hvalue
    obtain ⟨found, hfound, heq⟩ := h f value hf hnull
    refine ⟨found, (get?_nonNull _ _ _).2 ⟨?_, isNull_eq_false_of_beq heq hnull⟩, heq⟩
    exact (r.get?_keyed accepted hstored _ _).2 ⟨f, hfound, rfl⟩

end Keyed

/-! ## A type that keeps its promises -/

namespace Listable

variable {α : Type} {t : ObjectType α} {label : String} {s : Shape} {fields : α → Dict Json}
  (h : Listable t label s fields)

include h

/-- The vertex of a record: its label, and its properties without the nulls. -/
theorem vertexOf (x : α) : t.vertexOf x =
    .ok { labels := [label], properties := nonNull (t.keyed (fields x)) } := by
  have hprops := t.toRecordType.toProperties_eq_ok h.shape h.accepted (h.encode x)
  have hlabels : RecordType.vertexLabels [label] s.name = [label] := by
    simp [RecordType.vertexLabels, h.labelled]
  simp only [ObjectType.vertexOf, RecordType.toVertex, hprops, h.sameLabel, hlabels, bind,
    Except.bind, pure, Except.pure, Vertex.withProperties]

/-- Where a record has no value, the initial one says so in the same way. -/
theorem get?_initial {x : α} {f : String} (hx : Unset (fields x) f) :
    (fields t.initial).get? f = (fields x).get? f := by
  rcases hx with hgap | hnull
  · rw [h.gaps x f hgap, hgap]
  · rw [h.nulls x f hnull, hnull]

/-- The fields of a record without its nulls, over those of the initial record, are the fields of
the record. -/
theorem union_initial (x : α) : (fields t.initial).union (nonNull (fields x)) = fields x := by
  refine Dict.ext_get? fun f => ?_
  rw [Dict.get?_union]
  rcases get?_nonNull_eq (fields x) f with ⟨hx, hdropped⟩ | ⟨hx, hkept⟩
  · rw [hdropped, Option.none_or, h.get?_initial hx]
  · have hset : ((fields x).get? f).isSome = true := by
      rw [Option.isSome_iff_ne_none]
      exact fun hnone => hx (Or.inl hnone)
    rw [hkept, Option.or_of_isSome hset]

/-- A record that was stored is read back. -/
theorem fromProperties_keyed (x : α) :
    t.fromProperties (nonNull (t.keyed (fields x))) t.initial = .ok x := by
  have declared : ∀ f, (nonNull (fields x)).contains f → f ∈ s.fields := fun f hf =>
    h.declared x f (contains_of_nonNull hf)
  have hoverlay := t.toRecordType.overlay_keyed h.accepted declared
    (fun f hf => h.apart.ownsKey hf) (.refl _) (fields t.initial)
  have hshape : t.checkedShape = .ok s := by
    simp only [RecordType.checkedShape, h.shape, h.accepted]
  rw [nonNull_keyed t.toRecordType h.accepted (h.declared x)]
  simp only [RecordType.fromProperties, RecordType.fromEntries, hshape, h.encode t.initial,
    hoverlay, h.union_initial x, h.decode x, bind, Except.bind]

/-- A stored record has the stored properties of another one exactly if its fields do. -/
theorem covers_iff (x y : α) :
    Covers (nonNull (t.keyed (fields x))) (t.keyed (fields y)) ↔ Covers (fields x) (fields y) :=
  covers_keyed t.toRecordType h.accepted (h.declared x) (h.declared y)

end Listable
end PropertyGraph
