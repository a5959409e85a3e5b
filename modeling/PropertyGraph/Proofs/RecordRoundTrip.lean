import PropertyGraph.Proofs.RecordListing

/-!
# Records as elements and back

A record that becomes a vertex or an edge is read back over some other record of its type, of
which nothing may remain.  `Mappable` collects what a type has to promise: tags that stay clear
of each other and of foreign names, an encoder that writes its fields, all of them and no
others, and a decoder that undoes it.

> `Mappable.writesFields_keyed`: an element has one property for each field.

> Main result (`fromVertex_toVertex`): the record is read back, whatever record it is read over
> and whatever labels the element was given.
-/

namespace PropertyGraph

namespace RecordType

variable {α : Type}

/-- What a record type promises so that its records can be mapped to elements and back: accepted
tags that stay clear of each other and of the names of other fields, an encoder that writes the
declared fields and no others, and a decoder that undoes it. -/
structure Mappable (r : RecordType α) (s : Shape) (fields : α → Dict Json) : Prop where
  shape : r.shape? = some s
  accepted : s.checkTags r.tags = .ok ()
  apart : s.TagsApart r.tags
  encode : ∀ x, r.fieldsOf s x = .ok (fields x)
  declared : ∀ x f, (fields x).contains f = true ↔ f ∈ s.fields
  decode : ∀ x, r.decode (fields x) = .ok x

/-- The properties are one for each field, under different keys, with the values of the fields. -/
structure WritesFields (r : RecordType α) (s : Shape) (fields : Dict Json)
    (properties : PropertyMap) : Prop where
  distinct : (s.fields.map (propertyKey r.tags)).Nodup
  keys : properties.keys.Perm (s.fields.map (propertyKey r.tags))
  value : ∀ f ∈ s.fields, ∃ value, fields.get? f = some value ∧
    properties.get? (propertyKey r.tags f) = some value

namespace Mappable

variable {r : RecordType α} {s : Shape} {fields : α → Dict Json} (h : Mappable r s fields)

include h

/-- A record has a property under the key of each field and under no other key. -/
theorem mem_keys_keyed (x : α) (key : String) :
    key ∈ (r.keyed (fields x)).keys ↔ key ∈ s.fields.map (propertyKey r.tags) := by
  have hkeyed := r.get?_keyed h.accepted fun f => (h.declared x f).1
  rw [Dict.mem_keys_iff, List.mem_map]
  constructor
  · rintro ⟨value, hvalue⟩
    obtain ⟨f, hf, hkey⟩ := (hkeyed key value).1 hvalue
    exact ⟨f, (h.declared x f).1 (Dict.contains_of_get? hf), hkey⟩
  · rintro ⟨f, hf, hkey⟩
    obtain ⟨value, hvalue⟩ := Option.isSome_iff_exists.1 ((h.declared x f).2 hf)
    exact ⟨value, (hkeyed key value).2 ⟨f, hvalue, hkey⟩⟩

theorem writesFields_keyed (x : α) : r.WritesFields s (fields x) (r.keyed (fields x)) := by
  have hkeys : (s.fields.map (propertyKey r.tags)).Nodup :=
    ((Shape.checkTags_eq_ok_iff s r.tags).1 h.accepted).2
  refine ⟨hkeys, ?_, ?_⟩
  · exact (List.perm_ext_iff_of_nodup
      (Dict.nodup_keys_of_ascending (r.keyed (fields x)).ascending) hkeys).2 (h.mem_keys_keyed x)
  · intro f hf
    obtain ⟨value, hvalue⟩ := Option.isSome_iff_exists.1 ((h.declared x f).2 hf)
    exact ⟨value, hvalue,
      (r.get?_keyed h.accepted (fun f => (h.declared x f).1) _ _).2 ⟨f, hvalue, rfl⟩⟩

/-- The properties of a record are read over any other record as the record, in whatever order
they come. -/
theorem fromEntries_keyed (x d : α) {entries : List (String × Json)}
    (order : entries.Perm (r.keyed (fields x)).entries) : r.fromEntries entries d = .ok x := by
  have hoverlay := r.overlay_keyed h.accepted (fun f => (h.declared x f).1)
    (fun f hf => h.apart.ownsKey hf) order (fields d)
  have hunion : (fields d).union (fields x) = fields x :=
    Dict.union_eq_of_contains fun f hf => (h.declared x f).2 ((h.declared d f).1 hf)
  have hshape : r.checkedShape = .ok s := by
    simp only [checkedShape, h.shape, h.accepted]
  simp only [fromEntries, hshape, h.encode d, hoverlay, hunion, h.decode x, bind, Except.bind]

end Mappable

/-- **Records survive as elements.**  For every record type that keeps its promises, every record
and every list of labels, the record becomes a vertex with one property for each field, and the
vertex is read over any record of the type as the record that it was made of, in whatever order its
properties come.  The same goes for edges. -/
theorem fromVertex_toVertex {r : RecordType α} {s : Shape} {fields : α → Dict Json}
    (h : Mappable r s fields) (x d : α) :
    (∀ labels, ∃ v, r.toVertex x labels = .ok v ∧ r.WritesFields s (fields x) v.properties ∧
      r.fromVertex v d = .ok x ∧
      ∀ entries, entries.Perm v.properties.entries → r.fromEntries entries d = .ok x) ∧
    ∀ label, ∃ e, r.toEdge x label = .ok e ∧ r.WritesFields s (fields x) e.properties ∧
      r.fromEdge e d = .ok x ∧
      ∀ entries, entries.Perm e.properties.entries → r.fromEntries entries d = .ok x := by
  have hproperties := r.toProperties_eq_ok h.shape h.accepted (h.encode x)
  have hwrites := h.writesFields_keyed x
  have hread : ∀ entries, entries.Perm (r.keyed (fields x)).entries →
      r.fromEntries entries d = .ok x := fun _ => h.fromEntries_keyed x d
  constructor
  · intro labels
    refine ⟨{ labels := vertexLabels labels s.name, properties := r.keyed (fields x) }, ?_,
      hwrites, hread _ (.refl _), hread⟩
    simp only [toVertex, hproperties, bind, Except.bind, pure, Except.pure]
  · intro label
    refine ⟨{ edgeType := edgeLabel label s.name, properties := r.keyed (fields x) }, ?_,
      hwrites, hread _ (.refl _), hread⟩
    simp only [toEdge, hproperties, bind, Except.bind, pure, Except.pure]

/-- People can be mapped: both fields are always written. -/
theorem mappable_person :
    Mappable Sample.person.toRecordType ⟨"Person", ["name", "age"]⟩ Embedded.personFields where
  shape := Embedded.listable_person.shape
  accepted := Embedded.listable_person.accepted
  apart := Embedded.listable_person.apart
  encode := Embedded.listable_person.encode
  decode := Embedded.listable_person.decode
  declared := Embedded.contains_personFields

/-- A person without an age is read over one with an age, which does not remain. -/
theorem fromVertex_toVertex_person :
    let ann : String × Option Int := ("Ann", none)
    Mappable Sample.person.toRecordType ⟨"Person", ["name", "age"]⟩ Embedded.personFields ∧
      (∃ v, Sample.person.toVertex ann ["Guest", ""] = .ok v ∧
        v.properties.keys.Perm ["fullName", "age"] ∧
        Sample.person.fromVertex v ("Bob", some 3) = .ok ann) ∧
      ∃ e, Sample.person.toEdge ann (some "") = .ok e ∧
        Sample.person.fromEdge e ("Bob", some 3) = .ok ann := by
  intro ann
  obtain ⟨hvertex, hedge⟩ := fromVertex_toVertex mappable_person ann ("Bob", some 3)
  obtain ⟨v, hv, hwrites, hread, -⟩ := hvertex ["Guest", ""]
  obtain ⟨e, he, -, hback, -⟩ := hedge (some "")
  exact ⟨mappable_person, ⟨v, hv, hwrites.keys, hread⟩, e, he, hback⟩

end RecordType
end PropertyGraph
