import PropertyGraph.Proofs.KeyLookup
import PropertyGraph.Record.Mapping

/-!
# From fields to properties and back

Writing a record puts each field under its key (`keyed`); reading lays the properties over the
fields of a record that is there already (`overlay`).  Between the two stands the look-up of
keys, so everything here rests on `KeyLookup`.

`get?_keyed` and `get?_overlay` say what either direction does to a single field; the latter
needs that no two keys lead to one field, because there the order of the entries would
decide.  Where every field owns its key the two directions cancel:

> `overlay_keyed`: laying the properties of some fields over others, in any order, gives their
> union.

Accepted tags are not enough for that: see `resolve_swapped`.
-/

namespace PropertyGraph

namespace RecordType

variable {α : Type} (r : RecordType α)

/-! ## Writing -/

section Writing

variable {s : Shape} {fields : Dict Json}

/-- No two of the fields have one property key. -/
def KeyedApart (fields : Dict Json) : Prop :=
  ∀ f g, fields.contains f → fields.contains g → propertyKey r.tags f = propertyKey r.tags g →
    f = g

/-- Accepted tags keep the declared fields apart. -/
theorem keyedApart_of_declared (accepted : s.checkTags r.tags = .ok ())
    (declared : ∀ f, fields.contains f → f ∈ s.fields) : r.KeyedApart fields :=
  fun f g hf hg => Shape.propertyKey_injective accepted (declared f hf) (declared g hg)

/-- Fields with different keys get a property each. -/
theorem get?_keyed_of_apart (apart : r.KeyedApart fields) (key : String) (value : Json) :
    (r.keyed fields).get? key = some value ↔
      ∃ f, fields.get? f = some value ∧ propertyKey r.tags f = key := by
  have hcontains : ∀ e ∈ fields.entries, fields.contains e.1 := fun e he =>
    Dict.contains_of_get? (Dict.get?_of_mem he)
  have hkeys : ((fields.entries.map fun f => (propertyKey r.tags f.1, f.2)).map
      Prod.fst).Nodup := by
    rw [List.map_map, show Prod.fst ∘ (fun f : String × Json => (propertyKey r.tags f.1, f.2))
      = propertyKey r.tags ∘ Prod.fst from rfl, ← List.map_map]
    refine List.Nodup.map_on ?_ (Dict.nodup_keys_of_ascending fields.ascending)
    intro f hf g hg heq
    obtain ⟨e, he, rfl⟩ := List.mem_map.1 hf
    obtain ⟨e', he', rfl⟩ := List.mem_map.1 hg
    exact apart e.1 e'.1 (hcontains e he) (hcontains e' he') heq
  unfold keyed
  rw [Dict.get?_ofList_eq_some_iff hkeys, List.mem_map]
  constructor
  · rintro ⟨e, he, heq⟩
    obtain ⟨rfl, rfl⟩ := Prod.mk.inj heq
    exact ⟨e.1, Dict.get?_of_mem he, rfl⟩
  · rintro ⟨f, hf, rfl⟩
    exact ⟨(f, value), (fields.mem_entries_iff f value).2 hf, rfl⟩

/-- Declared fields with accepted tags get a property each: no two share a key. -/
theorem get?_keyed (accepted : s.checkTags r.tags = .ok ())
    (declared : ∀ f, fields.contains f → f ∈ s.fields) (key : String) (value : Json) :
    (r.keyed fields).get? key = some value ↔
      ∃ f, fields.get? f = some value ∧ propertyKey r.tags f = key :=
  r.get?_keyed_of_apart (r.keyedApart_of_declared accepted declared) key value

/-- A record of a type with accepted tags has the properties of its fields. -/
theorem toProperties_eq_ok {x : α} (shape : r.shape? = some s)
    (accepted : s.checkTags r.tags = .ok ()) (hfields : r.fieldsOf s x = .ok fields) :
    r.toProperties x = .ok (s, r.keyed fields) := by
  simp [toProperties, checkedShape, shape, accepted, hfields, bind, Except.bind, pure,
    Except.pure]

end Writing

/-! ## Reading -/

section Reading

variable (index : FieldIndex)

/-- Entries whose keys are all known can be laid over any fields. -/
theorem exists_overlay : ∀ (entries : List (String × Json)) (base : Dict Json),
    (∀ e ∈ entries, ∃ f, index.resolve e.1 = some f) →
      ∃ merged, overlay index base entries = .ok merged
  | [], base, _ => ⟨base, rfl⟩
  | (key, value) :: rest, base, h => by
    obtain ⟨f, hf⟩ := h (key, value) List.mem_cons_self
    obtain ⟨merged, hmerged⟩ := exists_overlay rest (base.insert f value)
      fun e he => h e (List.mem_cons_of_mem _ he)
    exact ⟨merged, by simp [overlay, hf, hmerged]⟩

/-- Where no two keys lead to one field, a field has the value of its key afterwards, and
otherwise the one it had. -/
theorem get?_overlay : ∀ (entries : List (String × Json)) {base merged : Dict Json},
    overlay index base entries = .ok merged →
    entries.Pairwise (fun a b => index.resolve a.1 ≠ index.resolve b.1) →
    ∀ f value, merged.get? f = some value ↔
      (∃ e ∈ entries, index.resolve e.1 = some f ∧ e.2 = value) ∨
        (∀ e ∈ entries, index.resolve e.1 ≠ some f) ∧ base.get? f = some value
  | [], base, merged, h, _, f, value => by
    have : base = merged := Except.ok.inj h
    simp [this]
  | (key, v) :: rest, base, merged, h, hdistinct, f, value => by
    obtain ⟨hhead, htail⟩ := List.pairwise_cons.1 hdistinct
    unfold overlay at h
    cases hres : index.resolve key with
    | none => simp [hres] at h
    | some g =>
      rw [hres] at h
      rw [get?_overlay rest h htail, Dict.get?_insert]
      simp only [List.mem_cons, exists_eq_or_imp, forall_eq_or_imp, hres]
      by_cases hfg : f = g
      · subst hfg
        -- The rest does not touch this field, so the entry at the head decides it.
        have hrest : ∀ e ∈ rest, index.resolve e.1 ≠ some f := fun e he heq =>
          hhead e he (by rw [hres, heq])
        constructor
        · rintro (⟨e, he, heq, -⟩ | ⟨-, hv⟩)
          · exact absurd heq (hrest e he)
          · exact Or.inl (Or.inl ⟨rfl, by simpa using hv⟩)
        · rintro ((⟨-, rfl⟩ | ⟨e, he, heq, -⟩) | ⟨⟨hne, -⟩, -⟩)
          · exact Or.inr ⟨hrest, by simp⟩
          · exact absurd heq (hrest e he)
          · exact absurd rfl hne
      · have hgf : (some g : Option String) ≠ some f := fun heq => hfg (Option.some.inj heq).symm
        rw [if_neg hfg]
        simp [hgf]

end Reading

/-! ## Both directions together -/

section Together

variable {s : Shape} {fields : Dict Json} (accepted : s.checkTags r.tags = .ok ())
  (declared : ∀ f, fields.contains f → f ∈ s.fields) (owned : ∀ f ∈ s.fields, s.OwnsKey r.tags f)

include accepted declared owned

/-- A property is read into a field that was written to it. -/
theorem resolve_of_mem_keyed {e : String × Json} (he : e ∈ (r.keyed fields).entries) :
    ∃ f, fields.get? f = some e.2 ∧ propertyKey r.tags f = e.1 ∧
      (FieldIndex.ofShape s r.tags).resolve e.1 = some f := by
  obtain ⟨f, hf, hkey⟩ := (r.get?_keyed accepted declared e.1 e.2).1 (Dict.get?_of_mem he)
  have hdecl : f ∈ s.fields := declared f (Dict.contains_of_get? hf)
  obtain ⟨found, hres, howns⟩ := Shape.resolve_propertyKey r.tags hdecl
  rw [howns.2 (owned f hdecl), hkey] at hres
  exact ⟨f, hf, hkey, hres⟩

/-- The properties that are read into a field are those it was written to, and no others. -/
theorem exists_mem_keyed_iff (f : String) (value : Json) :
    (∃ e ∈ (r.keyed fields).entries,
      (FieldIndex.ofShape s r.tags).resolve e.1 = some f ∧ e.2 = value) ↔
      fields.get? f = some value := by
  constructor
  · rintro ⟨e, he, hres, rfl⟩
    obtain ⟨g, hg, -, hres'⟩ := r.resolve_of_mem_keyed accepted declared owned he
    rw [hres] at hres'
    rwa [Option.some.inj hres']
  · intro hf
    have hdecl : f ∈ s.fields := declared f (Dict.contains_of_get? hf)
    have hmem : (propertyKey r.tags f, value) ∈ (r.keyed fields).entries :=
      (Dict.mem_entries_iff _ _ _).2 ((r.get?_keyed accepted declared _ value).2 ⟨f, hf, rfl⟩)
    obtain ⟨found, hres, howns⟩ := Shape.resolve_propertyKey r.tags hdecl
    rw [howns.2 (owned f hdecl)] at hres
    exact ⟨_, hmem, hres, rfl⟩

/-- No two properties are read into one field. -/
theorem pairwise_resolve_keyed : (r.keyed fields).entries.Pairwise fun a b =>
    (FieldIndex.ofShape s r.tags).resolve a.1 ≠ (FieldIndex.ofShape s r.tags).resolve b.1 := by
  refine List.Pairwise.imp_of_mem ?_ (r.keyed fields).ascending
  intro a b ha hb (hlt : a.1 < b.1) heq
  obtain ⟨f, -, hkf, hrf⟩ := r.resolve_of_mem_keyed accepted declared owned ha
  obtain ⟨g, -, hkg, hrg⟩ := r.resolve_of_mem_keyed accepted declared owned hb
  have hfg : f = g := Option.some.inj (hrf.symm.trans (heq.trans hrg))
  rw [← hkf, ← hkg, hfg] at hlt
  exact String.lt_irrefl _ hlt

/-- Where fields own their keys, laying their properties over other fields is a union, in whatever
order they come. -/
theorem overlay_keyed {entries : List (String × Json)}
    (order : entries.Perm (r.keyed fields).entries) (base : Dict Json) :
    overlay (FieldIndex.ofShape s r.tags) base entries = .ok (base.union fields) := by
  have hread := fun f value => r.exists_mem_keyed_iff accepted declared owned f value
  simp only [← order.mem_iff] at hread
  have hdistinct : entries.Pairwise fun a b =>
      (FieldIndex.ofShape s r.tags).resolve a.1 ≠ (FieldIndex.ofShape s r.tags).resolve b.1 :=
    (order.pairwise_iff fun hne => hne.symm).2 (r.pairwise_resolve_keyed accepted declared owned)
  obtain ⟨merged, hmerged⟩ := exists_overlay (FieldIndex.ofShape s r.tags) entries base
    fun e he => by
      obtain ⟨f, -, -, hres⟩ :=
        r.resolve_of_mem_keyed accepted declared owned (order.mem_iff.1 he)
      exact ⟨f, hres⟩
  rw [hmerged]
  refine congrArg Except.ok (Dict.ext_get? fun f => Option.ext fun value => ?_)
  have hnone : (∀ e ∈ entries, (FieldIndex.ofShape s r.tags).resolve e.1 ≠ some f) ↔
      fields.get? f = none := by
    rw [Option.eq_none_iff_forall_ne_some]
    constructor
    · intro h v hv
      obtain ⟨e, he, hres, -⟩ := (hread f v).2 hv
      exact h e he hres
    · intro h e he hres
      exact h e.2 ((hread f e.2).1 ⟨e, he, hres, rfl⟩)
  rw [get?_overlay _ _ hmerged hdistinct, hread, hnone, Dict.get?_union, Option.or_eq_some_iff]

end Together

end RecordType

/-! ## When keys lead back -/

/-- **Keys lead back exactly where they are owned.** With accepted tags the key of a declared
field always leads to a declared field, and to the field itself exactly when it owns the key:
when no other field has that name or, in want of the exact name, that name in one case, and no
later tag of another field repeats it.  Where all fields own their keys, a vertex or an edge
made from a record that writes declared fields only is read back field by field: over any
fields it is their union with those written. -/
theorem resolve_propertyKey_iff {s : Shape} {tags : List Tag}
    (accepted : s.checkTags tags = .ok ()) :
    (∀ field ∈ s.fields, ∃ found ∈ s.fields,
      (FieldIndex.ofShape s tags).resolve (propertyKey tags field) = some found ∧
        (found = field ↔ s.OwnsKey tags field)) ∧
    ((∀ field ∈ s.fields, s.OwnsKey tags field) →
      ∀ {α : Type} (r : RecordType α) (x : α) (fields base : Dict Json), r.shape? = some s →
        r.tags = tags → r.fieldsOf s x = .ok fields → (∀ f, fields.contains f → f ∈ s.fields) →
        (∀ labels, ∃ v, r.toVertex x labels = .ok v ∧
          RecordType.overlay (FieldIndex.ofShape s tags) base v.properties.entries =
            .ok (base.union fields)) ∧
        (∀ label, ∃ e, r.toEdge x label = .ok e ∧
          RecordType.overlay (FieldIndex.ofShape s tags) base e.properties.entries =
            .ok (base.union fields))) := by
  constructor
  · intro field hfield
    obtain ⟨found, hres, howns⟩ := Shape.resolve_propertyKey tags hfield
    exact ⟨found, Shape.mem_of_resolve accepted hres, hres, howns⟩
  · intro owned α r x fields base shape htags hfields declared
    subst htags
    have hprops := r.toProperties_eq_ok shape accepted hfields
    have hover := r.overlay_keyed accepted declared owned (.refl _) base
    constructor
    · intro labels
      refine ⟨⟨none, RecordType.vertexLabels labels s.name, r.keyed fields⟩, ?_, hover⟩
      simp only [RecordType.toVertex, hprops, bind, Except.bind, pure, Except.pure]
    · intro label
      refine ⟨{ edgeType := RecordType.edgeLabel label s.name, properties := r.keyed fields },
        ?_, hover⟩
      simp only [RecordType.toEdge, hprops, bind, Except.bind, pure, Except.pure]

/-- A person with a name, stored under a tag, and an age that may be unknown. -/
def Sample.person : ObjectType (String × Option Int) where
  typeName := "Person"
  shape? := some ⟨"Person", ["name", "age"]⟩
  tags := [⟨"name", "fullName"⟩]
  encode p := .ok (.object [("age", p.2.elim .null .integer), ("name", .string p.1)])
  decode d :=
    match d.get? "name", d.get? "age" with
    | some (.string name), some (.integer age) => .ok (name, some age)
    | some (.string name), some .null => .ok (name, none)
    | _, _ => .error "no person"
  initial := ("", none)
  label _ := "Person"
  kind _ := .vertex

/-- The keys of a tagged type lead back, and so does a vertex made from a record of it. -/
theorem resolve_tagged :
    let s : Shape := ⟨"Person", ["name", "age"]⟩
    let tags : List Tag := [⟨"name", "fullName"⟩]
    s.checkTags tags = .ok () ∧ s.OwnsKey tags "name" ∧
      (∃ found ∈ s.fields,
        (FieldIndex.ofShape s tags).resolve (propertyKey tags "name") = some found ∧
          (found = "name" ↔ s.OwnsKey tags "name")) ∧
      ∃ v, Sample.person.toVertex ("Ann", some 7) [] = .ok v ∧
        RecordType.overlay (FieldIndex.ofShape s tags) ∅ v.properties.entries =
          .ok (Dict.union ∅ (Dict.ofList [("age", .integer 7), ("name", .string "Ann")])) := by
  intro s tags
  have accepted : s.checkTags tags = .ok () := rfl
  have hname : s.OwnsKey tags "name" := Or.inr ⟨by decide +kernel, rfl⟩
  have hage : s.OwnsKey tags "age" := Or.inl (Shape.named?_self (by decide))
  have owned : ∀ field ∈ s.fields, s.OwnsKey tags field := by
    intro field hfield
    rcases List.mem_cons.1 hfield with rfl | hfield
    · exact hname
    · rwa [List.mem_singleton.1 hfield]
  have declared : ∀ f,
      (Dict.ofList [("age", Json.integer 7), ("name", .string "Ann")]).contains f →
        f ∈ s.fields := by
    intro f hf
    rw [Dict.contains, Dict.get?_ofList, List.lookup_isSome_iff] at hf
    obtain ⟨p, hp, heq⟩ := hf
    simp at hp
    rcases hp with rfl | rfl <;> simp_all [s]
  obtain ⟨hkey, hback⟩ := resolve_propertyKey_iff accepted
  have hvertex :=
    (hback owned Sample.person.toRecordType ("Ann", some 7) _ ∅ rfl rfl rfl declared).1
  exact ⟨accepted, hname, hkey "name" (by decide), hvertex []⟩

/-- Two fields that take each other's name as their tag are accepted, but the key of either
leads to the other: the index asks for names before it asks for tags. -/
theorem resolve_swapped :
    (Shape.mk "Swap" ["name", "age"]).checkTags [⟨"name", "age"⟩, ⟨"age", "name"⟩] = .ok () ∧
      (FieldIndex.ofShape ⟨"Swap", ["name", "age"]⟩ [⟨"name", "age"⟩, ⟨"age", "name"⟩]).resolve
        (propertyKey [⟨"name", "age"⟩, ⟨"age", "name"⟩] "name") = some "age" := by
  refine ⟨rfl, ?_⟩
  rw [show propertyKey [⟨"name", "age"⟩, ⟨"age", "name"⟩] "name" = "age" from rfl,
    FieldIndex.resolve_eq, Shape.named?_self (by simp)]
  rfl

end PropertyGraph
