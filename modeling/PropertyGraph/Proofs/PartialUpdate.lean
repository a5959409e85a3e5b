import PropertyGraph.Connection
import PropertyGraph.Proofs.DecodingOrder
import PropertyGraph.Proofs.NormalForms

/-!
# Reading a few properties over a record

Properties are read over a record that is there already: its encoding is taken apart, the
properties are laid over it, and the whole is decoded again.  A field that no property leads to is
decoded as well, from what the encoder wrote for it, or from nothing if the encoder left it out.
Whether it comes back is thus a matter between the encoder and the decoder of the type.

`readInto` is the reading in place, with the record as its state, and `run_readInto` says that it
is the pure one.  What the record types have in common is that they are made of fields, each read
on its own (`Fieldwise`); all types that schemas describe are (`Schema.fieldwise`).

> `get_eq_iff`: a field that no property leads to keeps its value exactly if that is what the
> decoder reads for it in the encoding of the record.

> `fromEntries_eq_ok_iff_merges`: when reading succeeds, and with what.

> Main result (`readInto_frame`): where the encoder omits a field only for the value that the
> decoder gives it, reading changes the fields that properties lead to and no others (`Frame`),
> and a reading that fails changes nothing.

For the types that schemas describe nothing has to be asked of the values of a record, since they
are in normal form: `get_of_fromEntries`.  Other types can hold values that JSON has no form for,
and these do not come back: `readInto_infiniteCap`.
-/

namespace PropertyGraph

namespace RecordType

variable {α : Type} (r : RecordType α)

/-! ## Reading in place -/

section InPlace

/-- Sets the field that the key of an entry leads to. -/
def assign (index : FieldIndex) (fields : Dict Json) (entry : String × Json) :
    Except GraphError (Dict Json) :=
  match index.resolve entry.1 with
  | none => .error (.unknownProperty entry.1)
  | some field => .ok (fields.insert field entry.2)

/-- Reads property entries, in the given order, into the record that is the state. -/
def readInto (entries : List (String × Json)) : ExceptT GraphError (StateM α) Unit := do
  let shape ← MonadExcept.ofExcept r.checkedShape
  let mut current ← MonadExcept.ofExcept (r.fieldsOf shape (← get))
  for entry in entries do
    current ← MonadExcept.ofExcept (assign (FieldIndex.ofShape shape r.tags) current entry)
  match r.decode current with
  | .ok y => set y
  | .error reason => throw (.decode shape.name reason)

/-- A record that was read replaces the one that was there. -/
def inPlace (result : Except GraphError α) (d : α) : Reply α Unit :=
  match result with
  | .ok y => (.ok (), y)
  | .error e => (.error e, d)

/-- The loop over the entries lays them over the fields. -/
theorem forIn_assign (index : FieldIndex) (entries : List (String × Json)) : ∀ fields : Dict Json,
    (forIn entries fields fun e fields => do
        let fields ← MonadExcept.ofExcept (assign index fields e)
        pure (.yield fields) : ExceptT GraphError (StateM α) (Dict Json)) =
      MonadExcept.ofExcept (overlay index fields entries) := by
  induction entries with
  | nil => intro fields; rfl
  | cons e rest ih =>
    intro fields
    rw [List.forIn_cons]
    unfold overlay assign
    cases index.resolve e.1 with
    | none => rfl
    | some f => exact ih (fields.insert f e.2)

/-- A step that does not touch the state ends the run where it fails. -/
theorem run_ofExcept_bind {β : Type} (x : Except GraphError β)
    (next : β → ExceptT GraphError (StateM α) Unit) (d : α) :
    (MonadExcept.ofExcept x >>= next).run.run d =
      match x with
      | .ok b => (next b).run.run d
      | .error e => (.error e, d) := by
  cases x <;> rfl

theorem run_get_bind (next : α → ExceptT GraphError (StateM α) Unit) (d : α) :
    (get >>= next).run.run d = (next d).run.run d := rfl

theorem inPlace_bind {β : Type} (x : Except GraphError β) (next : β → Except GraphError α)
    (d : α) : inPlace (x >>= next) d =
      match x with
      | .ok b => inPlace (next b) d
      | .error e => (.error e, d) := by
  cases x <;> rfl

/-- Reading in place replaces the record by the one that is read over it. -/
theorem run_readInto (entries : List (String × Json)) (d : α) :
    (r.readInto entries).run.run d = inPlace (r.fromEntries entries d) d := by
  unfold readInto fromEntries
  simp only [forIn_assign, run_ofExcept_bind, run_get_bind, inPlace_bind]
  -- Either side is now the same checks in the same order; they are gone through one by one.
  cases r.checkedShape with
  | error e => rfl
  | ok s =>
    dsimp only
    cases r.fieldsOf s d with
    | error e => rfl
    | ok fields =>
      dsimp only
      cases overlay (FieldIndex.ofShape s r.tags) fields entries with
      | error e => rfl
      | ok merged =>
        dsimp only
        cases r.decode merged <;> rfl

end InPlace

/-! ## What a type declares and writes -/

/-- The type has a field of that name. -/
def Declares (f : String) : Prop := ∃ s, r.shape? = some s ∧ f ∈ s.fields

/-- A key is read into a field. -/
def LeadsTo (key f : String) : Prop :=
  ∃ s, r.shape? = some s ∧ (FieldIndex.ofShape s r.tags).resolve key = some f

/-- The fields of a record as they are written, unless it is not written as an object. -/
def written? (x : α) : Option (Dict Json) :=
  match r.encode x with
  | .ok (.object members) => some (Dict.ofList members)
  | _ => none

/-- The encoder writes a field of a record. -/
def Writes (x : α) (f : String) (value : Json) : Prop :=
  ∃ fields, r.written? x = some fields ∧ fields.get? f = some value

/-- The encoder leaves out a field of a record. -/
def Omits (x : α) (f : String) : Prop := ∃ fields, r.written? x = some fields ∧ fields.get? f = none

/-- The type has a shape, its tags are accepted, and the record is written as an object. -/
def PassesChecks (x : α) : Prop :=
  (∃ s, r.shape? = some s ∧ s.checkTags r.tags = .ok ()) ∧ ∃ fields, r.written? x = some fields

/-- No two properties are read into one field. -/
def KeysApart (properties : PropertyMap) : Prop :=
  ∀ key key' f, properties.contains key → properties.contains key' →
    r.LeadsTo key f → r.LeadsTo key' f → key = key'

/-- Every property is read into some field. -/
def KeysKnown (properties : PropertyMap) : Prop :=
  ∀ key, properties.contains key → ∃ f, r.LeadsTo key f

/-- Fields in which properties have taken the places that their keys lead to, and no others. -/
structure Merges (properties : PropertyMap) (fields merged : Dict Json) : Prop where
  given : ∀ f key value, r.LeadsTo key f → properties.get? key = some value →
    merged.get? f = some value
  others : ∀ f, (∀ key, properties.contains key → ¬ r.LeadsTo key f) →
    merged.get? f = fields.get? f

/-- A record type that is made of fields: a record has a value for each, and decoding gives each
field the value that is read for it, from its entry or in want of one. -/
structure Fieldwise where
  Value : String → Type
  get : (f : String) → α → Value f
  /-- Reads a field.  Without an entry it fails if the field is required. -/
  read : (f : String) → Option Json → Except String (Value f)
  read_of_decode : ∀ {fields : Dict Json} {x : α}, r.decode fields = .ok x →
    ∀ f, r.Declares f → read f (fields.get? f) = .ok (get f x)

namespace Fieldwise

variable {r} (F : r.Fieldwise)

/-- What the encoder writes for a field is read as the value that the field has. -/
def ReadsBack (x : α) (f : String) : Prop :=
  ∀ value, r.Writes x f value → F.read f (some value) = .ok (F.get f x)

/-- The decoder does without a field only if it then has the value that it was omitted for. -/
def OmitsSafely (x : α) (f : String) : Prop :=
  r.Omits x f → (∃ reason, F.read f none = .error reason) ∨ F.read f none = .ok (F.get f x)

/-- What reading properties over a record does, given its outcome and the record that is there
afterwards. -/
structure Frame (properties : PropertyMap) (d : α) (reply : Reply α Unit) : Prop where
  /-- Reading gives what the decoder makes of the fields with the properties in their places. -/
  outcome : ∀ y, reply = (.ok (), y) ↔ r.PassesChecks d ∧ r.KeysKnown properties ∧
    ∃ fields merged, r.written? d = some fields ∧ r.Merges properties fields merged ∧
      r.decode merged = .ok y
  /-- A field that no key leads to keeps its value, provided that it is read back if written. -/
  kept : reply.1 = .ok () → ∀ f, r.Declares f →
    (∀ key, properties.contains key → ¬ r.LeadsTo key f) →
      (F.get f reply.2 = F.get f d ↔ F.ReadsBack d f)
  /-- Any other field has the value that is read from its key. -/
  changed : reply.1 = .ok () → ∀ f key value, r.LeadsTo key f →
    properties.get? key = some value → F.read f (some value) = .ok (F.get f reply.2)
  /-- A key is refused exactly if some key leads nowhere and nothing else was wrong before. -/
  refused : (∃ key, reply.1 = .error (.unknownProperty key)) ↔
    r.PassesChecks d ∧ ∃ key, properties.contains key ∧ ∀ f, ¬ r.LeadsTo key f
  /-- The key that is refused is such a key. -/
  blamed : ∀ key, reply.1 = .error (.unknownProperty key) →
    properties.contains key ∧ ∀ f, ¬ r.LeadsTo key f
  /-- Nothing has changed after an error. -/
  unchanged : ∀ e, reply.1 = .error e → reply.2 = d

end Fieldwise

/-! ## Errors -/

section Errors

variable {r}

theorem fieldsOf_eq_ok_iff {s : Shape} {x : α} {fields : Dict Json} :
    r.fieldsOf s x = .ok fields ↔ r.written? x = some fields := by
  unfold fieldsOf written?
  rcases r.encode x with reason | value
  · simp
  · cases value <;> simp

theorem leadsTo_iff {s : Shape} (shape : r.shape? = some s) (key f : String) :
    r.LeadsTo key f ↔ (FieldIndex.ofShape s r.tags).resolve key = some f := by
  simp [LeadsTo, shape]

theorem LeadsTo.unique {key f g : String} (hf : r.LeadsTo key f) (hg : r.LeadsTo key g) :
    f = g := by
  obtain ⟨s, shape, hf⟩ := hf
  exact Option.some.inj (hf.symm.trans ((leadsTo_iff shape key g).1 hg))

theorem passesChecks_iff (x : α) :
    r.PassesChecks x ↔ ∃ s fields, r.checkedShape = .ok s ∧ r.fieldsOf s x = .ok fields := by
  simp only [PassesChecks, checkedShape_eq_ok_iff, fieldsOf_eq_ok_iff, exists_and_left,
    exists_and_right]

/-- Laying entries over fields fails only for a key that leads nowhere. -/
theorem exists_unknown_of_overlay {index : FieldIndex} {e : GraphError} :
    ∀ {entries : List (String × Json)} {base : Dict Json}, overlay index base entries = .error e →
      ∃ entry ∈ entries, index.resolve entry.1 = none ∧ e = .unknownProperty entry.1
  | (key, value) :: rest, base, h => by
    unfold overlay at h
    cases hres : index.resolve key with
    | none =>
      rw [hres] at h
      exact ⟨(key, value), List.mem_cons_self, hres, (Except.error.inj h).symm⟩
    | some f =>
      rw [hres] at h
      obtain ⟨entry, hmem, hentry⟩ := exists_unknown_of_overlay h
      exact ⟨entry, List.mem_cons_of_mem _ hmem, hentry⟩

/-- A key that leads nowhere is refused wherever it stands. -/
theorem overlay_eq_error_of_unknown {index : FieldIndex} {entries : List (String × Json)}
    {entry : String × Json} (hentry : entry ∈ entries) (hnone : index.resolve entry.1 = none)
    (base : Dict Json) : ∃ e, overlay index base entries = .error e := by
  cases h : overlay index base entries with
  | error e => exact ⟨e, rfl⟩
  | ok merged =>
    obtain ⟨f, hf⟩ := known_of_overlay h entry hentry
    cases hnone.symm.trans hf

theorem checkTags_ne_unknownProperty (s : Shape) (tags : List Tag) (key : String) :
    s.checkTags tags ≠ .error (.unknownProperty key) := by
  unfold Shape.checkTags
  cases tags.find? fun t => !s.hasField t.field with
  | some t => simp
  | none => cases Shape.firstClash (propertyKey tags) [] s.fields <;> simp

theorem checkedShape_ne_unknownProperty (key : String) :
    r.checkedShape ≠ .error (.unknownProperty key) := by
  unfold checkedShape
  cases r.shape? with
  | none => simp
  | some s =>
    cases htags : s.checkTags r.tags with
    | error e =>
      have hne : e ≠ .unknownProperty key := fun heq =>
        checkTags_ne_unknownProperty s r.tags key (heq ▸ htags)
      simpa [htags] using hne
    | ok _ => simp [htags]

/-- Reading reports an unknown property exactly if laying the entries over the fields does: the
checks before it and the decoder after it have errors of their own. -/
theorem fromEntries_eq_unknownProperty_iff {entries : List (String × Json)} {d : α}
    {key : String} : r.fromEntries entries d = .error (.unknownProperty key) ↔
      ∃ s fields, r.checkedShape = .ok s ∧ r.fieldsOf s d = .ok fields ∧
        overlay (FieldIndex.ofShape s r.tags) fields entries = .error (.unknownProperty key) := by
  unfold fromEntries
  cases hshape : r.checkedShape with
  | error e =>
    have hne : e ≠ .unknownProperty key := fun heq =>
      checkedShape_ne_unknownProperty key (heq ▸ hshape)
    simp [bind, Except.bind, hne]
  | ok s =>
    cases hfields : r.fieldsOf s d with
    | error e =>
      have hne : e ≠ .unknownProperty key := by
        rintro rfl
        unfold fieldsOf at hfields
        split at hfields <;> cases hfields
      simp [bind, Except.bind, hfields, hne]
    | ok fields =>
      cases hmerged : overlay (FieldIndex.ofShape s r.tags) fields entries with
      | error e => simp [bind, Except.bind, hfields, hmerged]
      | ok merged =>
        cases hdecode : r.decode merged <;> simp [bind, Except.bind, hfields, hmerged, hdecode]

variable {properties : PropertyMap} {entries : List (String × Json)} {d : α}

/-- The unknown property that is reported is one of the properties, and its key leads nowhere. -/
theorem leadsNowhere_of_fromEntries (order : entries.Perm properties.entries) {key : String}
    (h : r.fromEntries entries d = .error (.unknownProperty key)) :
    properties.contains key ∧ ∀ f, ¬ r.LeadsTo key f := by
  obtain ⟨s, fields, hshape, -, herror⟩ := fromEntries_eq_unknownProperty_iff.1 h
  obtain ⟨shape, -⟩ := r.checkedShape_eq_ok_iff.1 hshape
  obtain ⟨entry, hmem, hnone, heq⟩ := exists_unknown_of_overlay herror
  cases heq
  refine ⟨Dict.contains_of_get? (Dict.get?_of_mem (order.mem_iff.1 hmem)), fun f hf => ?_⟩
  cases hnone.symm.trans ((leadsTo_iff shape _ f).1 hf)

/-- Some unknown property is reported exactly if there is one and all checks before have
passed. -/
theorem exists_unknownProperty_iff (order : entries.Perm properties.entries) :
    (∃ key, r.fromEntries entries d = .error (.unknownProperty key)) ↔
      r.PassesChecks d ∧ ∃ key, properties.contains key ∧ ∀ f, ¬ r.LeadsTo key f := by
  constructor
  · rintro ⟨key, h⟩
    obtain ⟨s, fields, hshape, hfields, -⟩ := fromEntries_eq_unknownProperty_iff.1 h
    exact ⟨(passesChecks_iff d).2 ⟨s, fields, hshape, hfields⟩, key,
      leadsNowhere_of_fromEntries order h⟩
  · rintro ⟨hpasses, key, hkey, hnowhere⟩
    obtain ⟨s, fields, hshape, hfields⟩ := (passesChecks_iff d).1 hpasses
    obtain ⟨shape, -⟩ := r.checkedShape_eq_ok_iff.1 hshape
    obtain ⟨value, hvalue⟩ := Option.isSome_iff_exists.1 hkey
    have hmem : (key, value) ∈ entries :=
      order.mem_iff.2 ((Dict.mem_entries_iff properties key value).2 hvalue)
    have hnone : (FieldIndex.ofShape s r.tags).resolve key = none :=
      Option.eq_none_iff_forall_ne_some.2 fun f hf => hnowhere f ((leadsTo_iff shape key f).2 hf)
    obtain ⟨e, he⟩ := overlay_eq_error_of_unknown hmem hnone fields
    obtain ⟨entry, -, -, rfl⟩ := exists_unknown_of_overlay he
    exact ⟨entry.1, fromEntries_eq_unknownProperty_iff.2 ⟨s, fields, hshape, hfields, he⟩⟩

end Errors

/-! ## The frame -/

section Frame

variable {r} {properties : PropertyMap} {entries : List (String × Json)}

/-- In any order, entries of which no two keys lead to one field lead to different fields. -/
theorem pairwise_resolve_of_apart {s : Shape} (shape : r.shape? = some s)
    (order : entries.Perm properties.entries) (known : Known (FieldIndex.ofShape s r.tags) entries)
    (apart : r.KeysApart properties) : entries.Pairwise fun a b =>
      (FieldIndex.ofShape s r.tags).resolve a.1 ≠ (FieldIndex.ofShape s r.tags).resolve b.1 := by
  have hcontains : ∀ e ∈ entries, properties.contains e.1 := fun e he =>
    Dict.contains_of_get? (Dict.get?_of_mem (order.mem_iff.1 he))
  have hkeys : (entries.map Prod.fst).Nodup :=
    (order.map Prod.fst).nodup_iff.2 (Dict.nodup_keys_of_ascending properties.ascending)
  refine (List.pairwise_map.1 hkeys).imp_of_mem fun {a b} ha hb hne heq => ?_
  obtain ⟨f, hf⟩ := known a ha
  exact hne (apart a.1 b.1 f (hcontains a ha) (hcontains b hb) ((leadsTo_iff shape a.1 f).2 hf)
    ((leadsTo_iff shape b.1 f).2 (heq ▸ hf)))

/-- Laying properties over fields, in any order, puts them in the places that they lead to. -/
theorem merges_of_overlay {s : Shape} {fields merged : Dict Json} (shape : r.shape? = some s)
    (order : entries.Perm properties.entries) (apart : r.KeysApart properties)
    (hmerged : overlay (FieldIndex.ofShape s r.tags) fields entries = .ok merged) :
    r.Merges properties fields merged := by
  have hvalue := get?_overlay (FieldIndex.ofShape s r.tags) entries hmerged
    (pairwise_resolve_of_apart shape order (known_of_overlay hmerged) apart)
  have hmem : ∀ key value, properties.get? key = some value ↔ (key, value) ∈ entries :=
    fun key value => by rw [order.mem_iff, Dict.mem_entries_iff]
  constructor
  · intro f key value hleads hget
    exact (hvalue f value).2 (Or.inl
      ⟨(key, value), (hmem key value).1 hget, (leadsTo_iff shape key f).1 hleads, rfl⟩)
  · intro f huntouched
    have hnone : ∀ e ∈ entries, (FieldIndex.ofShape s r.tags).resolve e.1 ≠ some f :=
      fun e he hres => huntouched e.1 (Dict.contains_of_get? ((hmem e.1 e.2).2 he))
        ((leadsTo_iff shape e.1 f).2 hres)
    refine Option.ext fun value => (hvalue f value).trans ⟨?_, fun hget => Or.inr ⟨hnone, hget⟩⟩
    rintro (⟨e, he, hres, -⟩ | ⟨-, hget⟩)
    · exact absurd hres (hnone e he)
    · exact hget

/-- There is one way to put properties in their places. -/
theorem Merges.unique {fields merged merged' : Dict Json} (h : r.Merges properties fields merged)
    (h' : r.Merges properties fields merged') : merged = merged' := by
  refine Dict.ext_get? fun f => ?_
  by_cases huntouched : ∀ key, properties.contains key → ¬ r.LeadsTo key f
  · rw [h.others f huntouched, h'.others f huntouched]
  · obtain ⟨key, hcontains, hleads⟩ : ∃ key, properties.contains key ∧ r.LeadsTo key f := by
      simpa using huntouched
    obtain ⟨value, hvalue⟩ := Option.isSome_iff_exists.1 hcontains
    rw [h.given f key value hleads hvalue, h'.given f key value hleads hvalue]

/-- Reading properties over a record succeeds, in any order, exactly if the checks pass, all keys
lead to fields, and the fields can be decoded with the properties in their places. -/
theorem fromEntries_eq_ok_iff_merges (order : entries.Perm properties.entries)
    (apart : r.KeysApart properties) {d y : α} : r.fromEntries entries d = .ok y ↔
      r.PassesChecks d ∧ r.KeysKnown properties ∧
        ∃ fields merged, r.written? d = some fields ∧ r.Merges properties fields merged ∧
          r.decode merged = .ok y := by
  rw [fromEntries_eq_ok_iff]
  constructor
  · rintro ⟨s, fields, merged, hshape, hfields, hmerged, hdecode⟩
    obtain ⟨shape, -⟩ := r.checkedShape_eq_ok_iff.1 hshape
    refine ⟨(passesChecks_iff d).2 ⟨s, fields, hshape, hfields⟩, ?_, fields, merged,
      fieldsOf_eq_ok_iff.1 hfields, merges_of_overlay shape order apart hmerged, hdecode⟩
    intro key hkey
    obtain ⟨value, hvalue⟩ := Option.isSome_iff_exists.1 hkey
    obtain ⟨f, hf⟩ := known_of_overlay hmerged (key, value)
      (order.mem_iff.2 ((Dict.mem_entries_iff properties key value).2 hvalue))
    exact ⟨f, (leadsTo_iff shape key f).2 hf⟩
  · rintro ⟨hpasses, hknown, fields, merged, hfields, hmerges, hdecode⟩
    -- The entries can be laid over the fields, and there is only one thing that can come of it.
    obtain ⟨s, fields', hshape, hfields'⟩ := (passesChecks_iff d).1 hpasses
    cases hfields.symm.trans (fieldsOf_eq_ok_iff.1 hfields')
    obtain ⟨shape, -⟩ := r.checkedShape_eq_ok_iff.1 hshape
    obtain ⟨merged', hmerged'⟩ := exists_overlay (FieldIndex.ofShape s r.tags) entries fields
      fun e he => by
        obtain ⟨f, hf⟩ := hknown e.1 (Dict.contains_of_get? (Dict.get?_of_mem (order.mem_iff.1 he)))
        exact ⟨f, (leadsTo_iff shape e.1 f).1 hf⟩
    have hsame := hmerges.unique (merges_of_overlay shape order apart hmerged')
    exact ⟨s, fields, merged', hshape, hfields', hmerged', hsame ▸ hdecode⟩

namespace Fieldwise

variable (F : r.Fieldwise) {d y : α}

/-- A field that no property leads to is read from the encoding of the record, so it keeps its
value exactly if that is what is read there. -/
theorem get_eq_iff {fields merged : Dict Json} {f : String}
    (hfields : r.written? d = some fields) (hdecode : r.decode merged = .ok y)
    (declared : r.Declares f) (huntouched : merged.get? f = fields.get? f)
    (omitted : F.OmitsSafely d f) : F.get f y = F.get f d ↔ F.ReadsBack d f := by
  have hread : F.read f (fields.get? f) = .ok (F.get f y) :=
    huntouched ▸ F.read_of_decode hdecode f declared
  cases hget : fields.get? f with
  | none =>
    -- The decoder did without the field, so it gave it the value that it was omitted for.
    have hkept : F.read f none = .ok (F.get f d) := by
      rcases omitted ⟨fields, hfields, hget⟩ with ⟨reason, hrequired⟩ | hdefault
      · rw [hget, hrequired] at hread
        cases hread
      · exact hdefault
    rw [hget, hkept] at hread
    refine iff_of_true (Except.ok.inj hread).symm ?_
    rintro value ⟨fields', hfields', hvalue⟩
    cases hfields.symm.trans hfields'
    cases hget.symm.trans hvalue
  | some value =>
    rw [hget] at hread
    constructor
    · rintro heq value' ⟨fields', hfields', hvalue'⟩
      cases hfields.symm.trans hfields'
      cases hget.symm.trans hvalue'
      rw [hread, heq]
    · intro hback
      have hsame := hback value ⟨fields, hfields, hget⟩
      exact Except.ok.inj (hread.symm.trans hsame)

/-- Reading entries in any order does what `Frame` says. -/
theorem frame_fromEntries (omitted : ∀ f, r.Declares f → F.OmitsSafely d f)
    (apart : r.KeysApart properties) (order : entries.Perm properties.entries) :
    F.Frame properties d (inPlace (r.fromEntries entries d) d) := by
  have houtcome := fun y => fromEntries_eq_ok_iff_merges (r := r) order apart (d := d) (y := y)
  have hrefused := exists_unknownProperty_iff (r := r) (d := d) order
  cases hread : r.fromEntries entries d with
  | error e =>
    rw [hread] at hrefused
    refine ⟨?_, nofun, nofun, ?_, ?_, fun _ _ => rfl⟩
    · intro y
      rw [← houtcome y, hread]
      simp [inPlace]
    · simpa [inPlace] using hrefused
    · intro key (hkey : Except.error e = .error (.unknownProperty key))
      cases hkey
      exact leadsNowhere_of_fromEntries order hread
  | ok y =>
    obtain ⟨⟨⟨s, shape, accepted⟩, -⟩, -, fields, merged, hfields, hmerges, hdecode⟩ :=
      (houtcome y).1 hread
    refine ⟨?_, ?_, ?_, ?_, nofun, nofun⟩
    · intro y'
      rw [← houtcome y', hread]
      simp [inPlace]
    · intro _ f declared huntouched
      exact F.get_eq_iff hfields hdecode declared (hmerges.others f huntouched)
        (omitted f declared)
    · intro _ f key value hleads hget
      have hres := (leadsTo_iff shape key f).1 hleads
      rw [← hmerges.given f key value hleads hget]
      exact F.read_of_decode hdecode f ⟨s, shape, Shape.mem_of_resolve accepted hres⟩
    · rw [← hrefused, hread]
      simp [inPlace]

end Fieldwise

/-- **Reading changes what properties lead to, and nothing else.**  For every record type made of
fields, every record of which the encoder omits only what the decoder requires or gives back, and
all properties of which no two lead to one field, reading them in place has the effect of `Frame`,
in whatever order they come.  It succeeds exactly if the checks pass, every key leads to a field
and the decoder takes what comes of it.  Then fields that no key leads to have kept their values,
provided that these are read back where they are written, and the others have the values of their
keys.  An unknown property is reported exactly if there is one and the checks before have passed,
and errors change nothing.  A vertex and an edge are read like their properties. -/
theorem readInto_frame {α : Type} {r : RecordType α} (F : r.Fieldwise) (d : α)
    (properties : PropertyMap) (omitted : ∀ f, r.Declares f → F.OmitsSafely d f)
    (apart : r.KeysApart properties) :
    (∀ entries, entries.Perm properties.entries →
      F.Frame properties d ((r.readInto entries).run.run d)) ∧
    (∀ v : Vertex, v.properties = properties →
      (r.readInto properties.entries).run.run d = inPlace (r.fromVertex v d) d) ∧
    ∀ e : Edge, e.properties = properties →
      (r.readInto properties.entries).run.run d = inPlace (r.fromEdge e d) d := by
  refine ⟨?_, ?_, ?_⟩
  · intro entries order
    rw [run_readInto]
    exact F.frame_fromEntries omitted apart order
  · rintro v rfl
    exact r.run_readInto v.properties.entries d
  · rintro e rfl
    exact r.run_readInto e.properties.entries d

end Frame

end RecordType

/-! ## Schemas -/

/-- A field is left out only for the value that it has when it is missing, unless it is
required. -/
def Field.FitsOmission (f : Field) : Prop :=
  ∀ v, f.isShown v = false → f.reader.unmentioned = none ∨ f.reader.unmentioned = some v

namespace Schema

variable (s : Schema)

/-- The value that a record has for a field. -/
def get (f : String) (record : Json) : Option Json :=
  match record with
  | .object members => members.lookup f
  | _ => none

/-- Reads one field of a record. -/
def readField (f : String) (value : Option Json) : Except String (Option Json) :=
  match s.fields.find? (·.name == f) with
  | some field => (field.reader.readMember value).map some
  | none => .ok none

/-- A record that is decoded is the object of the values that its fields are read as. -/
theorem exists_values_of_decode {fields : Dict Json} {record : Json}
    (h : s.recordType.decode fields = .ok record) :
    ∃ values, record = .ofDict (Dict.ofList values) ∧
      List.Forall₂ (fun f e => e.1 = f.name ∧ f.reader.readMember (fields.get? f.name) = .ok e.2)
        s.fields values := by
  change FieldReader.readStruct s.name s.strict (s.fields.map Field.reader)
    (.object fields.entries) = .ok record at h
  unfold FieldReader.readStruct at h
  obtain ⟨_, -, h⟩ := bind_eq_ok_iff.1 h
  obtain ⟨values, hvalues, heq⟩ := bind_eq_ok_iff.1 h
  rw [FieldReader.fromMembers_eq_ok_iff, List.forall₂_map_left_iff] at hvalues
  exact ⟨values, (Except.ok.inj heq).symm, hvalues⟩

variable {s}

/-- Decoding a record gives each field the value that is read for it. -/
theorem readField_of_decode (distinct : (s.fields.map (·.name)).Nodup) {fields : Dict Json}
    {record : Json} (h : s.recordType.decode fields = .ok record) {f : String}
    (declared : f ∈ s.fields.map (·.name)) :
    s.readField f (fields.get? f) = .ok (get f record) := by
  obtain ⟨values, rfl, hvalues⟩ := s.exists_values_of_decode h
  have hkeys : (values.map Prod.fst).Nodup := keys_of_forall₂ hvalues ▸ distinct
  obtain ⟨field, hfield, rfl⟩ := List.mem_map.1 declared
  obtain ⟨⟨name, value⟩, hmem, rfl, hread⟩ := (exists_mem_of_forall₂ hvalues).2 field hfield
  have hget : get field.name (.ofDict (Dict.ofList values)) = some value :=
    (Dict.get?_ofList_eq_some_iff hkeys field.name value).2 hmem
  rw [hget, readField, find?_name distinct hfield]
  dsimp only
  rw [hread]
  rfl

/-- Records that a schema describes are made of fields, if no two of these share a name. -/
def fieldwise (distinct : (s.fields.map (·.name)).Nodup) : s.recordType.Fieldwise where
  Value _ := Option Json
  get := get
  read := s.readField
  read_of_decode h f declared := by
    obtain ⟨shape, hshape, hf⟩ := declared
    cases hshape
    exact readField_of_decode distinct h hf

/-- The value that is written for a field is the one that it has, if it is shown. -/
theorem get?_written {fields written : Dict Json} {f : Field}
    (distinct : (s.fields.map (·.name)).Nodup) (hf : f ∈ s.fields)
    (h : s.recordType.written? (.ofDict fields) = some written) :
    written.get? f.name = (fields.get? f.name).filter f.isShown := by
  let shown (name : String) (value : Json) : Bool :=
    match s.fields.find? (·.name == name) with
    | some f => f.isShown value
    | none => false
  have hwritten : written = Dict.ofList (fields.filter shown).entries := (Option.some.inj h).symm
  have hshown : shown f.name = f.isShown := by
    simp only [shown, find?_name distinct hf]
  rw [hwritten, Dict.ofList_entries, Dict.get?_filter, hshown]

/-- The values of a record that was read are read back. -/
theorem readsBack (proper : s.Proper) {v record : Json} (h : s.read v = .ok record) (f : String)
    (declared : s.recordType.Declares f) : (fieldwise proper.distinct).ReadsBack record f := by
  obtain ⟨fields, rfl, hdecode⟩ := decode_read proper h
  have hread := (fieldwise proper.distinct).read_of_decode hdecode f declared
  obtain ⟨_, hshape, hf⟩ := declared
  cases hshape
  obtain ⟨field, hfield, rfl⟩ := List.mem_map.1 hf
  rintro value ⟨written, hwritten, hvalue⟩
  rw [get?_written proper.distinct hfield hwritten, Option.filter_eq_some_iff] at hvalue
  rwa [hvalue.1] at hread

/-- A record that was read lacks only fields that the decoder requires or gives back. -/
theorem omitsSafely (proper : s.Proper) (fits : ∀ f ∈ s.fields, f.FitsOmission) {v record : Json}
    (h : s.read v = .ok record) (f : String) (declared : s.recordType.Declares f) :
    (fieldwise proper.distinct).OmitsSafely record f := by
  obtain ⟨fields, rfl, hdecode⟩ := decode_read proper h
  have hread := (fieldwise proper.distinct).read_of_decode hdecode f declared
  obtain ⟨_, hshape, hf⟩ := declared
  cases hshape
  obtain ⟨field, hfield, rfl⟩ := List.mem_map.1 hf
  rintro ⟨written, hwritten, hnone⟩
  rw [get?_written proper.distinct hfield hwritten] at hnone
  have hmissing : s.readField field.name none = (field.reader.readMember none).map some := by
    rw [readField, find?_name proper.distinct hfield]
  cases hvalue : fields.get? field.name with
  | none =>
    rw [hvalue] at hread
    exact Or.inr hread
  | some value =>
    have hhidden : field.isShown value = false := by
      rw [hvalue, Option.filter_some] at hnone
      simpa using hnone
    rcases fits field hfield value hhidden with hrequired | hdefault
    · rw [FieldReader.readMember_none_of_eq_none hrequired] at hmissing
      exact Or.inl ⟨_, hmissing⟩
    · rw [FieldReader.readMember_none_of_eq_some hdefault] at hmissing
      exact Or.inr (hmissing.trans (congrArg Except.ok hvalue.symm))

/-- A record that was read keeps the value of every field that no property leads to. -/
theorem get_of_fromEntries (proper : s.Proper) (fits : ∀ f ∈ s.fields, f.FitsOmission)
    {properties : PropertyMap} {entries : List (String × Json)}
    (apart : s.recordType.KeysApart properties) (order : entries.Perm properties.entries)
    {v d y : Json} (hd : s.read v = .ok d)
    (h : s.recordType.fromEntries entries d = .ok y) {f : String}
    (declared : s.recordType.Declares f)
    (untouched : ∀ key, properties.contains key → ¬ s.recordType.LeadsTo key f) :
    get f y = get f d := by
  have hframe := (fieldwise proper.distinct).frame_fromEntries (omitsSafely proper fits hd) apart
    order
  rw [h] at hframe
  exact (hframe.kept rfl f declared untouched).2 (readsBack proper hd f declared)

end Schema

/-- An employee with a badge, perhaps with a manager, who is left out otherwise, and on a level
that is zero unless it is told. -/
def Sample.staff : Schema where
  name := "Employee"
  fields := [
    { name := "empId", type := .text },
    { name := "boss", type := .option .text, shown := .unlessNull },
    { name := "level", type := .integer false 8, default? := some (.integer 0) }]
  tags := [⟨"empId", "badge"⟩, ⟨"boss", "Manager"⟩]

theorem proper_staff : Sample.staff.Proper where
  distinct := by decide
  types := by decide
  defaults := by
    simp only [Sample.staff, List.forall_mem_cons, List.not_mem_nil, false_imp_iff, implies_true,
      and_true, reduceCtorEq, true_and, Option.some.injEq, forall_eq']
    rfl

theorem fitsOmission_staff : ∀ f ∈ Sample.staff.fields, f.FitsOmission := by
  simp only [Sample.staff, List.forall_mem_cons, List.not_mem_nil, false_imp_iff, implies_true,
      and_true, Field.FitsOmission, Field.isShown, reduceCtorEq, true_and]
  intro v hnull
  cases v with
  | null => exact Or.inr rfl
  | _ => cases hnull

/-- The first tag of an employee leads to the number of the employee. -/
theorem resolve_badge :
    (FieldIndex.ofShape ⟨"Employee", ["empId", "boss", "level"]⟩ Sample.staff.tags).resolve
      "badge" = some "empId" := by
  have hname : Shape.named? ⟨"Employee", ["empId", "boss", "level"]⟩ "badge" = none := by
    decide +kernel
  rw [FieldIndex.resolve_eq, hname]
  rfl

/-- A map of one entry has no other key. -/
theorem eq_of_contains_single {key key' : String} {value : Json}
    (h : (Dict.ofList [(key, value)] : PropertyMap).contains key') : key' = key := by
  obtain ⟨found, hfound⟩ := Option.isSome_iff_exists.1 h
  exact congrArg Prod.fst (List.mem_singleton.1 (Dict.mem_of_mem_ofList
    ((Dict.mem_entries_iff _ key' found).2 hfound)))

namespace RecordType

/-- One property is read into one field. -/
theorem keysApart_single {α : Type} (r : RecordType α) (key : String) (value : Json) :
    r.KeysApart (Dict.ofList [(key, value)]) := fun _ _ _ hkey hkey' _ _ =>
  (eq_of_contains_single hkey).trans (eq_of_contains_single hkey').symm

/-- An employee without a manager gets another badge.  No manager appears, and the level stays,
although the one is not written and the other has a default. -/
theorem readInto_frame_staff :
    let r := Sample.staff.recordType
    let d : Json := .object [("boss", .null), ("empId", .string "e1"), ("level", .integer 3)]
    let properties : PropertyMap := Dict.ofList [("badge", .string "e2")]
    (∀ f, r.Declares f → (Schema.fieldwise proper_staff.distinct).OmitsSafely d f) ∧
      r.KeysApart properties ∧
      ∃ y, (r.readInto properties.entries).run.run d = (.ok (), y) ∧
        Schema.get "empId" y = some (.string "e2") ∧
        Schema.get "boss" y = some .null ∧ Schema.get "level" y = some (.integer 3) := by
  intro r d properties
  have hd : Sample.staff.read d = .ok d := rfl
  have omitted := Schema.omitsSafely proper_staff fitsOmission_staff hd
  have apart : r.KeysApart properties := r.keysApart_single "badge" (.string "e2")
  have hleads : r.LeadsTo "badge" "empId" := ⟨_, rfl, resolve_badge⟩
  have hread : ∃ y, r.fromEntries properties.entries d = .ok y := by
    refine ⟨_, (r.fromEntries_eq_ok_iff _ d _).2 ⟨⟨"Employee", ["empId", "boss", "level"]⟩,
      Dict.ofList [("empId", .string "e1"), ("level", .integer 3)],
      Dict.ofList [("empId", .string "e2"), ("level", .integer 3)], rfl, rfl, ?_, rfl⟩⟩
    show overlay _ _ [("badge", .string "e2")] = _
    rw [overlay, show r.tags = Sample.staff.tags from rfl, resolve_badge]
    rfl
  obtain ⟨y, hread⟩ := hread
  have hrun : (r.readInto properties.entries).run.run d = (.ok (), y) := by
    rw [run_readInto, hread]
    rfl
  have hframe := (readInto_frame (Schema.fieldwise proper_staff.distinct) d properties
    omitted apart).1 properties.entries (.refl _)
  rw [hrun] at hframe
  have hkept : ∀ f, r.Declares f → f ≠ "empId" → Schema.get f y = Schema.get f d := by
    intro f declared hne
    refine (hframe.kept rfl f declared ?_).2 (Schema.readsBack proper_staff hd f declared)
    intro key hkey hf
    rw [eq_of_contains_single hkey] at hf
    exact hne (hf.unique hleads)
  have hchanged := hframe.changed rfl "empId" "badge" (.string "e2") hleads rfl
  refine ⟨omitted, apart, y, hrun, (Except.ok.inj hchanged).symm, ?_, ?_⟩
  · exact hkept "boss" ⟨_, rfl, by decide⟩ (by decide)
  · exact hkept "level" ⟨_, rfl, by decide⟩ (by decide)

end RecordType

/-! ## A value that JSON has no form for -/

namespace Sample

/-- A sum of money, which may be unlimited. -/
inductive Amount
  | finite (value : Binary64)
  | infinite

/-- JSON has no infinite numbers: they are written as null. -/
def Amount.toJson : Amount → Json
  | .finite value => .float value
  | .infinite => .null

/-- Reads the name of an account. -/
def readName : Option Json → Except String String
  | some (.string name) => .ok name
  | _ => .error "no name"

/-- Reads the cap of an account, which may have none. -/
def readCap : Option Json → Except String (Option Amount)
  | none | some .null => .ok none
  | some (.float value) => .ok (some (.finite value))
  | some (.integer n) => .ok (some (.finite (Binary64.ofInt n)))
  | some _ => .error "no cap"

/-- An account: a name, and perhaps a cap. -/
def account : RecordType (String × Option Amount) where
  typeName := "Account"
  shape? := some ⟨"Account", ["name", "cap"]⟩
  encode a := .ok (.object [("cap", a.2.elim .null Amount.toJson), ("name", .string a.1)])
  decode fields := do
    let name ← readName (fields.get? "name")
    let cap ← readCap (fields.get? "cap")
    return (name, cap)
  initial := ("", none)

/-- An account is made of its fields. -/
def accountFields : account.Fieldwise where
  Value _ := String ⊕ Option Amount
  get f a := if f = "name" then .inl a.1 else .inr a.2
  read f entry := if f = "name" then (readName entry).map .inl else (readCap entry).map .inr
  read_of_decode := by
    intro fields a h f declared
    obtain ⟨name, hname, h⟩ := bind_eq_ok_iff.1 h
    obtain ⟨cap, hcap, h⟩ := bind_eq_ok_iff.1 h
    obtain rfl := Except.ok.inj h
    obtain ⟨s, hs, hf⟩ := declared
    cases hs
    rcases List.mem_cons.1 hf with rfl | hf
    · simp [hname, Except.map]
    · obtain rfl := List.mem_singleton.1 hf
      simp [hcap, Except.map]

/-- Both fields of an account are always written. -/
theorem not_omits_account (a : String × Option Amount) {f : String}
    (declared : account.Declares f) : ¬ account.Omits a f := by
  rintro ⟨fields, hfields, hnone⟩
  obtain rfl := Option.some.inj hfields
  obtain ⟨s, hs, hf⟩ := declared
  cases hs
  rcases List.mem_cons.1 hf with rfl | hf
  · simp [Dict.get?_ofList] at hnone
  · obtain rfl := List.mem_singleton.1 hf
    simp [Dict.get?_ofList] at hnone

end Sample

namespace RecordType

/-- An account with an infinite cap is renamed.  No field is ever omitted, and no property leads to
the cap; yet the cap is lost, since what is written for it reads as none. -/
theorem readInto_infiniteCap :
    let r := Sample.account
    let properties : PropertyMap := Dict.ofList [("name", .string "b")]
    (∀ a f, r.Declares f → Sample.accountFields.OmitsSafely a f) ∧ r.KeysApart properties ∧
      r.Declares "cap" ∧ (∀ key, properties.contains key → ¬ r.LeadsTo key "cap") ∧
      (r.readInto properties.entries).run.run ("a", some .infinite) = (.ok (), ("b", none)) := by
  intro r properties
  have hname : (FieldIndex.ofShape ⟨"Account", ["name", "cap"]⟩ []).resolve "name" =
      some "name" := by
    rw [FieldIndex.resolve_eq, Shape.named?_self (by decide)]
    rfl
  have hleads : r.LeadsTo "name" "name" := ⟨_, rfl, hname⟩
  refine ⟨fun a f declared homits => ?_, r.keysApart_single _ _, ⟨_, rfl, by decide⟩, ?_, ?_⟩
  · exact (Sample.not_omits_account a declared homits).elim
  · intro key hkey hcap
    rw [eq_of_contains_single hkey] at hcap
    exact absurd (hcap.unique hleads) (by decide)
  · have hread : r.fromEntries properties.entries ("a", some .infinite) = .ok ("b", none) := by
      refine (r.fromEntries_eq_ok_iff _ _ _).2 ⟨⟨"Account", ["name", "cap"]⟩,
        Dict.ofList [("cap", .null), ("name", .string "a")],
        Dict.ofList [("cap", .null), ("name", .string "b")], rfl, rfl, ?_, rfl⟩
      show overlay _ _ [("name", .string "b")] = _
      rw [overlay, show r.tags = [] from rfl, hname]
      rfl
    rw [run_readInto, hread]
    rfl

end RecordType
end PropertyGraph
