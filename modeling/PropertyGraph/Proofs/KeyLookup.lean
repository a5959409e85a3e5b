import PropertyGraph.Proofs.DictLookup
import PropertyGraph.Record.FieldIndex

/-!
# Which field a property key finds

`propertyKey` says under which key a field is written, `FieldIndex.resolve` which field a key
is read into.  The index is filled field by field, exact names overwriting and case forms
filling gaps; this file says what it has become when all fields are in:

> `named?`: a key names the field of that very name, and otherwise the first declared field
> whose name in upper or in lower case it is.

With `taggedLast?` for the tags, `resolve_eq` is the whole look-up in three attempts.

A field *owns* its key (`OwnsKey`) when these attempts lead back to it.  Accepted tags do not
ensure that: a key may be a tag of one field and the name of another.  They do when tags stay
clear of each other and of foreign names (`TagsApart`, `TagsApart.ownsKey`).
-/

namespace PropertyGraph

/-! ## The key of a field -/

/-- A field is written under its own name or under a tag of its own. -/
theorem propertyKey_cases (tags : List Tag) (field : String) :
    propertyKey tags field = field ∨
      ∃ t ∈ tags, t.field = field ∧ t.key ≠ "" ∧ propertyKey tags field = t.key := by
  unfold propertyKey
  cases hfind : tags.find? fun t => t.field == field && !t.key.isEmpty with
  | none => exact Or.inl rfl
  | some t =>
    have htest := List.find?_some hfind
    simp only [Bool.and_eq_true, beq_iff_eq, Bool.not_eq_eq_eq_not, Bool.not_true,
      String.isEmpty_eq_false_iff] at htest
    exact Or.inr ⟨t, List.mem_of_find?_eq_some hfind, htest.1, htest.2, rfl⟩

namespace Shape

/-! ## Accepted tags -/

/-- The scan finds no clash exactly when the keys of the fields before it and of those ahead
are all different. -/
theorem firstClash_eq_none_iff (key : String → String) :
    ∀ (before fields : List String), (before.map key).Nodup →
      (firstClash key before fields = none ↔ ((before ++ fields).map key).Nodup)
  | before, [], h => by simpa [firstClash] using h
  | before, field :: rest, h => by
    have hsplit : before ++ field :: rest = (before ++ [field]) ++ rest := by simp
    unfold firstClash
    cases hfind : before.find? fun owner => key owner == key field with
    | some owner =>
      have hkey : key owner = key field := by simpa using List.find?_some hfind
      have hmem : key field ∈ before.map key :=
        hkey ▸ List.mem_map_of_mem (List.mem_of_find?_eq_some hfind)
      refine iff_of_false (by simp) fun hnodup => ?_
      rw [List.map_append, List.nodup_append] at hnodup
      exact hnodup.2.2 _ hmem _ (by simp) rfl
    | none =>
      have hfree : key field ∉ before.map key := by
        rw [List.mem_map]
        rintro ⟨owner, howner, heq⟩
        have := List.find?_eq_none.1 hfind owner howner
        simp [heq] at this
      have hnext : ((before ++ [field]).map key).Nodup := by
        rw [List.map_append, List.nodup_append]
        refine ⟨h, by simp, fun a ha b hb heq => hfree ?_⟩
        rw [List.map_singleton, List.mem_singleton] at hb
        rwa [heq, hb] at ha
      rw [firstClash_eq_none_iff key (before ++ [field]) rest hnext, hsplit]

/-- Tags are accepted exactly when each is for a declared field and no two fields share a
key. -/
theorem checkTags_eq_ok_iff (s : Shape) (tags : List Tag) :
    s.checkTags tags = .ok () ↔
      (∀ t ∈ tags, t.field ∈ s.fields) ∧ (s.fields.map (propertyKey tags)).Nodup := by
  unfold checkTags
  cases hfind : tags.find? fun t => !s.hasField t.field with
  | some t =>
    have htest := List.find?_some hfind
    refine iff_of_false (by simp) fun h => ?_
    simp [hasField, h.1 t (List.mem_of_find?_eq_some hfind)] at htest
  | none =>
    have hdeclared : ∀ t ∈ tags, t.field ∈ s.fields := fun t ht => by
      have := List.find?_eq_none.1 hfind t ht
      simpa [hasField] using this
    rw [← List.nil_append s.fields, ← firstClash_eq_none_iff _ [] _ List.nodup_nil]
    rw [List.nil_append]
    cases hclash : firstClash (propertyKey tags) [] s.fields with
    | some clash => simp
    | none => simpa using hdeclared

variable {s : Shape} {tags : List Tag}

/-- Fields with accepted tags have different keys. -/
theorem propertyKey_injective (h : s.checkTags tags = .ok ()) {f g : String}
    (hf : f ∈ s.fields) (hg : g ∈ s.fields) (heq : propertyKey tags f = propertyKey tags g) :
    f = g :=
  List.inj_on_of_nodup_map ((checkTags_eq_ok_iff s tags).1 h).2 hf hg heq

end Shape

/-! ## The index as a whole -/

namespace FieldIndex

/-- Whether a key is a field's name in upper or in lower case. -/
def isCaseForm (key field : String) : Bool := key == Text.upper field || key == Text.lower field

/-- One field more: its own name leads to it whatever was there, its case forms only where
nothing was. -/
theorem get?_addName (names : Dict String) (field key : String) :
    (addName names field).get? key =
      if key = field then some field
      else (names.get? key).or (if isCaseForm key field then some field else none) := by
  unfold addName isCaseForm
  rw [Dict.get?_insertIfNew, Dict.get?_insertIfNew, Dict.get?_insert]
  by_cases hkey : key = field
  · simp [hkey]
  · rw [if_neg hkey, if_neg hkey, Option.or_assoc]
    congr 1
    by_cases hupper : key = Text.upper field
    · rw [if_pos hupper]; simp [hupper]
    · rw [if_neg hupper]; simp [beq_false_of_ne hupper]

/-- All fields: exact names win over case forms, and of those the first declared wins.  The
induction is on the fields still to come, with any names already entered. -/
theorem get?_foldl_addName (fields : List String) (key : String) :
    ∀ names : Dict String, (fields.foldl addName names).get? key =
      if key ∈ fields then some key
      else (names.get? key).or (fields.find? (isCaseForm key)) := by
  induction fields with
  | nil => intro names; simp
  | cons field rest ih =>
    intro names
    rw [List.foldl_cons, ih]
    by_cases hrest : key ∈ rest
    · rw [if_pos hrest, if_pos (List.mem_cons_of_mem _ hrest)]
    · rw [if_neg hrest, get?_addName]
      by_cases hkey : key = field
      · subst hkey; simp
      · have hnot : key ∉ field :: rest := by simp [hkey, hrest]
        rw [if_neg hkey, if_neg hnot, Option.or_assoc, List.find?_cons]
        cases hform : isCaseForm key field <;> simp

end FieldIndex

open FieldIndex (isCaseForm)

/-- The field that a key names: the field of that very name, or else the first declared field
whose name in upper or in lower case it is. -/
def Shape.named? (s : Shape) (key : String) : Option String :=
  if key ∈ s.fields then some key else s.fields.find? (isCaseForm key)

/-- The field of the last tag with a key. -/
def taggedLast? (tags : List Tag) (key : String) : Option String :=
  (tags.reverse.find? fun t => t.key == key && !t.key.isEmpty).map Tag.field

/-- A field that is named is declared. -/
theorem Shape.mem_of_named? {s : Shape} {key field : String} (h : s.named? key = some field) :
    field ∈ s.fields := by
  unfold named? at h
  split at h
  next hmem => rwa [← Option.some.inj h]
  next => exact List.mem_of_find?_eq_some h

/-- A field that a tag leads to has that tag. -/
theorem mem_of_taggedLast? {tags : List Tag} {key field : String}
    (h : taggedLast? tags key = some field) :
    ∃ t ∈ tags, t.field = field ∧ t.key = key ∧ t.key ≠ "" := by
  obtain ⟨t, hfind, hfield⟩ := Option.map_eq_some_iff.1 h
  have htest := List.find?_some hfind
  simp only [Bool.and_eq_true, beq_iff_eq, Bool.not_eq_eq_eq_not, Bool.not_true,
    String.isEmpty_eq_false_iff] at htest
  exact ⟨t, List.mem_reverse.1 (List.mem_of_find?_eq_some hfind), hfield, htest⟩

/-- Any tag that is not empty leads to some field. -/
theorem exists_taggedLast? {tags : List Tag} {t : Tag} (ht : t ∈ tags) (hkey : t.key ≠ "") :
    ∃ field, taggedLast? tags t.key = some field := by
  unfold taggedLast?
  cases hfind : tags.reverse.find? fun u => u.key == t.key && !u.key.isEmpty with
  | some u => exact ⟨u.field, rfl⟩
  | none =>
    have := List.find?_eq_none.1 hfind t (List.mem_reverse.2 ht)
    simp [hkey] at this

namespace FieldIndex

/-- Of tags with one key the last decides. -/
theorem get?_byTag (s : Shape) (tags : List Tag) (key : String) :
    (ofShape s tags).byTag.get? key = taggedLast? tags key := by
  unfold ofShape taggedLast?
  rw [Dict.get?_ofList, ← List.map_reverse, ← List.filter_reverse]
  induction tags.reverse with
  | nil => rfl
  | cons t rest ih =>
    rw [List.filter_cons, List.find?_cons]
    by_cases hempty : t.key.isEmpty
    · simpa [hempty] using ih
    · by_cases hkey : key = t.key
      · simp [hempty, hkey]
      · have hne : (t.key == key) = false := beq_false_of_ne (Ne.symm hkey)
        simpa [hempty, hne, List.lookup_cons, beq_false_of_ne hkey] using ih

/-- A key is looked up among the names, then among the tags, then in lower case among the
names again. -/
theorem resolve_eq (s : Shape) (tags : List Tag) (key : String) :
    (ofShape s tags).resolve key =
      ((s.named? key).or (taggedLast? tags key)).or (s.named? (Text.lower key)) := by
  have hname : ∀ k, (ofShape s tags).byName.get? k = s.named? k := fun k => by
    show (s.fields.foldl addName ∅).get? k = s.named? k
    rw [get?_foldl_addName]
    simp [Shape.named?]
  unfold resolve
  rw [hname, hname, get?_byTag]
  simp

end FieldIndex

/-! ## Keys that lead back -/

namespace Shape

/-- A field owns its key: the key names it, or names no field at all and was given last to
this one. -/
def OwnsKey (s : Shape) (tags : List Tag) (field : String) : Prop :=
  s.named? (propertyKey tags field) = some field ∨
    s.named? (propertyKey tags field) = none ∧
      taggedLast? tags (propertyKey tags field) = some field

variable {s : Shape} {tags : List Tag}

/-- A declared field's own name is its name before anything else. -/
theorem named?_self {field : String} (h : field ∈ s.fields) : s.named? field = some field :=
  if_pos h

/-- With accepted tags no key is read into an undeclared field. -/
theorem mem_of_resolve (accepted : s.checkTags tags = .ok ()) {key field : String}
    (h : (FieldIndex.ofShape s tags).resolve key = some field) : field ∈ s.fields := by
  rw [FieldIndex.resolve_eq, Option.or_eq_some_iff, Option.or_eq_some_iff] at h
  rcases h with (hname | ⟨-, htag⟩) | ⟨-, hlower⟩
  · exact mem_of_named? hname
  · obtain ⟨t, ht, rfl, -⟩ := mem_of_taggedLast? htag
    exact ((checkTags_eq_ok_iff s tags).1 accepted).1 t ht
  · exact mem_of_named? hlower

/-- The key of a declared field leads to the field that owns it.  Some field is always
found: the field itself by its name, or whoever the tag leads to. -/
theorem resolve_propertyKey (tags : List Tag) {field : String} (h : field ∈ s.fields) :
    ∃ found, (FieldIndex.ofShape s tags).resolve (propertyKey tags field) = some found ∧
      (found = field ↔ s.OwnsKey tags field) := by
  rw [FieldIndex.resolve_eq]
  unfold OwnsKey
  cases hnamed : s.named? (propertyKey tags field) with
  | some found => exact ⟨found, by simp, by simp⟩
  | none =>
    rcases propertyKey_cases tags field with hself | ⟨t, ht, -, hkey, hpk⟩
    · rw [hself, named?_self h] at hnamed
      exact absurd hnamed (by simp)
    · obtain ⟨found, hfound⟩ := exists_taggedLast? ht hkey
      rw [hpk, hfound]
      exact ⟨found, by simp, by simp⟩

/-- Tags that stay clear of each other and of the names of foreign fields: no tag is given to
two fields, and none is the name of another field as it stands or in one case throughout. -/
structure TagsApart (s : Shape) (tags : List Tag) : Prop where
  single : ∀ t ∈ tags, ∀ u ∈ tags, t.key ≠ "" → t.key = u.key → t.field = u.field
  foreign : ∀ t ∈ tags, t.key ≠ "" → ∀ field ∈ s.fields, field ≠ t.field →
    t.key ≠ field ∧ t.key ≠ Text.upper field ∧ t.key ≠ Text.lower field

/-- With such tags a key that names a field was given to no other. -/
theorem TagsApart.named?_tag (h : TagsApart s tags) {t : Tag} (ht : t ∈ tags)
    (hkey : t.key ≠ "") {field : String} (hnamed : s.named? t.key = some field) :
    field = t.field := by
  by_contra hne
  obtain ⟨hname, hupper, hlower⟩ := h.foreign t ht hkey field (mem_of_named? hnamed) hne
  unfold named? at hnamed
  split at hnamed
  next => exact hname (Option.some.inj hnamed)
  next =>
    have hform := List.find?_some hnamed
    simp only [FieldIndex.isCaseForm, Bool.or_eq_true, beq_iff_eq] at hform
    rcases hform with heq | heq
    · exact hupper heq
    · exact hlower heq

/-- Tags that stay clear of each other and of foreign names leave every field its key. -/
theorem TagsApart.ownsKey (h : TagsApart s tags) {field : String} (hfield : field ∈ s.fields) :
    s.OwnsKey tags field := by
  unfold OwnsKey
  rcases propertyKey_cases tags field with hself | ⟨t, ht, htf, hkey, hpk⟩
  · rw [hself]
    exact Or.inl (named?_self hfield)
  · rw [hpk]
    cases hnamed : s.named? t.key with
    | some found => exact Or.inl (by rw [h.named?_tag ht hkey hnamed, htf])
    | none =>
      obtain ⟨found, hfound⟩ := exists_taggedLast? ht hkey
      obtain ⟨u, hu, huf, huk, -⟩ := mem_of_taggedLast? hfound
      refine Or.inr ⟨rfl, ?_⟩
      rw [hfound, ← huf, ← h.single t ht u hu hkey huk.symm, htf]

end Shape
end PropertyGraph
