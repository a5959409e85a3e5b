import PropertyGraph.Proofs.KeyLookup

/-!
# Which tags are refused, and why

Tags are checked twice.  The first pass looks for a tag of a field that is not declared, the
second scans the fields in their order and remembers those it has passed.  While it goes on, no
two of these have one key; so a field whose key is taken shares it with exactly one of them
(`clash_of_firstClash`).

> Main result (`checkTags_verdict`): tags are accepted exactly if all are for declared fields and
> different fields have different keys, and otherwise the first offence is reported.
-/

namespace PropertyGraph.Shape

/-- The first tag of a field that is not declared. -/
def FirstUndeclared (s : Shape) (tags : List Tag) (t : Tag) : Prop :=
  t.field ∉ s.fields ∧ ∃ before after, tags = before ++ t :: after ∧
    ∀ earlier ∈ before, earlier.field ∈ s.fields

/-- Of the fields, `second` is the first whose key is taken, and `first` is the one before it that
has this key. -/
def Clash (key : String → String) (fields : List String) (first second : String) : Prop :=
  ∃ before after, fields = before ++ second :: after ∧ (before.map key).Nodup ∧
    first ∈ before ∧ key first = key second ∧
    ∀ field ∈ before, key field = key second → field = first

/-! ## The scan -/

section Scan

variable {key : String → String} {before rest : List String} {field first second : String}

/-- The scan ends at a field whose key is taken. -/
theorem firstClash_cons_of_mem (hkeys : (before.map key).Nodup) (hfirst : first ∈ before)
    (htaken : key first = key field) :
    firstClash key before (field :: rest) = some (first, field) := by
  have hfind : before.find? (fun owner => key owner == key field) = some first := by
    cases hfound : before.find? fun owner => key owner == key field with
    | none =>
      have hfree := List.find?_eq_none.1 hfound first hfirst
      simp [htaken] at hfree
    | some owner =>
      have howner : key owner = key field := by simpa using List.find?_some hfound
      rw [List.inj_on_of_nodup_map hkeys (List.mem_of_find?_eq_some hfound) hfirst
        (howner.trans htaken.symm)]
  rw [firstClash, hfind]

/-- The scan passes a field whose key is free, and its keys remain different. -/
theorem firstClash_cons_of_not_mem (hfree : key field ∉ before.map key) :
    firstClash key before (field :: rest) = firstClash key (before ++ [field]) rest := by
  have hfind : before.find? (fun owner => key owner == key field) = none := by
    rw [List.find?_eq_none]
    intro owner howner heq
    exact hfree (List.mem_map.2 ⟨owner, howner, eq_of_beq heq⟩)
  rw [firstClash, hfind]

theorem nodup_map_concat (hkeys : (before.map key).Nodup) (hfree : key field ∉ before.map key) :
    ((before ++ [field]).map key).Nodup := by
  rw [List.map_append, List.map_singleton, ← List.concat_eq_append]
  exact hkeys.concat hfree

/-- What the scan reports is the first clash.  The induction is on the fields still to come; the
fields passed have different keys. -/
theorem clash_of_firstClash {fields : List String} : ∀ {before : List String},
    (before.map key).Nodup → firstClash key before fields = some (first, second) →
      Clash key (before ++ fields) first second := by
  induction fields with
  | nil => exact fun _ h => nomatch h
  | cons field rest ih =>
    intro before hkeys h
    by_cases htaken : key field ∈ before.map key
    · obtain ⟨owner, howner, hkey⟩ := List.mem_map.1 htaken
      rw [firstClash_cons_of_mem hkeys howner hkey] at h
      cases h
      refine ⟨before, rest, rfl, hkeys, howner, hkey, fun other hother hshared => ?_⟩
      exact List.inj_on_of_nodup_map hkeys hother howner (hshared.trans hkey.symm)
    · rw [firstClash_cons_of_not_mem htaken] at h
      have hclash := ih (nodup_map_concat hkeys htaken) h
      rwa [List.append_assoc, List.singleton_append] at hclash

end Scan

/-! ## The verdict -/

variable {s : Shape} {tags : List Tag}

/-- A tag of an undeclared field is reported, and of several the first. -/
theorem exists_firstUndeclared (h : ∃ t ∈ tags, t.field ∉ s.fields) :
    ∃ t, s.FirstUndeclared tags t ∧
      s.checkTags tags = .error (.unknownField s.name t.field t.key) := by
  unfold checkTags
  cases hfind : tags.find? fun t => !s.hasField t.field with
  | none =>
    obtain ⟨t, ht, hundeclared⟩ := h
    have hdeclared := List.find?_eq_none.1 hfind t ht
    simp [hasField, hundeclared] at hdeclared
  | some t =>
    obtain ⟨hundeclared, before, after, hsplit, hbefore⟩ :=
      List.find?_eq_some_iff_append.1 hfind
    refine ⟨t, ⟨by simpa [hasField] using hundeclared, before, after, hsplit, ?_⟩, rfl⟩
    intro earlier hearlier
    simpa [hasField] using hbefore earlier hearlier

/-- Among declared fields a shared key is reported, and of several the first. -/
theorem exists_clash (hdeclared : ∀ t ∈ tags, t.field ∈ s.fields)
    (h : ¬ (s.fields.map (propertyKey tags)).Nodup) :
    ∃ first second, Clash (propertyKey tags) s.fields first second ∧
      s.checkTags tags =
        .error (.duplicateProperty s.name (propertyKey tags second) first second) := by
  have hfind : tags.find? (fun t => !s.hasField t.field) = none := by
    rw [List.find?_eq_none]
    intro t ht
    simp [hasField, hdeclared t ht]
  unfold checkTags
  rw [hfind]
  cases hclash : firstClash (propertyKey tags) [] s.fields with
  | none => exact absurd ((firstClash_eq_none_iff _ [] _ List.nodup_nil).1 hclash) h
  | some clash =>
    have hfirst : Clash (propertyKey tags) ([] ++ s.fields) clash.1 clash.2 :=
      clash_of_firstClash List.nodup_nil hclash
    exact ⟨clash.1, clash.2, hfirst, rfl⟩

/-- **Tags are accepted exactly if they can be told apart, and otherwise the first offence is
reported.**  Tags are accepted if and only if each is for a declared field and no two declared
fields have one key.  If a tag is for an undeclared field, the first such tag is reported.  If
there is none but two fields have one key, what is reported is this key with the first field whose
key is taken and the only field before it that has the key. -/
theorem checkTags_verdict (s : Shape) (distinct : s.fields.Nodup) (tags : List Tag) :
    (s.checkTags tags = .ok () ↔ (∀ t ∈ tags, t.field ∈ s.fields) ∧
      ∀ f ∈ s.fields, ∀ g ∈ s.fields, propertyKey tags f = propertyKey tags g → f = g) ∧
    ((∃ t ∈ tags, t.field ∉ s.fields) → ∃ t, s.FirstUndeclared tags t ∧
      s.checkTags tags = .error (.unknownField s.name t.field t.key)) ∧
    ((∀ t ∈ tags, t.field ∈ s.fields) →
      (∃ f ∈ s.fields, ∃ g ∈ s.fields, f ≠ g ∧ propertyKey tags f = propertyKey tags g) →
      ∃ first second, Clash (propertyKey tags) s.fields first second ∧
        s.checkTags tags =
          .error (.duplicateProperty s.name (propertyKey tags second) first second)) := by
  have hinjective : (s.fields.map (propertyKey tags)).Nodup ↔
      ∀ f ∈ s.fields, ∀ g ∈ s.fields, propertyKey tags f = propertyKey tags g → f = g :=
    List.nodup_map_iff_inj_on distinct
  refine ⟨?_, exists_firstUndeclared, fun hdeclared hshared => exists_clash hdeclared ?_⟩
  · rw [checkTags_eq_ok_iff, hinjective]
  · obtain ⟨f, hf, g, hg, hne, hkey⟩ := hshared
    exact fun hnodup => hne (hinjective.1 hnodup f hf g hg hkey)

/-- A film whose title is stored as its name: a field that is called name is then reported, after
a tag for a field that films do not have. -/
theorem checkTags_verdict_film :
    let film : Shape := ⟨"Film", ["title", "released", "name", "alias"]⟩
    let tags : List Tag := [⟨"title", ""⟩, ⟨"title", "name"⟩, ⟨"alias", "name"⟩]
    film.fields.Nodup ∧
      (∃ t, film.FirstUndeclared (⟨"year", "released"⟩ :: tags) t ∧
        film.checkTags (⟨"year", "released"⟩ :: tags) =
          .error (.unknownField "Film" t.field t.key)) ∧
      (∃ first second, Clash (propertyKey tags) film.fields first second ∧
        film.checkTags tags =
          .error (.duplicateProperty "Film" (propertyKey tags second) first second)) ∧
      film.checkTags tags = .error (.duplicateProperty "Film" "name" "title" "name") := by
  intro film tags
  have distinct : film.fields.Nodup := by decide
  obtain ⟨-, hundeclared, -⟩ := checkTags_verdict film distinct (⟨"year", "released"⟩ :: tags)
  obtain ⟨-, -, hshared⟩ := checkTags_verdict film distinct tags
  refine ⟨distinct, hundeclared ⟨_, List.mem_cons_self, by decide⟩, hshared (by decide) ?_, rfl⟩
  exact ⟨"title", by decide, "name", by decide, by decide, by decide⟩

end PropertyGraph.Shape
