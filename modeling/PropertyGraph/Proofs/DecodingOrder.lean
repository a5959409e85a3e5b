import PropertyGraph.Proofs.PropertyMapping

/-!
# The order in which properties are read

A property map has no order of its own, but it is read entry by entry, and each entry
overwrites the field that its key leads to.  Several keys lead to one field: its name, its name
in another case, its tags.  Where two of them are there with different values, the one that is
read last stays.

> `Uncontended`: no two entries give one field different values.

Entries that are uncontended can be read in any order, and entries of which one leads nowhere
cannot be read in any (`OrderFree`).  These are all:

> Main result (`fromEntries_order`): for the types of records with a given shape and tags,
> reading has the same result in every order exactly where the entries are order-free.

`fromEntries_spellings` is the shortest case of the latter: a name in two spellings.
-/

namespace PropertyGraph

/-- Setting two fields in either order comes to the same, unless it is one field and two
values. -/
theorem Dict.insert_comm {α : Type} (d : Dict α) {k k' : String} {v v' : α}
    (h : k = k' → v = v') : (d.insert k v).insert k' v' = (d.insert k' v').insert k v := by
  refine Dict.ext_get? fun key => ?_
  rw [get?_insert, get?_insert, get?_insert, get?_insert]
  by_cases hk : key = k
  · by_cases hk' : key = k'
    · rw [if_pos hk', if_pos hk, h (hk.symm.trans hk')]
    · rw [if_neg hk', if_pos hk, if_pos hk]
  · rw [if_neg hk, if_neg hk]

namespace RecordType

section Overlay

variable (index : FieldIndex)

/-- The fields that entries lead to, with the values they give them. -/
def assignments (entries : List (String × Json)) : List (String × Json) :=
  entries.filterMap fun e => (index.resolve e.1).map fun f => (f, e.2)

/-- Every entry leads to some field. -/
def Known (entries : List (String × Json)) : Prop :=
  ∀ e ∈ entries, ∃ f, index.resolve e.1 = some f

/-- No two entries give one field different values. -/
def Uncontended (entries : List (String × Json)) : Prop :=
  ∀ a ∈ entries, ∀ b ∈ entries, ∀ f,
    index.resolve a.1 = some f → index.resolve b.1 = some f → a.2 = b.2

/-- No order of the entries can be told from another: they are uncontended, or some entry
leads nowhere and none of them can be read. -/
def OrderFree (entries : List (String × Json)) : Prop :=
  Known index entries → Uncontended index entries

variable {index} {entries entries' : List (String × Json)}

theorem Known.perm (h : Known index entries) (hperm : entries'.Perm entries) :
    Known index entries' := fun e he => h e (hperm.mem_iff.1 he)

/-- Laying known entries over fields sets what they are assigned, one after the other. -/
theorem overlay_eq_foldl (h : Known index entries) : ∀ base : Dict Json,
    overlay index base entries =
      .ok ((assignments index entries).foldl (fun fields a => fields.insert a.1 a.2) base) := by
  induction entries with
  | nil => intro base; rfl
  | cons e rest ih =>
    intro base
    obtain ⟨f, hf⟩ := h e List.mem_cons_self
    have hrest : Known index rest := fun e' he' => h e' (List.mem_cons_of_mem e he')
    unfold overlay assignments
    rw [hf, List.filterMap_cons, hf]
    exact ih hrest (base.insert f e.2)

/-- Entries can be laid over fields only if all of them are known. -/
theorem known_of_overlay : ∀ {entries : List (String × Json)} {base merged : Dict Json},
    overlay index base entries = .ok merged → Known index entries
  | [], _, _, _ => fun _ he => (List.not_mem_nil he).elim
  | (key, value) :: rest, base, merged, h => by
    unfold overlay at h
    cases hres : index.resolve key with
    | none => rw [hres] at h; cases h
    | some f =>
      rw [hres] at h
      intro e he
      rcases List.mem_cons.1 he with rfl | he
      · exact ⟨f, hres⟩
      · exact known_of_overlay h e he

/-- Uncontended entries come to the same in every order. -/
theorem overlay_perm (h : Known index entries) (hun : Uncontended index entries)
    (hperm : entries'.Perm entries) (base : Dict Json) :
    overlay index base entries' = overlay index base entries := by
  rw [overlay_eq_foldl (h.perm hperm), overlay_eq_foldl h]
  have hassigned : (assignments index entries').Perm (assignments index entries) :=
    hperm.filterMap _
  refine congrArg Except.ok (hassigned.symm.foldl_eq' ?_ base).symm
  intro a ha b hb fields
  obtain ⟨e, he, hea⟩ := List.mem_filterMap.1 ha
  obtain ⟨e', he', heb⟩ := List.mem_filterMap.1 hb
  obtain ⟨f, hf, rfl⟩ := Option.map_eq_some_iff.1 hea
  obtain ⟨f', hf', rfl⟩ := Option.map_eq_some_iff.1 heb
  refine fields.insert_comm fun (hff : f = f') => hun e he e' he' f hf ?_
  rw [hff, hf']

/-- The entry that is read last decides its field. -/
theorem get?_overlay_concat {e : String × Json} {f : String} (h : Known index (entries ++ [e]))
    (hf : index.resolve e.1 = some f) (base : Dict Json) :
    ∃ merged, overlay index base (entries ++ [e]) = .ok merged ∧
      merged.get? f = some e.2 := by
  refine ⟨_, overlay_eq_foldl h base, ?_⟩
  have hlast : assignments index (entries ++ [e]) = assignments index entries ++ [(f, e.2)] := by
    simp [assignments, hf]
  rw [hlast, List.foldl_append]
  exact Dict.get?_insert_self _ f e.2

/-- Entries that are order-free come to the same in every order, or to nothing in any. -/
theorem overlay_eq_ok_perm_iff (hfree : OrderFree index entries) (hperm : entries'.Perm entries)
    (base merged : Dict Json) :
    overlay index base entries' = .ok merged ↔ overlay index base entries = .ok merged := by
  constructor
  · intro h
    have hknown : Known index entries := (known_of_overlay h).perm hperm.symm
    rw [← overlay_perm hknown (hfree hknown) hperm, h]
  · intro h
    have hknown : Known index entries := known_of_overlay h
    rw [overlay_perm hknown (hfree hknown) hperm, h]

/-- Of entries that are not order-free each of two can be read last, and then has its way. -/
theorem exists_overlay_ne (h : ¬ OrderFree index entries) (base : Dict Json) :
    ∃ entries', entries'.Perm entries ∧ ∃ merged merged', merged' ≠ merged ∧
      overlay index base entries' = .ok merged' ∧ overlay index base entries = .ok merged := by
  obtain ⟨hknown, hcontended⟩ := Classical.not_imp.1 h
  simp only [Uncontended, not_forall] at hcontended
  obtain ⟨a, ha, b, hb, f, hfa, hfb, hne⟩ := hcontended
  have hlast : ∀ e ∈ entries, index.resolve e.1 = some f → ∃ entries', entries'.Perm entries ∧
      ∃ merged', overlay index base entries' = .ok merged' ∧ merged'.get? f = some e.2 := by
    intro e he hf
    obtain ⟨front, back, rfl⟩ := List.append_of_mem he
    have hperm : ((front ++ back) ++ [e]).Perm (front ++ e :: back) :=
      (List.perm_append_singleton e _).trans List.perm_middle.symm
    exact ⟨_, hperm, get?_overlay_concat (hknown.perm hperm) hf base⟩
  obtain ⟨first, hfirst, merged₁, hmerged₁, hget₁⟩ := hlast a ha hfa
  obtain ⟨second, hsecond, merged₂, hmerged₂, hget₂⟩ := hlast b hb hfb
  obtain ⟨merged, hmerged⟩ : ∃ merged, overlay index base entries = .ok merged :=
    ⟨_, overlay_eq_foldl hknown base⟩
  -- The two orders differ, so one of them differs from the order at hand.
  by_cases heq : merged = merged₁
  · refine ⟨second, hsecond, merged, merged₂, ?_, hmerged₂, hmerged⟩
    rw [heq]
    rintro rfl
    exact hne (Option.some.inj (hget₁.symm.trans hget₂))
  · exact ⟨first, hfirst, merged, merged₁, Ne.symm heq, hmerged₁, hmerged⟩

end Overlay

section Reading

variable {α : Type} (r : RecordType α)

theorem checkedShape_eq_ok_iff {s : Shape} :
    r.checkedShape = .ok s ↔ r.shape? = some s ∧ s.checkTags r.tags = .ok () := by
  unfold checkedShape
  cases r.shape? with
  | none => simp
  | some shape =>
    cases hcheck : shape.checkTags r.tags with
    | error e =>
      simp only [hcheck, Option.some.injEq, reduceCtorEq, false_iff, not_and]
      rintro rfl h
      cases hcheck.symm.trans h
    | ok u =>
      simp only [hcheck, Option.some.injEq, Except.ok.injEq]
      refine ⟨?_, And.left⟩
      rintro rfl
      exact ⟨rfl, hcheck⟩

/-- Reading entries over a record lays them over its fields and decodes what comes of it. -/
theorem fromEntries_eq_ok_iff (entries : List (String × Json)) (x y : α) :
    r.fromEntries entries x = .ok y ↔ ∃ s fields merged, r.checkedShape = .ok s ∧
      r.fieldsOf s x = .ok fields ∧
      overlay (FieldIndex.ofShape s r.tags) fields entries = .ok merged ∧
      r.decode merged = .ok y := by
  unfold fromEntries
  cases hshape : r.checkedShape with
  | error e => simp [bind, Except.bind]
  | ok s =>
    cases hfields : r.fieldsOf s x with
    | error e => simp [bind, Except.bind, hfields]
    | ok fields =>
      cases hmerged : overlay (FieldIndex.ofShape s r.tags) fields entries with
      | error e => simp [bind, Except.bind, hfields, hmerged]
      | ok merged =>
        cases hdecode : r.decode merged <;> simp [bind, Except.bind, hfields, hmerged, hdecode]

end Reading

/-- Records that are nothing but their fields, whatever these hold. -/
def bare (s : Shape) (tags : List Tag) : RecordType (Dict Json) where
  typeName := s.name
  shape? := some s
  tags
  encode fields := .ok (.object fields.entries)
  decode := .ok
  initial := ∅

/-- Bare records are read as what their entries come to. -/
theorem fromEntries_bare {s : Shape} {tags : List Tag} (accepted : s.checkTags tags = .ok ())
    {entries : List (String × Json)} {merged : Dict Json}
    (h : overlay (FieldIndex.ofShape s tags) ∅ entries = .ok merged) :
    (bare s tags).fromEntries entries (bare s tags).initial = .ok merged := by
  have hshape : (bare s tags).checkedShape = .ok s := by
    simp only [checkedShape, bare, accepted]
  exact ((bare s tags).fromEntries_eq_ok_iff entries _ merged).2
    ⟨s, ∅, merged, hshape, rfl, h, rfl⟩

/-- **Where the order of the entries does not show.** Every type with a given shape and tags
reads entries alike in all orders, failing in all or giving one record in all, if the entries
are order-free; and only if they are, unless the type can read nothing at all, for want of a
shape or for its tags. -/
theorem fromEntries_order (shape? : Option Shape) (tags : List Tag)
    (entries : List (String × Json)) :
    (∀ (α : Type) (r : RecordType α), r.shape? = shape? → r.tags = tags →
      ∀ x entries', entries'.Perm entries →
        ∀ y, r.fromEntries entries' x = .ok y ↔ r.fromEntries entries x = .ok y) ↔
    ∀ s, shape? = some s → s.checkTags tags = .ok () →
      OrderFree (FieldIndex.ofShape s tags) entries := by
  constructor
  · rintro halike s rfl accepted
    by_contra hcontended
    obtain ⟨entries', hperm, merged, merged', hne, h', h⟩ := exists_overlay_ne hcontended ∅
    have hread := (halike (Dict Json) (bare s tags) rfl rfl _ entries' hperm merged').1
      (fromEntries_bare accepted h')
    rw [fromEntries_bare accepted h] at hread
    exact hne (Except.ok.inj hread).symm
  · rintro hfree α r rfl rfl x entries' hperm y
    rw [fromEntries_eq_ok_iff, fromEntries_eq_ok_iff]
    refine exists_congr fun s => exists_congr fun fields => exists_congr fun merged => ?_
    refine and_congr_right fun hshape => and_congr_right fun _ => and_congr_left fun _ => ?_
    obtain ⟨hs, accepted⟩ := r.checkedShape_eq_ok_iff.1 hshape
    exact overlay_eq_ok_perm_iff (hfree s hs accepted) hperm fields merged

/-- Two fields, each in one spelling, are read in either order. -/
theorem fromEntries_order_person :
    OrderFree (FieldIndex.ofShape ⟨"Person", ["name", "age"]⟩ Sample.person.tags)
        [("NAME", .string "Tom"), ("Age", .integer 7)] ∧
      Sample.person.fromEntries [("Age", .integer 7), ("NAME", .string "Tom")] ("", none) =
        .ok ("Tom", some 7) := by
  have hfree : OrderFree (FieldIndex.ofShape ⟨"Person", ["name", "age"]⟩ Sample.person.tags)
      [("NAME", .string "Tom"), ("Age", .integer 7)] := by
    have hname : (FieldIndex.ofShape ⟨"Person", ["name", "age"]⟩ Sample.person.tags).resolve
        "NAME" = some "name" := by decide +kernel
    have hage : (FieldIndex.ofShape ⟨"Person", ["name", "age"]⟩ Sample.person.tags).resolve
        "Age" = some "age" := by decide +kernel
    intro _
    simp [Uncontended, hname, hage]
  refine ⟨hfree, ?_⟩
  have halike := (fromEntries_order Sample.person.shape? Sample.person.tags
    [("NAME", .string "Tom"), ("Age", .integer 7)]).2 fun s hs _ => by cases hs; exact hfree
  exact (halike _ Sample.person.toRecordType rfl rfl ("", none) _ (List.Perm.swap _ _ _) _).2
    (by decide +kernel)

/-- One name in two spellings: whichever is read last is the name. -/
theorem fromEntries_spellings :
    [("NAME", .string "Jerry"), ("name", .string "Tom")].Perm
        [("name", Json.string "Tom"), ("NAME", .string "Jerry")] ∧
      Sample.person.fromEntries [("NAME", .string "Jerry"), ("name", .string "Tom")] ("", none) =
        .ok ("Tom", none) ∧
      Sample.person.fromEntries [("name", .string "Tom"), ("NAME", .string "Jerry")] ("", none) =
        .ok ("Jerry", none) := by
  refine ⟨List.Perm.swap _ _ _, by decide +kernel, by decide +kernel⟩

end RecordType
end PropertyGraph
