import PropertyGraph.Proofs.FragmentText

/-!
# Clauses are flat

The filters of a query come in groups, one group for each variable of its pattern.  A clause is
written in two steps: the conjuncts of each group are joined, and then the groups that have any.
Both steps put the same mark between what they join, so a reader of the clause sees one row of
conjuncts and no groups.  `FragmentText.lean` has this for the characters of a clause; here it is
stated for its text, together with the clauses that are not written at all.

> Main result (`whereClause_flat`): a clause is the row of all conjuncts of all groups, in whatever
> order the maps of the groups are written; there is none exactly if there are no filters, and
> groups without filters do not matter.
-/

namespace PropertyGraph.Query

/-- Groups of filters as they are written: the entries of each map, in some order. -/
def Written : List (String × PropertyMap) → List Group → Prop :=
  List.Forall₂ fun g w => w.1 = g.1 ∧ w.2.Perm g.2.entries

/-- The conjuncts of groups of filters: one for each filter, under the variable of its group, in
the order of the groups and of the entries in each. -/
def conjunctsOf (groups : List Group) : List String :=
  groups.flatMap fun g => conjuncts g.1 g.2

/-- Lists with the same groups of filters, apart from groups without any that only one of the
lists has. -/
inductive AlikeButEmpty : List Group → List Group → Prop
  | nil : AlikeButEmpty [] []
  | both (g : Group) {groups others : List Group} (rest : AlikeButEmpty groups others) :
      AlikeButEmpty (g :: groups) (g :: others)
  | first {g : Group} {groups others : List Group} (isEmpty : g.2 = [])
      (rest : AlikeButEmpty groups others) : AlikeButEmpty (g :: groups) others
  | second {g : Group} {groups others : List Group} (isEmpty : g.2 = [])
      (rest : AlikeButEmpty groups others) : AlikeButEmpty groups (g :: others)

/-! ## Maps in some order -/

/-- Maps are written in ascending order where nothing else is said. -/
theorem written_entries (groups : List (String × PropertyMap)) :
    Written groups (groups.map fun g => (g.1, g.2.entries)) := by
  induction groups with
  | nil => exact .nil
  | cons g rest ih => exact .cons ⟨rfl, .refl _⟩ ih

namespace Written

variable {groups : List (String × PropertyMap)} {written : List Group}

/-- Nothing is written exactly if no map has entries. -/
theorem forall_eq_nil_iff (h : Written groups written) :
    (∀ w ∈ written, w.2 = []) ↔ ∀ g ∈ groups, g.2.isEmpty = true := by
  induction h with
  | nil => exact iff_of_true (List.forall_mem_nil _) (List.forall_mem_nil _)
  | cons hg _ ih =>
    rw [List.forall_mem_cons, List.forall_mem_cons, ih, Dict.isEmpty, List.isEmpty_iff,
      ← List.length_eq_zero_iff, hg.2.length_eq, List.length_eq_zero_iff]

/-- As much is written as the maps have entries. -/
theorem length_conjunctsOf (h : Written groups written) :
    (conjunctsOf written).length = (groups.map fun g => g.2.size).sum := by
  induction h with
  | nil => rfl
  | cons hg _ ih =>
    rw [conjunctsOf, List.flatMap_cons, List.length_append, conjuncts, List.length_map,
      hg.2.length_eq, List.map_cons, List.sum_cons]
    exact congrArg (_ + ·) ih

end Written

/-! ## Filters and conjuncts -/

variable {groups others : List Group}

theorem conjunctsOf_eq_map (groups : List Group) :
    conjunctsOf groups = (filtersOf groups).map fun f => conjunct f.1 f.2.1 f.2.2 := by
  rw [conjunctsOf, filtersOf, List.map_flatMap]
  simp only [List.map_map]
  rfl

/-- There are no filters exactly if no group has any. -/
theorem filtersOf_eq_nil_iff : filtersOf groups = [] ↔ ∀ g ∈ groups, g.2 = [] := by
  rw [filtersOf, List.flatMap_eq_nil_iff]
  exact forall₂_congr fun g _ => List.map_eq_nil_iff

/-- A group without filters contributes none. -/
theorem filtersOf_cons_of_eq_nil {g : Group} (h : g.2 = []) :
    filtersOf (g :: groups) = filtersOf groups := by
  rw [filtersOf_cons, h, List.map_nil, List.nil_append]

/-- Lists that differ in groups without filters have the same filters. -/
theorem AlikeButEmpty.filtersOf_eq (h : AlikeButEmpty groups others) :
    filtersOf groups = filtersOf others := by
  induction h with
  | nil => rfl
  | both g _ ih => rw [filtersOf_cons, filtersOf_cons, ih]
  | first hempty _ ih => rw [filtersOf_cons_of_eq_nil hempty, ih]
  | second hempty _ ih => rw [filtersOf_cons_of_eq_nil hempty, ih]

/-! ## The text of a clause -/

/-- Without filters there is no clause. -/
theorem whereClauseOf_of_filtersOf_eq_nil (h : filtersOf groups = []) :
    whereClauseOf groups = "" := by
  rw [← String.toList_inj, toList_whereClauseOf, h, clauseText_nil]
  rfl

/-- With filters the clause is a row of their conjuncts. -/
theorem whereClauseOf_of_filtersOf_ne_nil (h : filtersOf groups ≠ []) :
    whereClauseOf groups = " WHERE " ++ " AND ".intercalate (conjunctsOf groups) := by
  obtain ⟨f, rest, hfilters⟩ := List.exists_cons_of_ne_nil h
  have htexts : (conjunctsOf groups).map String.toList = (f :: rest).map filterText := by
    rw [conjunctsOf_eq_map, hfilters, List.map_map]
    exact List.map_congr_left fun f _ => toList_conjunct f.1 f.2
  rw [← String.toList_inj, toList_whereClauseOf, hfilters, clauseText_cons, String.toList_append,
    String.toList_intercalate, htexts]
  exact congrArg (" WHERE ".toList ++ ·) (intercalate_map_cons conjunction filterText f rest).symm

theorem whereClauseOf_eq_empty_iff : whereClauseOf groups = "" ↔ filtersOf groups = [] := by
  refine ⟨fun hclause => ?_, whereClauseOf_of_filtersOf_eq_nil⟩
  by_contra hne
  -- The keyword stands in front of whatever conjuncts there are.
  rw [whereClauseOf_of_filtersOf_ne_nil hne, ← String.toList_inj, String.toList_append] at hclause
  exact List.cons_ne_nil _ _ (List.append_eq_nil_iff.1 hclause).1

/-- The clause tells no more than the filters. -/
theorem whereClauseOf_eq_of_filtersOf_eq (h : filtersOf groups = filtersOf others) :
    whereClauseOf groups = whereClauseOf others := by
  rw [← String.toList_inj, toList_whereClauseOf, toList_whereClauseOf, h]

/-- **Clauses are flat.**  Whatever the order in which the maps of the groups are written: without
any filter there is no clause, and only then.  With filters the clause is the keyword and the
conjuncts of all groups, one for each filter, in the order of the groups and of the entries in each,
with `AND` between any two that follow one another.  Groups without filters can be put in or left
out anywhere, and the text stays what it was. -/
theorem whereClause_flat (groups : List (String × PropertyMap)) (written : List Group)
    (order : Written groups written) :
    (whereClauseOf written = "" ↔ ∀ g ∈ groups, g.2.isEmpty = true) ∧
    ((∃ g ∈ groups, g.2.isEmpty = false) →
      whereClauseOf written = " WHERE " ++ " AND ".intercalate (conjunctsOf written)) ∧
    (conjunctsOf written).length = (groups.map fun g => g.2.size).sum ∧
    ∀ others, AlikeButEmpty written others → whereClauseOf others = whereClauseOf written := by
  have hnone : filtersOf written = [] ↔ ∀ g ∈ groups, g.2.isEmpty = true :=
    filtersOf_eq_nil_iff.trans order.forall_eq_nil_iff
  refine ⟨whereClauseOf_eq_empty_iff.trans hnone, ?_, order.length_conjunctsOf, fun others h => ?_⟩
  · rintro ⟨g, hg, hfilters⟩
    refine whereClauseOf_of_filtersOf_ne_nil fun hempty => ?_
    rw [hnone.1 hempty g hg] at hfilters
    cases hfilters
  · exact (whereClauseOf_eq_of_filtersOf_eq h.filtersOf_eq).symm

/-- Filters for two people and none for what is between them: the clause is the same without the
group for that.  The filters for Tom are written in either order. -/
theorem whereClause_flat_people :
    let tom : PropertyMap := Dict.ofList [("age", .integer 10), ("name", .string "Tom")]
    let jerry : PropertyMap := Dict.ofList [("age", .integer 12)]
    let groups := [("sv", tom), ("r", ∅), ("ev", jerry)]
    let turned : List Group :=
      [("sv", [("name", .string "Tom"), ("age", .integer 10)]), ("r", []),
        ("ev", [("age", .integer 12)])]
    (∃ g ∈ groups, g.2.isEmpty = false) ∧ Written groups turned ∧
      whereClause groups =
        " WHERE " ++ " AND ".intercalate ["sv.age=10", "sv.name='Tom'", "ev.age=12"] ∧
      whereClauseOf turned =
        " WHERE " ++ " AND ".intercalate ["sv.name='Tom'", "sv.age=10", "ev.age=12"] ∧
      whereClause [("sv", tom), ("ev", jerry), ("v", ∅)] = whereClause groups := by
  intro tom jerry groups turned
  have hfilters : ∃ g ∈ groups, g.2.isEmpty = false :=
    ⟨("sv", tom), List.mem_cons_self, by rfl⟩
  have hturned : Written groups turned :=
    .cons ⟨rfl, .swap _ _ _⟩ (.cons ⟨rfl, .nil⟩ (.cons ⟨rfl, .refl _⟩ .nil))
  obtain ⟨-, hrow, -, halike⟩ := whereClause_flat groups _ (written_entries groups)
  obtain ⟨-, hturnedRow, -⟩ := whereClause_flat groups turned hturned
  exact ⟨hfilters, hturned, hrow hfilters, hturnedRow hfilters,
    halike _ (.both _ (.first rfl (.both _ (.second rfl .nil))))⟩

end PropertyGraph.Query
