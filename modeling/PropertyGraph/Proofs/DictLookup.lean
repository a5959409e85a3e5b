import Mathlib.Data.List.Nodup
import PropertyGraph.Dict

/-!
# Finite maps through their look-up

A `Dict` is an ascending list of entries, but all that its users see is which value a key
has.  This file moves every operation to that view: what `get?` answers after `ofList`,
`insertIfNew` and `filter`, and that an entry is listed exactly when its key has its value
(`mem_entries_iff`).

Main result: `ext_get?` — two maps that answer every look-up alike are equal.  The order of
the entries is what makes this hold on the nose and not only up to a permutation.
-/

namespace PropertyGraph.Dict

universe u

variable {α : Type u}

/-! ## Entry lists with distinct keys -/

/-- In a list without repeated keys, looking a key up finds exactly the entries listed. -/
theorem lookup_eq_some_iff_mem {entries : List (String × α)} (h : (entries.map Prod.fst).Nodup)
    (key : String) (value : α) :
    entries.lookup key = some value ↔ (key, value) ∈ entries := by
  induction entries with
  | nil => simp
  | cons e rest ih =>
    obtain ⟨k, v⟩ := e
    rw [List.map_cons, List.nodup_cons] at h
    obtain ⟨hk, hrest⟩ := h
    rw [List.lookup_cons]
    by_cases hkey : key = k
    · subst hkey
      have hnot : (key, value) ∉ rest := fun hm => hk (List.mem_map.2 ⟨_, hm, rfl⟩)
      simp [hnot, eq_comm]
    · rw [beq_false_of_ne hkey]
      simp [ih hrest, hkey]

/-- An ascending list repeats no key. -/
theorem nodup_keys_of_ascending {entries : List (String × α)} (h : Ascending entries) :
    (entries.map Prod.fst).Nodup := by
  rw [List.nodup_iff_pairwise_ne, List.pairwise_map]
  refine List.Pairwise.imp_of_mem ?_ h
  intro a b _ _ (hlt : a.1 < b.1) heq
  rw [heq] at hlt
  exact String.lt_irrefl _ hlt

/-- A key is listed exactly with the value that it has. -/
theorem mem_entries_iff (d : Dict α) (key : String) (value : α) :
    (key, value) ∈ d.entries ↔ d.get? key = some value :=
  (lookup_eq_some_iff_mem (nodup_keys_of_ascending d.ascending) key value).symm

/-- Every entry has its value under its key. -/
theorem get?_of_mem {d : Dict α} {e : String × α} (h : e ∈ d.entries) :
    d.get? e.1 = some e.2 := (d.mem_entries_iff e.1 e.2).1 h

/-- A key with a value is contained. -/
theorem contains_of_get? {d : Dict α} {key : String} {value : α} (h : d.get? key = some value) :
    d.contains key = true := by
  rw [contains, h, Option.isSome_some]

/-- The keys are those that have a value. -/
theorem mem_keys_iff (d : Dict α) (key : String) :
    key ∈ d.keys ↔ ∃ value, d.get? key = some value := by
  constructor
  · intro hkey
    obtain ⟨e, he, rfl⟩ := List.mem_map.1 hkey
    exact ⟨e.2, get?_of_mem he⟩
  · rintro ⟨value, hvalue⟩
    exact List.mem_map_of_mem ((d.mem_entries_iff key value).2 hvalue)

/-! ## Equality of maps -/

/-- Ascending lists of which each holds the entries of the other are equal: their heads are
both the entry of the least key. -/
theorem eq_of_ascending : ∀ {a b : List (String × α)}, Ascending a → Ascending b →
    (∀ e, e ∈ a ↔ e ∈ b) → a = b
  | [], [], _, _, _ => rfl
  | [], y :: _, _, _, h => absurd ((h y).2 List.mem_cons_self) List.not_mem_nil
  | x :: _, [], _, _, h => absurd ((h x).1 List.mem_cons_self) List.not_mem_nil
  | x :: xs, y :: ys, ha, hb, h => by
    obtain ⟨hx, hxs⟩ := List.pairwise_cons.1 ha
    obtain ⟨hy, hys⟩ := List.pairwise_cons.1 hb
    have hxy : x = y := by
      rcases List.mem_cons.1 ((h x).1 List.mem_cons_self) with heq | hxin
      · exact heq
      · rcases List.mem_cons.1 ((h y).2 List.mem_cons_self) with heq | hyin
        · exact heq.symm
        · exact absurd (String.lt_trans (hx y hyin) (hy x hxin)) (String.lt_irrefl _)
    subst hxy
    refine congrArg (x :: ·) (eq_of_ascending hxs hys fun e => ?_)
    have hne : ∀ {l : List (String × α)}, (∀ z ∈ l, x.1 < z.1) → x ∉ l :=
      fun hl hm => String.lt_irrefl _ (hl x hm)
    have he := h e
    rw [List.mem_cons, List.mem_cons] at he
    by_cases hex : e = x
    · subst hex
      exact iff_of_false (hne hx) (hne hy)
    · simpa [hex] using he

/-- Maps that answer every look-up alike are equal. -/
theorem ext_get? {a b : Dict α} (h : ∀ key, a.get? key = b.get? key) : a = b := by
  refine ext (eq_of_ascending a.ascending b.ascending fun e => ?_)
  rw [mem_entries_iff a e.1 e.2, mem_entries_iff b e.1 e.2, h e.1]

/-! ## Operations -/

/-- Setting a key decides the look-up of that key alone. -/
theorem get?_insert (d : Dict α) (key other : String) (value : α) :
    (d.insert key value).get? other = if other = key then some value else d.get? other := by
  by_cases h : other = key
  · rw [if_pos h, h, get?_insert_self]
  · rw [if_neg h, get?_insert_of_ne d value h]

/-- Setting a key unless it has a value decides the look-up of a key without one. -/
theorem get?_insertIfNew (d : Dict α) (key other : String) (value : α) :
    (d.insertIfNew key value).get? other =
      (d.get? other).or (if other = key then some value else none) := by
  unfold insertIfNew contains
  cases hkey : d.get? key with
  | some v =>
    rw [Option.isSome_some, if_pos rfl]
    by_cases h : other = key
    · subst h; simp [hkey]
    · simp [h]
  | none =>
    rw [Option.isSome_none, if_neg Bool.false_ne_true, get?_insert]
    by_cases h : other = key
    · subst h; simp [hkey]
    · simp [h]

/-- A key keeps its value when the entry passes the test. -/
theorem get?_filter (p : String → α → Bool) (d : Dict α) (key : String) :
    (d.filter p).get? key = (d.get? key).filter (p key) := by
  refine Option.ext fun value => ?_
  rw [← mem_entries_iff, Option.filter_eq_some_iff, ← mem_entries_iff]
  exact List.mem_filter

/-- A union answers from its second map first. -/
theorem get?_union (d more : Dict α) (key : String) :
    (d.union more).get? key = (more.get? key).or (d.get? key) := by
  suffices h : ∀ (entries : List (String × α)) (acc : Dict α), (entries.map Prod.fst).Nodup →
      (entries.foldl (fun acc e => acc.insert e.1 e.2) acc).get? key =
        (entries.lookup key).or (acc.get? key) from
    h more.entries d (nodup_keys_of_ascending more.ascending)
  intro entries
  induction entries with
  | nil => intro acc _; simp
  | cons e rest ih =>
    intro acc hnodup
    obtain ⟨k, v⟩ := e
    rw [List.map_cons, List.nodup_cons] at hnodup
    rw [List.foldl_cons, ih _ hnodup.2, get?_insert, List.lookup_cons]
    by_cases h : key = k
    · subst h
      have hnone : rest.lookup key = none := by
        rw [List.lookup_eq_none_iff]
        exact fun p hp => bne_iff_ne.2 fun heq => hnodup.1 (List.mem_map.2 ⟨p, hp, heq.symm⟩)
      simp [hnone]
    · rw [if_neg h, beq_false_of_ne h]

/-- A union with the map without entries. -/
theorem empty_union (d : Dict α) : (∅ : Dict α).union d = d := by
  refine ext_get? fun key => ?_
  rw [get?_union, get?_empty, Option.or_none]

/-- Nothing remains of a first map whose keys all have a value in the second. -/
theorem union_eq_of_contains {d more : Dict α}
    (h : ∀ key, d.contains key = true → more.contains key = true) : d.union more = more := by
  refine ext_get? fun key => ?_
  rw [get?_union]
  cases hmore : more.get? key with
  | some value => rfl
  | none =>
    cases hd : d.get? key with
    | none => rfl
    | some value =>
      obtain ⟨value', hvalue'⟩ := Option.isSome_iff_exists.1 (h key (contains_of_get? hd))
      cases hmore.symm.trans hvalue'

/-! ## Maps of listed entries -/

/-- Of the entries listed for a key the last counts. -/
theorem get?_ofList (entries : List (String × α)) (key : String) :
    (ofList entries).get? key = entries.reverse.lookup key := by
  suffices h : ∀ acc : List (String × α),
      (entries.foldl (fun acc e => put e.1 e.2 acc) acc).lookup key =
        (entries.reverse.lookup key).or (acc.lookup key) by
    have hnil := h []
    rwa [List.lookup_nil, Option.or_none] at hnil
  induction entries with
  | nil => simp
  | cons e rest ih =>
    intro acc
    obtain ⟨k, v⟩ := e
    rw [List.foldl_cons, ih, List.reverse_cons, List.lookup_append, Option.or_assoc]
    congr 1
    by_cases h : key = k
    · subst h; simp [lookup_put_self]
    · rw [lookup_put_of_ne v h, List.lookup_cons, beq_false_of_ne h]; simp

/-- The map of entries with distinct keys has exactly these. -/
theorem get?_ofList_eq_some_iff {entries : List (String × α)}
    (h : (entries.map Prod.fst).Nodup) (key : String) (value : α) :
    (ofList entries).get? key = some value ↔ (key, value) ∈ entries := by
  have hrev : (entries.reverse.map Prod.fst).Nodup := by
    rw [List.map_reverse]; exact List.nodup_reverse.2 h
  rw [get?_ofList, lookup_eq_some_iff_mem hrev, List.mem_reverse]

/-- The map of the entries of a map is the map. -/
theorem ofList_entries (d : Dict α) : ofList d.entries = d := by
  refine ext_get? fun key => Option.ext fun value => ?_
  rw [get?_ofList_eq_some_iff (nodup_keys_of_ascending d.ascending), mem_entries_iff]

/-- Entries in ascending order are left as they are. -/
theorem collect_of_ascending {entries : List (String × α)} (h : Ascending entries) :
    collect entries = entries := congrArg Dict.entries (ofList_entries ⟨entries, h⟩)

/-- A map of entries has no others. -/
theorem mem_of_mem_ofList {entries : List (String × α)} {e : String × α}
    (h : e ∈ (ofList entries).entries) : e ∈ entries := by
  have hlookup := get?_of_mem h
  rw [get?_ofList, List.lookup_eq_some_iff] at hlookup
  obtain ⟨front, back, heq, -⟩ := hlookup
  rw [← List.mem_reverse, heq]
  simp

end PropertyGraph.Dict
