/-!
# Finite maps from text keys

A `Dict` holds its entries in ascending key order, each key once.  The order is part of the
type, so two maps that hold the same entries are equal, and listing a map needs no choice.

The operations are first defined on plain entry lists (`Dict.put`, `Dict.collect`), where
the shape of a nested value has to be used directly, and then lifted.
-/

namespace PropertyGraph

universe u v

/-- Entries whose keys ascend, each key once. -/
def Ascending {α : Type u} (entries : List (String × α)) : Prop :=
  entries.Pairwise fun a b => a.1 < b.1

/-- A finite map from text keys, listed in ascending key order. -/
structure Dict (α : Type u) where
  entries : List (String × α)
  ascending : Ascending entries

namespace Dict

variable {α : Type u} {β : Type v}

/-- Sets the value of a key in an ascending list of entries. -/
def put (key : String) (value : α) : List (String × α) → List (String × α)
  | [] => [(key, value)]
  | (k, v) :: rest =>
    if key < k then (key, value) :: (k, v) :: rest
    else if key = k then (key, value) :: rest
    else (k, v) :: put key value rest

/-- The ascending list of the given entries; the last entry of a key counts. -/
def collect (entries : List (String × α)) : List (String × α) :=
  entries.foldl (fun acc e => put e.1 e.2 acc) []

/-- Of two different keys that are not in ascending order, the second is the smaller. -/
theorem lt_of_not_lt {a b : String} (hlt : ¬ a < b) (hne : a ≠ b) : b < a := by
  refine Decidable.byContradiction fun h => hne ?_
  exact String.le_antisymm (String.not_lt.1 h) (String.not_lt.1 hlt)

theorem put_keys_lt {key k : String} {value : α} (hk : k < key) :
    ∀ {entries : List (String × α)}, (∀ e ∈ entries, k < e.1) →
      ∀ e ∈ put key value entries, k < e.1
  | [], _, e, he => by
    simp only [put, List.mem_singleton] at he
    rw [he]; exact hk
  | (k', v') :: rest, hall, e, he => by
    unfold put at he
    split at he
    · rcases List.mem_cons.1 he with rfl | he
      · exact hk
      · exact hall e he
    · split at he
      · rcases List.mem_cons.1 he with rfl | he
        · exact hk
        · exact hall e (List.mem_cons_of_mem _ he)
      · rcases List.mem_cons.1 he with rfl | he
        · exact hall _ List.mem_cons_self
        · exact put_keys_lt hk (fun x hx => hall x (List.mem_cons_of_mem _ hx)) e he

/-- Setting a key keeps the entries ascending. -/
theorem put_ascending (key : String) (value : α) :
    ∀ {entries : List (String × α)}, Ascending entries → Ascending (put key value entries)
  | [], _ => by simp [put, Ascending]
  | (k, v) :: rest, h => by
    obtain ⟨hhead, htail⟩ := List.pairwise_cons.1 h
    unfold put
    split
    · next hlt =>
      refine List.pairwise_cons.2 ⟨fun e he => ?_, h⟩
      rcases List.mem_cons.1 he with rfl | he
      · exact hlt
      · exact String.lt_trans hlt (hhead e he)
    · next hnlt =>
      split
      · next heq => subst heq; exact List.pairwise_cons.2 ⟨hhead, htail⟩
      · next hne =>
        exact List.pairwise_cons.2
          ⟨put_keys_lt (lt_of_not_lt hnlt hne) hhead, put_ascending key value htail⟩

/-- Collected entries ascend. -/
theorem collect_ascending (entries : List (String × α)) : Ascending (collect entries) := by
  suffices h : ∀ (l acc : List (String × α)), Ascending acc →
      Ascending (l.foldl (fun acc e => put e.1 e.2 acc) acc) from h entries [] List.Pairwise.nil
  intro l
  induction l with
  | nil => exact fun _ h => h
  | cons e l ih => exact fun acc h => ih _ (put_ascending e.1 e.2 h)

/-- A key that was set has its new value. -/
theorem lookup_put_self (key : String) (value : α) :
    ∀ entries : List (String × α), (put key value entries).lookup key = some value
  | [] => by simp [put]
  | (k, v) :: rest => by
    unfold put
    split
    · simp
    · split
      · simp
      · next hne =>
        rw [List.lookup_cons, beq_false_of_ne hne]
        exact lookup_put_self key value rest

/-- Setting a key leaves the values of all others as they were. -/
theorem lookup_put_of_ne {key other : String} (value : α) (h : other ≠ key) :
    ∀ entries : List (String × α), (put key value entries).lookup other = entries.lookup other
  | [] => by simp [put, List.lookup_cons, beq_false_of_ne h]
  | (k, v) :: rest => by
    unfold put
    split
    · rw [List.lookup_cons, beq_false_of_ne h]
    · split
      · next heq => subst heq; simp [List.lookup_cons, beq_false_of_ne h]
      · rw [List.lookup_cons, List.lookup_cons, lookup_put_of_ne value h rest]

/-- The map without entries. -/
def empty : Dict α := ⟨[], List.Pairwise.nil⟩

instance : EmptyCollection (Dict α) := ⟨empty⟩
instance : Inhabited (Dict α) := ⟨empty⟩

/-- The map of the given entries; the last entry of a key counts. -/
def ofList (entries : List (String × α)) : Dict α := ⟨collect entries, collect_ascending entries⟩

/-- The value of a key. -/
def get? (d : Dict α) (key : String) : Option α := d.entries.lookup key

/-- Without entries no key has a value. -/
@[simp]
theorem get?_empty (key : String) : (∅ : Dict α).get? key = none := rfl

/-- Whether a key has a value. -/
def contains (d : Dict α) (key : String) : Bool := (d.get? key).isSome

/-- The map with the value of one key set. -/
def insert (d : Dict α) (key : String) (value : α) : Dict α :=
  ⟨put key value d.entries, put_ascending key value d.ascending⟩

/-- A key that was set has its new value. -/
@[simp]
theorem get?_insert_self (d : Dict α) (key : String) (value : α) :
    (d.insert key value).get? key = some value := lookup_put_self key value d.entries

/-- Setting a key leaves the values of all others as they were. -/
theorem get?_insert_of_ne (d : Dict α) {key other : String} (value : α) (h : other ≠ key) :
    (d.insert key value).get? other = d.get? other := lookup_put_of_ne value h d.entries

/-- The map with the value of one key set, unless it has one. -/
def insertIfNew (d : Dict α) (key : String) (value : α) : Dict α :=
  if d.contains key then d else d.insert key value

/-- The union of two maps, in which the second decides a shared key. -/
def union (d more : Dict α) : Dict α := more.entries.foldl (fun acc e => acc.insert e.1 e.2) d

/-- The entries that satisfy a test. -/
def filter (p : String → α → Bool) (d : Dict α) : Dict α :=
  ⟨d.entries.filter fun e => p e.1 e.2, List.Pairwise.filter _ d.ascending⟩

/-- The map with each value replaced. -/
def map (f : α → β) (d : Dict α) : Dict β :=
  ⟨d.entries.map fun e => (e.1, f e.2), by exact List.pairwise_map.2 d.ascending⟩

/-- The keys, ascending. -/
def keys (d : Dict α) : List String := d.entries.map Prod.fst

/-- Whether the map has no entries. -/
def isEmpty (d : Dict α) : Bool := d.entries.isEmpty

/-- The number of entries. -/
def size (d : Dict α) : Nat := d.entries.length

/-- Maps with the same entries are equal. -/
@[ext]
theorem ext {a b : Dict α} (h : a.entries = b.entries) : a = b := by
  cases a; cases b; cases h; rfl

instance [DecidableEq α] : DecidableEq (Dict α) := fun a b =>
  decidable_of_iff (a.entries = b.entries) ⟨ext, fun h => h ▸ rfl⟩

end Dict
end PropertyGraph
