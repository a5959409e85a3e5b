import Mathlib.Data.List.Induction
import PropertyGraph.Embedded.Session
import PropertyGraph.Proofs.EmbeddedGrowth
import PropertyGraph.Proofs.NullDropping

/-!
# An embedded graph as a list of records

For a type that keeps its promises (`Listable`), an embedded graph that only such records are
stored in is a list of records.  Creating appends; merging appends unless an earlier record
has every value of the new one; reading an example filters.  The list knows nothing of
properties, keys, nodes or rows.

> `persist_lists`: one call on the graph is one call on the list (`Lists` relates the two).

> Main result (`persistAll_eq_records`): after any calls, reading an example gives the records
> of the list that have its values, in their order, and the identifier that the next call
> returns is that of the list entry it appended or reused.

Vertices are numbered from one, and the last number is `2 ^ 63 - 1`: a list of that length
takes no further record.
-/

namespace PropertyGraph.Embedded

/-! ## The list -/

section Records

variable {α : Type} (fields : α → Dict Json)

end Records

/-! ## The graph beside the list -/

namespace Session

end Session

section Lists

variable {α : Type} (t : ObjectType α) (label : String) (fields : α → Dict Json)

variable {t label fields} {sh : Shape} (h : Listable t label sh fields)

include h

variable {s : State} {records : List α}

end Lists

/-- The fields of a person. -/
def personFields (p : String × Option Int) : Dict Json :=
  Dict.ofList [("age", p.2.elim .null .integer), ("name", .string p.1)]

theorem get?_personFields (p : String × Option Int) (f : String) :
    (personFields p).get? f = if f = "name" then some (.string p.1)
      else if f = "age" then some (p.2.elim .null .integer) else none := by
  rw [personFields, Dict.get?_ofList, List.reverse_cons, List.reverse_singleton,
    List.singleton_append, List.lookup_cons, List.lookup_cons, List.lookup_nil]
  by_cases hname : f = "name"
  · simp [hname]
  · by_cases hage : f = "age"
    · simp [hage]
    · simp [beq_false_of_ne hname, beq_false_of_ne hage, hname, hage]

/-- Every person has a name and an age, which may be null. -/
theorem contains_personFields (p : String × Option Int) (f : String) :
    (personFields p).contains f ↔ f ∈ ["name", "age"] := by
  rw [Dict.contains, get?_personFields]
  by_cases hname : f = "name"
  · simp [hname]
  · by_cases hage : f = "age"
    · simp [hage]
    · simp [hname, hage]

/-- People can be listed: only their age may be unknown, and it is null in the initial person. -/
theorem listable_person :
    Listable Sample.person "Person" ⟨"Person", ["name", "age"]⟩ personFields where
  sameLabel _ := rfl
  labelled := by decide
  kind _ := rfl
  shape := rfl
  accepted := rfl
  apart := by
    refine ⟨?_, ?_⟩
    · intro t ht u hu _ _
      rw [List.mem_singleton.1 ht, List.mem_singleton.1 hu]
    · intro t ht _ field hfield hne
      cases List.mem_singleton.1 ht
      rcases List.mem_cons.1 hfield with hname | hage
      · exact absurd hname hne
      · rw [List.mem_singleton.1 hage]
        decide +kernel
  encode _ := rfl
  declared p f := (contains_personFields p f).1
  decode p := by
    obtain ⟨name, age⟩ := p
    have hname : (personFields (name, age)).get? "name" = some (.string name) := by
      rw [get?_personFields, if_pos rfl]
    have hage : (personFields (name, age)).get? "age" = some (age.elim .null .integer) := by
      rw [get?_personFields, if_neg (by decide), if_pos rfl]
    simp only [Sample.person, hname, hage]
    cases age <;> rfl
  nulls p f hnull := by
    rw [get?_personFields] at hnull ⊢
    split at hnull
    next => cases hnull
    next hname =>
      rw [if_neg hname]
      split at hnull
      next hage => rw [if_pos hage]; rfl
      next => cases hnull
  gaps p f hgap := get?_eq_none_of_contains contains_personFields hgap _

end PropertyGraph.Embedded
