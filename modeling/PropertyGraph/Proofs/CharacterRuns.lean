import Mathlib.Data.List.TakeWhile

/-!
# Runs of characters

Readers go through a text by runs: the characters that pass a test, up to the first that does
not.  Where such a run ends is a matter of what follows it (`Stops`), and a text is split into a
run and what follows in one way (`span_eq_iff`).
-/

namespace PropertyGraph

/-- The next character, if there is one, fails a test. -/
def Stops (p : Char → Bool) (rest : List Char) : Prop := ∀ c ∈ rest.head?, p c = false

/-- A list is split in one way into characters that pass a test and a rest that does not go on
with them. -/
theorem span_eq_iff {p : Char → Bool} {cs front rest : List Char} :
    (cs.takeWhile p = front ∧ cs.dropWhile p = rest) ↔
      cs = front ++ rest ∧ (∀ c ∈ front, p c = true) ∧ Stops p rest := by
  constructor
  · rintro ⟨rfl, rfl⟩
    refine ⟨List.takeWhile_append_dropWhile.symm, fun c hc => List.mem_takeWhile_imp hc,
      fun c hc => ?_⟩
    have hfirst := List.head?_dropWhile_not p cs
    rw [Option.mem_def.1 hc] at hfirst
    exact hfirst
  · rintro ⟨rfl, hfront, hrest⟩
    rw [List.takeWhile_append_of_pos hfront, List.dropWhile_append_of_pos hfront]
    cases rest with
    | nil => simp
    | cons c rest =>
      have hc : ¬ p c = true := by simp [hrest c rfl]
      rw [List.takeWhile_cons_of_neg hc, List.dropWhile_cons_of_neg hc, List.append_nil]
      exact ⟨rfl, rfl⟩

theorem stops_cons {p : Char → Bool} {c : Char} (h : p c = false) (rest : List Char) :
    Stops p (c :: rest) := by
  intro d hd
  cases hd
  exact h

/-- What stops a text stops the start of it. -/
theorem Stops.left {p : Char → Bool} {front rest : List Char} (h : Stops p (front ++ rest)) :
    Stops p front := by
  intro c hc
  refine h c ?_
  rw [List.head?_append, Option.mem_def.1 hc]
  rfl

theorem Stops.append {p : Char → Bool} {front : List Char} (h : Stops p front) (hne : front ≠ [])
    (rest : List Char) : Stops p (front ++ rest) := by
  obtain ⟨c, front, rfl⟩ := List.exists_cons_of_ne_nil hne
  exact stops_cons (h c rfl) (front ++ rest)

end PropertyGraph
