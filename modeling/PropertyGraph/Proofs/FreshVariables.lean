import PropertyGraph.Proofs.PatternVariables

/-!
# Derived variables are fresh

A derived name that is bound already is numbered, and numbers are tried one after the other
(`Tries`).  Nothing in the search itself says that it ends.  It does because the numbered forms of
a name are all different and differ from the name, so that each number that is refused takes up a
bound name of its own: the base and the numbers before the one that is found are at most as many
as the bound names (`le_length_of_taken`).

How a name comes about does not matter for that.  A name that is bound may itself be a base with a
number, such as `pe1` from a label, and a number is then refused like any other.

> Main result (`variableFor_fresh`): the search ends, at the smallest number that makes the name
> new; and in an edge pattern that is accepted a derived variable differs from those before it,
> while a name that is given is used as it is.
-/

namespace PropertyGraph.Query

/-! ## The search -/

/-- The search for a number, from some number on, and the number at which it ends: the first with
which the name is not bound. -/
inductive Tries (base : String) (bound : List String) : Nat → Nat → Prop
  | found {n : Nat} (free : base ++ toString n ∉ bound) : Tries base bound n n
  | next {n last : Nat} (taken : base ++ toString n ∈ bound)
      (rest : Tries base bound (n + 1) last) : Tries base bound n last

variable {base : String} {bound : List String}

/-- The search ends where it finds the first number that is free. -/
theorem tries_iff {first last : Nat} : Tries base bound first last ↔
    first ≤ last ∧ base ++ toString last ∉ bound ∧
      ∀ m, first ≤ m → m < last → base ++ toString m ∈ bound := by
  constructor
  · intro h
    induction h with
    | found free => exact ⟨Nat.le_refl _, free, fun m hle hlt => absurd hlt (Nat.not_lt.2 hle)⟩
    | @next n last taken _ ih =>
      obtain ⟨hle, hfree, hbefore⟩ := ih
      refine ⟨by omega, hfree, fun m hm hlt => ?_⟩
      rcases Nat.eq_or_lt_of_le hm with rfl | hgt
      · exact taken
      · exact hbefore m hgt hlt
  · rintro ⟨hle, hfree, hbefore⟩
    obtain ⟨d, rfl⟩ := Nat.exists_eq_add_of_le hle
    -- The induction is on the numbers that are still to be refused.
    induction d generalizing first with
    | zero => exact .found hfree
    | succ d ih =>
      have hshift : first + 1 + d = first + (d + 1) := by omega
      refine .next (hbefore first (Nat.le_refl _) (by omega)) ?_
      rw [← hshift] at hfree hbefore ⊢
      exact ih (by omega) hfree fun m hm hlt => hbefore m (by omega) hlt

/-- A name is not one of its numbered forms. -/
theorem numbered_ne_self (base : String) (n : Nat) : base ++ toString n ≠ base := by
  intro h
  have hchars := congrArg String.toList h
  rw [String.toList_append, List.append_right_eq_self, Nat.toString_eq_repr, Nat.toList_repr]
    at hchars
  exact Nat.toDigits_ne_nil hchars

/-- A base that is bound with all numbers before some number: these are different names, of which
there are no more than names are bound. -/
theorem le_length_of_taken {n : Nat} (hpos : 0 < n) (hbase : base ∈ bound)
    (hbefore : ∀ m, 1 ≤ m → m < n → base ++ toString m ∈ bound) : n ≤ bound.length := by
  let taken := base :: (List.range (n - 1)).map fun m => base ++ toString (m + 1)
  have hnodup : taken.Nodup := by
    refine List.nodup_cons.2 ⟨?_, List.nodup_range.map fun a b h => ?_⟩
    · rw [List.mem_map]
      rintro ⟨m, -, heq⟩
      exact numbered_ne_self base (m + 1) heq
    · exact Nat.succ.inj (numbered_injective base h)
  have hsubset : taken ⊆ bound := by
    refine List.cons_subset.2 ⟨hbase, fun name hname => ?_⟩
    obtain ⟨m, hm, rfl⟩ := List.mem_map.1 hname
    exact hbefore (m + 1) (by omega) (by have := List.mem_range.1 hm; omega)
  have hle := (hnodup.subperm hsubset).length_le
  simp only [taken, List.length_cons, List.length_map, List.length_range] at hle
  omega

/-- A base that is bound is numbered with the first number that is free. -/
theorem freshName_of_mem (hbase : base ∈ bound) : ∃ n, Tries base bound 1 n ∧
    freshName base bound = base ++ toString n := by
  unfold freshName
  rw [if_pos (List.contains_iff_mem.2 hbase)]
  dsimp only
  rw [List.find?_map]
  cases hfind : (List.range (bound.length + 1)).find?
      ((fun name => !bound.contains name) ∘ fun n => base ++ toString (n + 1)) with
  | some n =>
    rw [List.find?_range_eq_some] at hfind
    obtain ⟨hfree, -, hbefore⟩ := hfind
    refine ⟨n + 1, tries_iff.2 ⟨by omega, by simpa using hfree, fun m hm hlt => ?_⟩, rfl⟩
    obtain ⟨k, rfl⟩ := Nat.exists_eq_add_of_le' hm
    simpa using hbefore k (by omega)
  | none =>
    -- As many names as this would not be bound.
    rw [List.find?_range_eq_none] at hfind
    have hall : ∀ m, 1 ≤ m → m < bound.length + 1 → base ++ toString m ∈ bound := by
      intro m hm hlt
      obtain ⟨k, rfl⟩ := Nat.exists_eq_add_of_le' hm
      simpa using hfind k (by omega)
    have hle := le_length_of_taken (Nat.succ_pos _) hbase hall
    omega

/-! ## The variables of a pattern -/

namespace EdgePattern

variable (p : EdgePattern)

theorem endName_ne_startName (h : p.endVariableName = none) : p.endName ≠ p.startName := by
  have hfresh := freshName_not_mem (baseName p.endLabels) [p.startName]
  rw [List.mem_singleton] at hfresh
  rwa [endName, h]

theorem edgeName_ne (h : p.variableName = none) :
    p.edgeName ≠ p.startName ∧ p.edgeName ≠ p.endName := by
  have hfresh := freshName_not_mem (baseName p.labels) [p.startName, p.endName]
  rw [List.mem_cons, List.mem_singleton, not_or] at hfresh
  rwa [edgeName, h]

end EdgePattern

/-- **Derived variables are fresh.**  For any labels and any names that are bound: a name derived
from the first label is the base where that is not bound.  Where it is, the search for a number
ends, after no more numbers than there are bound names, at the smallest positive number that makes
the name new, and that is the name.  In an edge pattern that is accepted a name that is given is
used as it is, a derived end differs from the start, a derived relationship differs from both, and
without given names all three differ. -/
theorem variableFor_fresh :
    (∀ labels bound,
      (baseName labels ∉ bound → variableFor none labels bound = baseName labels) ∧
      (baseName labels ∈ bound → ∃ n, Tries (baseName labels) bound 1 n ∧ n ≤ bound.length ∧
        variableFor none labels bound = baseName labels ++ toString n ∧
        0 < n ∧ baseName labels ++ toString n ∉ bound ∧
        ∀ m, 0 < m → m < n → baseName labels ++ toString m ∈ bound)) ∧
    ∀ (p : EdgePattern) (text : String), p.build = .ok text → text = p.text ∧
      (∀ name, p.startVariableName = some name → p.startName = name) ∧
      (∀ name, p.endVariableName = some name → p.endName = name) ∧
      (∀ name, p.variableName = some name → p.edgeName = name) ∧
      (p.endVariableName = none → p.endName ≠ p.startName) ∧
      (p.variableName = none → p.edgeName ≠ p.startName ∧ p.edgeName ≠ p.endName) ∧
      (p.startVariableName = none → p.endVariableName = none → p.variableName = none →
        p.names.Nodup) := by
  refine ⟨fun labels bound => ⟨fun hfree => ?_, fun hbound => ?_⟩, fun p text hbuild => ?_⟩
  · exact if_neg (by simpa using hfree)
  · obtain ⟨n, htries, hname⟩ := freshName_of_mem hbound
    obtain ⟨hpos, hfree, hbefore⟩ := tries_iff.1 htries
    exact ⟨n, htries, le_length_of_taken hpos hbound hbefore, hname, hpos, hfree, hbefore⟩
  · have htext : text = p.text := by
      unfold EdgePattern.build at hbuild
      split at hbuild
      next => cases hbuild
      next => exact (Except.ok.inj hbuild).symm
    refine ⟨htext, ?_, ?_, ?_, p.endName_ne_startName, p.edgeName_ne, ?_⟩
    · intro name h
      rw [EdgePattern.startName, h]
      rfl
    · intro name h
      rw [EdgePattern.endName, h]
      rfl
    · intro name h
      rw [EdgePattern.edgeName, h]
      rfl
    · intro _ hend hedge
      obtain ⟨hstart, hfinish⟩ := p.edgeName_ne hedge
      simpa [EdgePattern.names] using
        ⟨⟨hstart.symm, (p.endName_ne_startName hend).symm⟩, hfinish⟩

/-- A start that is called by its label what the relationship would be called by number, after the
end. -/
def numberedPattern : EdgePattern where
  startLabels := ["P1"]
  endLabels := ["P"]
  labels := ["p"]

/-- The first number is refused, since the start has the name already. -/
theorem variableFor_fresh_numbered :
    baseName ["p"] ∈ ["p1", "p"] ∧ variableFor none ["p"] ["p1", "p"] = "p2" ∧
      (∃ n, Tries (baseName ["p"]) ["p1", "p"] 1 n ∧ n ≤ 2 ∧
        variableFor none ["p"] ["p1", "p"] = baseName ["p"] ++ toString n) ∧
      numberedPattern.build = .ok "MATCH (p1:P1)-[p2:p]-(p:P)  return p2" ∧
      numberedPattern.names.Nodup := by
  have hbound : baseName ["p"] ∈ ["p1", "p"] := by decide +kernel
  have hbuild : numberedPattern.build = .ok "MATCH (p1:P1)-[p2:p]-(p:P)  return p2" := by
    decide +kernel
  obtain ⟨hderived, hpattern⟩ := variableFor_fresh
  obtain ⟨n, htries, hle, hname, -⟩ := (hderived ["p"] ["p1", "p"]).2 hbound
  obtain ⟨-, -, -, -, -, -, hnodup⟩ := hpattern numberedPattern _ hbuild
  exact ⟨hbound, by decide +kernel, ⟨n, htries, hle, hname⟩, hbuild, hnodup rfl rfl rfl⟩

end PropertyGraph.Query
