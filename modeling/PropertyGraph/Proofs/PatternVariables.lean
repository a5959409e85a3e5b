import Mathlib.Data.List.Nodup
import Mathlib.Data.List.Perm.Subperm
import PropertyGraph.Query.Statement

/-!
# Variables of an edge pattern

A name that is derived from a label avoids the names that were bound before it
(`freshName_not_mem`), so a derived name never meets an earlier one.  A name that is given
explicitly avoids nothing.  In a request for edges the relationship is called `r`, and it is
bound last: the endpoints are named without regard to it.

> Main result (`matchEdge_names_nodup_iff`): the three variables of a request for edges that is
> accepted are different exactly if the endpoints have names of their own, or the first label of
> neither is the single letter `r`, small or capital.
-/

namespace PropertyGraph

namespace Text

/-! ## The letter r -/

/-- A character has some lower-case form. -/
theorem lowerChar_ne_nil (c : Char) : lowerChar c ≠ [] := by
  unfold lowerChar
  cases imageIn lowerRuns c.toNat with
  | some n => exact List.cons_ne_nil _ _
  | none =>
    dsimp only
    split
    next => exact List.cons_ne_nil _ _
    next => exact List.cons_ne_nil _ _

/-- A number is the code of the character it stands for, unless it stands for none. -/
theorem toNat_ofNat (n : Nat) : (Char.ofNat n).toNat = n ∨ Char.ofNat n = '\x00' := by
  by_cases h : n.isValidChar
  · refine Or.inl ?_
    rw [Char.ofNat, dif_pos h]
    rfl
  · refine Or.inr ?_
    rw [Char.ofNat, dif_neg h]
    rfl

/-- Only `R` is lowered to `r`. -/
theorem eq_of_imageIn_lowerRuns {n : Nat} (h : imageIn lowerRuns n = some 'r'.toNat) :
    n = 'R'.toNat := by
  have htable : ∀ run ∈ lowerRuns, run.image ≤ 'r'.toNat →
      run.first + ('r'.toNat - run.image) ≤ run.last →
        run.first + ('r'.toNat - run.image) = 'R'.toNat := by decide +kernel
  obtain ⟨run, hrun, himage⟩ := List.exists_of_findSome?_eq_some h
  unfold Run.image? at himage
  split at himage
  next hmember =>
    have heq := Option.some.inj himage
    have hletter := htable run hrun (by omega) (by omega)
    omega
  next => cases himage

/-- Only `r` and `R` have the lower-case form `r`. -/
theorem eq_of_lowerChar_eq_r {c : Char} (h : lowerChar c = ['r']) : c = 'r' ∨ c = 'R' := by
  -- The table decides all characters but one, whose lower-case form has two characters.
  unfold lowerChar at h
  cases himage : imageIn lowerRuns c.toNat with
  | some n =>
    rw [himage] at h
    have hn : Char.ofNat n = 'r' := List.singleton_injective h
    rcases toNat_ofNat n with hcode | hnone
    · rw [← hcode, hn] at himage
      exact Or.inr (Char.toNat_inj.1 (eq_of_imageIn_lowerRuns himage))
    · rw [hn] at hnone
      exact absurd hnone (by decide)
  | none =>
    rw [himage] at h
    dsimp only at h
    split at h
    next => simp at h
    next => exact Or.inl (List.singleton_injective h)

/-- Lowering a text makes it no shorter. -/
theorem length_le_lowerAfter (cs : List Char) :
    ∀ before, cs.length ≤ (lowerAfter before cs).length := by
  induction cs with
  | nil => exact fun _ => Nat.le_refl 0
  | cons c rest ih =>
    intro before
    have hrest := ih (c :: before)
    have hform : 0 < (if c = 'Σ' then
        if meetsCased before && !meetsCased rest then ['ς'] else ['σ']
      else lowerChar c).length := by
      split
      next => split <;> exact Nat.one_pos
      next => exact List.length_pos_iff.2 (lowerChar_ne_nil c)
    simp only [lowerAfter, List.length_append, List.length_cons]
    omega

/-- Only the texts `r` and `R` have the lower-case form `r`. -/
theorem eq_of_lowerAfter_eq_r {cs : List Char} (h : lowerAfter [] cs = ['r']) :
    cs = ['r'] ∨ cs = ['R'] := by
  have hlength := length_le_lowerAfter cs []
  rw [h, List.length_singleton] at hlength
  match cs with
  | [] => cases h
  | [c] =>
    simp only [lowerAfter, List.append_nil] at h
    split at h
    next => split at h <;> exact absurd h (by decide)
    next =>
      rcases eq_of_lowerChar_eq_r h with rfl | rfl
      · exact Or.inl rfl
      · exact Or.inr rfl
  | _ :: _ :: _ =>
    rw [List.length_cons, List.length_cons] at hlength
    omega

end Text

namespace Query

/-- The name derived from a label is `r` for the single letter only. -/
theorem derivedName_eq_r_iff (label : String) :
    derivedName label = "r" ↔ label = "r" ∨ label = "R" := by
  constructor
  · intro h
    have hlower : Text.lowerAfter [] (label.toList.take 2) = ['r'] := by
      have hchars := congrArg String.toList h
      rwa [derivedName, Text.lower, String.toList_ofList, String.toList_ofList] at hchars
    have hshort : ∀ c : Char, label.toList.take 2 = [c] → label = String.ofList [c] := by
      intro c hc
      have hlength := congrArg List.length hc
      rw [List.length_take, List.length_singleton] at hlength
      rw [List.take_of_length_le (by omega)] at hc
      rw [← hc, String.ofList_toList]
    exact (Text.eq_of_lowerAfter_eq_r hlower).imp (hshort 'r') (hshort 'R')
  · rintro (rfl | rfl)
    · decide +kernel
    · decide +kernel

/-! ## Derived names -/

/-- The numbered forms of a name are different. -/
theorem numbered_injective (base : String) {m n : Nat}
    (h : base ++ toString m = base ++ toString n) :
    m = n := by
  have hchars := congrArg String.toList h
  rw [String.toList_append, String.toList_append, List.append_cancel_left_eq] at hchars
  have hdigits : Nat.toDigits 10 m = Nat.toDigits 10 n := by
    simpa only [Nat.toString_eq_repr, Nat.toList_repr] using hchars
  simpa using congrArg (fun digits => Nat.ofDigitChars 10 digits 0) hdigits

/-- A fresh name is the base where that is not bound, and else the base with a number. -/
theorem freshName_cases (base : String) (bound : List String) :
    base ∉ bound ∧ freshName base bound = base ∨
      base ∈ bound ∧ ∃ n, freshName base bound = base ++ toString (n + 1) ∧
        base ++ toString (n + 1) ∉ bound := by
  unfold freshName
  by_cases hbase : base ∈ bound
  · let numbered := (List.range (bound.length + 1)).map fun n => base ++ toString (n + 1)
    have hnodup : numbered.Nodup := by
      refine List.nodup_range.map fun m n h => ?_
      exact Nat.succ.inj (numbered_injective base h)
    -- There are more numbered forms than names that are bound.
    have hsome : ¬ numbered ⊆ bound := by
      intro hsubset
      have hle := (hnodup.subperm hsubset).length_le
      simp only [numbered, List.length_map, List.length_range] at hle
      omega
    obtain ⟨name, hname, hfree⟩ : ∃ name ∈ numbered, name ∉ bound := by
      simpa [List.subset_def] using hsome
    rw [if_pos (List.contains_iff_mem.2 hbase)]
    dsimp only
    cases hfind : numbered.find? fun name => !bound.contains name with
    | none =>
      have := List.find?_eq_none.1 hfind name hname
      simp [hfree] at this
    | some found =>
      obtain ⟨n, -, rfl⟩ := List.mem_map.1 (List.mem_of_find?_eq_some hfind)
      have hfound := List.find?_some hfind
      exact Or.inr ⟨hbase, n, rfl, by simpa using hfound⟩
  · rw [if_neg (by simpa using hbase)]
    exact Or.inl ⟨hbase, rfl⟩

/-- A fresh name is not bound. -/
theorem freshName_not_mem (base : String) (bound : List String) : freshName base bound ∉ bound := by
  rcases freshName_cases base bound with ⟨hfree, heq⟩ | ⟨-, n, heq, hfree⟩
  · rwa [heq]
  · rwa [heq]

/-- A name with a number is not `r`. -/
theorem numbered_ne_r (base : String) (n : Nat) : base ++ toString n ≠ "r" := by
  intro h
  have hchars := congrArg String.toList h
  rw [String.toList_append, Nat.toString_eq_repr, Nat.toList_repr] at hchars
  have hmem : 'r' ∈ Nat.toDigits 10 n := by
    have hlast := congrArg List.getLast? hchars
    rw [List.getLast?_append_of_ne_nil _ Nat.toDigits_ne_nil] at hlast
    exact List.mem_of_getLast? hlast
  exact absurd (Nat.isDigit_of_mem_toDigits (by decide) (by decide) hmem) (by decide)

/-- A fresh name is `r` only where the base is and nothing else is called so. -/
theorem freshName_eq_r_iff (base : String) (bound : List String) :
    freshName base bound = "r" ↔ base = "r" ∧ "r" ∉ bound := by
  rcases freshName_cases base bound with ⟨hfree, heq⟩ | ⟨hbound, n, heq, -⟩
  · rw [heq]
    exact ⟨fun h => ⟨h, h ▸ hfree⟩, fun h => h.1⟩
  · rw [heq]
    exact ⟨fun h => absurd h (numbered_ne_r base _), fun h => absurd (h.1 ▸ hbound) h.2⟩

/-! ## Requests for edges -/

/-- The pattern that is built for a request for edges. -/
def edgePattern (r : EdgeRequest) : EdgePattern :=
  (EdgePattern.ofRequest r).setAll
    ([.queryMode .read, .variableName edgeVariable] ++ endpointNames r.fetchMode)

/-- The variables of a pattern, in the order in which they are written. -/
def EdgePattern.names (p : EdgePattern) : List String := [p.startName, p.edgeName, p.endName]

section Fields

variable (r : EdgeRequest)

theorem edgePattern_labels : (edgePattern r).labels = [r.label] := by
  unfold edgePattern
  cases r.fetchMode <;> rfl

theorem edgePattern_startLabels : (edgePattern r).startLabels = r.startLabels := by
  unfold edgePattern
  cases r.fetchMode <;> rfl

theorem edgePattern_endLabels : (edgePattern r).endLabels = r.endLabels := by
  unfold edgePattern
  cases r.fetchMode <;> rfl

theorem edgePattern_startVariableName : (edgePattern r).startVariableName =
    match r.fetchMode with
    | .completeVertex => some startVariable
    | .vertexIds => none := by
  unfold edgePattern
  cases r.fetchMode <;> rfl

theorem edgePattern_endVariableName : (edgePattern r).endVariableName =
    match r.fetchMode with
    | .completeVertex => some endVariable
    | .vertexIds => none := by
  unfold edgePattern
  cases r.fetchMode <;> rfl

theorem edgePattern_startName : (edgePattern r).startName =
    match r.fetchMode with
    | .completeVertex => startVariable
    | .vertexIds => freshName (baseName r.startLabels) [] := by
  unfold edgePattern
  cases r.fetchMode <;> rfl

theorem edgePattern_endName : (edgePattern r).endName =
    match r.fetchMode with
    | .completeVertex => endVariable
    | .vertexIds => freshName (baseName r.endLabels) [(edgePattern r).startName] := by
  unfold edgePattern
  cases r.fetchMode <;> rfl

theorem edgePattern_edgeName : (edgePattern r).edgeName = edgeVariable := by
  unfold edgePattern
  cases r.fetchMode <;> rfl

end Fields

/-- The labels of a site lead to the name of the relationship. -/
def LeadsToEdge (labels : List String) : Prop :=
  labels.head? = some "r" ∨ labels.head? = some "R"

instance (labels : List String) : Decidable (LeadsToEdge labels) :=
  inferInstanceAs (Decidable (_ ∨ _))

theorem baseName_eq_r_iff (labels : List String) :
    baseName labels = "r" ↔ LeadsToEdge labels := by
  unfold baseName LeadsToEdge
  cases labels.head? with
  | none => simp
  | some label => simp [derivedName_eq_r_iff]

/-- **Variables of a request for edges.**  Where a request is accepted, the text binds the start,
the relationship and the end to three different variables exactly if the endpoints are called
by names of their own, as they are when they are fetched in full, or the labels of neither lead
to `r`. -/
theorem matchEdge_names_nodup_iff {r : EdgeRequest} {text : String} (h : matchEdge r = .ok text) :
    text = (edgePattern r).text ∧ ((edgePattern r).names.Nodup ↔
      r.fetchMode = .completeVertex ∨
        ¬ LeadsToEdge r.startLabels ∧ ¬ LeadsToEdge r.endLabels) := by
  constructor
  · have hbuild : (edgePattern r).build = .ok text := h
    unfold EdgePattern.build at hbuild
    split at hbuild
    next => cases hbuild
    next => exact (Except.ok.inj hbuild).symm
  · have hnames : (edgePattern r).names.Nodup ↔ (edgePattern r).startName ≠ "r" ∧
        (edgePattern r).endName ≠ (edgePattern r).startName ∧ (edgePattern r).endName ≠ "r" := by
      unfold EdgePattern.names
      rw [edgePattern_edgeName]
      simp only [edgeVariable, List.nodup_cons, List.mem_cons, List.not_mem_nil, or_false,
        not_or, not_false_eq_true, List.nodup_nil, and_true]
      rw [and_assoc, eq_comm (a := "r"), eq_comm (b := (edgePattern r).endName)]
    rw [hnames, edgePattern_endName, edgePattern_startName]
    cases r.fetchMode with
    | completeVertex =>
      simp [startVariable, endVariable]
    | vertexIds =>
      dsimp only
      have hstart : freshName (baseName r.startLabels) [] = "r" ↔ LeadsToEdge r.startLabels := by
        rw [freshName_eq_r_iff, baseName_eq_r_iff]
        simp
      have hend := freshName_eq_r_iff (baseName r.endLabels)
        [freshName (baseName r.startLabels) []]
      have hapart := freshName_not_mem (baseName r.endLabels)
        [freshName (baseName r.startLabels) []]
      rw [baseName_eq_r_iff] at hend
      rw [List.mem_singleton] at hend hapart
      rw [ne_eq, ne_eq, ne_eq, hend, hstart, eq_comm (a := "r"), hstart]
      tauto

/-- Two vertices with one label are told apart by number. -/
theorem matchEdge_names_nodup_people :
    let r : EdgeRequest := { label := "KNOWS", startLabels := ["Person"], endLabels := ["Person"] }
    matchEdge r = .ok "MATCH (pe:Person)-[r:KNOWS]-(pe1:Person)  return r" ∧
      (edgePattern r).names.Nodup := by
  intro r
  have haccepted : matchEdge r = .ok "MATCH (pe:Person)-[r:KNOWS]-(pe1:Person)  return r" := by
    decide +kernel
  have hapart : ¬ LeadsToEdge ["Person"] := by decide
  exact ⟨haccepted, (matchEdge_names_nodup_iff haccepted).2.2 (Or.inr ⟨hapart, hapart⟩)⟩

/-- A vertex with the label `R` is called like the relationship. -/
theorem matchEdge_shared_variable :
    let r : EdgeRequest := { label := "KNOWS", startLabels := ["R"], endLabels := ["Person"] }
    matchEdge r = .ok "MATCH (r:R)-[r:KNOWS]-(pe:Person)  return r" ∧
      ¬ (edgePattern r).names.Nodup := by
  decide +kernel

end Query
end PropertyGraph
