import PropertyGraph.Proofs.Refusals

/-!
# Fetch modes

A request for edges asks for the identifiers of the endpoints or for whole vertices.  The pattern
is the same for both, but whole vertices are returned under names of their own
(`edgePattern_completeVertex`), and a site that has a name needs no labels.  A request that gives
an endpoint no labels is then refused in the one mode and not in the other.

> Main result (`matchEdge_fetchMode_iff`): the modes agree on a request, in whether it is accepted
> and in the code with which it is refused, exactly if its own label is empty or neither endpoint
> lacks labels.
-/

namespace PropertyGraph

/-- Two answers have the same verdict: both are given, or both are refused with the same code. -/
def SameVerdict {α : Type} : Except GraphError α → Except GraphError α → Prop
  | .ok _, .ok _ => True
  | .error e, .error e' => e.code = e'.code
  | _, _ => False

/-- An answer that is given or refused, but does not fail otherwise. -/
def Validated {α : Type} (answer : Except GraphError α) : Prop :=
  ∀ e, answer = .error e → e.isValidation = true

/-- Answers have the same verdict if they are refused alike. -/
theorem sameVerdict_iff_refusal {α : Type} {a b : Except GraphError α} (ha : Validated a)
    (hb : Validated b) : SameVerdict a b ↔ refusal a = refusal b := by
  cases a with
  | error e =>
    have he := ha e rfl
    cases e with
    | validation code reason =>
      cases b with
      | error e' =>
        have he' := hb e' rfl
        cases e' with
        | validation code' reason' =>
          show code = code' ↔ some code = some code'
          rw [Option.some.injEq]
        | _ => cases he'
      | ok y => simp [SameVerdict, refusal]
    | _ => cases he
  | ok x =>
    cases b with
    | error e' =>
      have he' := hb e' rfl
      cases e' with
      | validation code' reason' => simp [SameVerdict, refusal]
      | _ => cases he'
    | ok y => simp [SameVerdict, refusal]

namespace Query

theorem EdgePattern.validated_build (p : EdgePattern) : Validated p.build := by
  intro e he
  unfold build check at he
  split_ifs at he
  all_goals
    cases he
    rfl

/-- The pattern of a request with its endpoints in full. -/
def EdgePattern.inFull (p : EdgePattern) : EdgePattern :=
  { p with
    fetchMode := .completeVertex
    startVariableName := some startVariable
    endVariableName := some endVariable }

/-- The modes share their pattern, but for the names of the endpoints. -/
theorem edgePattern_completeVertex (r : EdgeRequest) :
    edgePattern { r with fetchMode := .completeVertex } =
      (edgePattern { r with fetchMode := .vertexIds }).inFull := rfl

/-- Names are of no account where no endpoint lacks labels, or where the pattern is refused for
its own label. -/
theorem EdgePattern.check_inFull {p : EdgePattern} {label : String} (hlabels : p.labels = [label])
    (h : label = "" ∨ p.startLabels ≠ [] ∧ p.endLabels ≠ []) : p.inFull.check = p.check := by
  have hsame : p.inFull.labels = p.labels ∧ p.inFull.startLabels = p.startLabels ∧
      p.inFull.endLabels = p.endLabels := ⟨rfl, rfl, rfl⟩
  unfold check
  rw [hsame.1, hsame.2.1, hsame.2.2, hlabels]
  rcases h with rfl | ⟨hstart, hend⟩
  · rfl
  · rw [List.isEmpty_eq_false_iff.2 hstart, List.isEmpty_eq_false_iff.2 hend]
    rfl

section Modes

variable (r : EdgeRequest)

theorem refusal_vertexIds :
    refusal (matchEdge { r with fetchMode := .vertexIds }) =
      if r.label = "" then some .missingLabel
      else if r.startLabels = [] ∨ r.endLabels = [] then some .missingEndpoint
      else if "" ∈ r.startLabels ∨ "" ∈ r.endLabels then some .missingLabel
      else none := by
  simpa using refusal_matchEdge { r with fetchMode := .vertexIds }

/-- Whole vertices have names, so that none is missed for its labels. -/
theorem refusal_completeVertex :
    refusal (matchEdge { r with fetchMode := .completeVertex }) =
      if r.label = "" then some .missingLabel
      else if "" ∈ r.startLabels ∨ "" ∈ r.endLabels then some .missingLabel
      else none := by
  simpa using refusal_matchEdge { r with fetchMode := .completeVertex }

theorem sameVerdict_matchEdge_iff :
    SameVerdict (matchEdge { r with fetchMode := .vertexIds })
        (matchEdge { r with fetchMode := .completeVertex }) ↔
      r.label = "" ∨ r.startLabels ≠ [] ∧ r.endLabels ≠ [] := by
  have hrefusal : SameVerdict (matchEdge { r with fetchMode := .vertexIds })
        (matchEdge { r with fetchMode := .completeVertex }) ↔ _ :=
    sameVerdict_iff_refusal (EdgePattern.validated_build _) (EdgePattern.validated_build _)
  rw [hrefusal, refusal_vertexIds, refusal_completeVertex]
  by_cases hlabel : r.label = ""
  · simp [hlabel]
  · by_cases hnone : r.startLabels = [] ∨ r.endLabels = []
    · have hdiffer : ¬ (r.startLabels ≠ [] ∧ r.endLabels ≠ []) := by tauto
      rw [if_neg hlabel, if_neg hlabel, if_pos hnone]
      split_ifs <;> simp [hlabel, hdiffer]
    · rw [if_neg hlabel, if_neg hlabel, if_neg hnone]
      simp [hlabel, not_or.1 hnone]

/-- Where names are of no account, the modes refuse alike, and what they accept has one pattern. -/
theorem matchEdge_alike (h : r.label = "" ∨ r.startLabels ≠ [] ∧ r.endLabels ≠ []) :
    (∀ e, matchEdge { r with fetchMode := .vertexIds } = .error e ↔
      matchEdge { r with fetchMode := .completeVertex } = .error e) ∧
    ∀ text, matchEdge { r with fetchMode := .vertexIds } = .ok text →
      ∃ p : EdgePattern, text = p.text ∧
        matchEdge { r with fetchMode := .completeVertex } = .ok p.inFull.text := by
  have hids : matchEdge { r with fetchMode := .vertexIds } =
      (edgePattern { r with fetchMode := .vertexIds }).build := rfl
  have hwhole : matchEdge { r with fetchMode := .completeVertex } =
      (edgePattern { r with fetchMode := .vertexIds }).inFull.build := by
    rw [← edgePattern_completeVertex]
    rfl
  have hfull := EdgePattern.check_inFull
    (edgePattern_labels { r with fetchMode := .vertexIds }) h
  rw [hids, hwhole]
  generalize edgePattern { r with fetchMode := .vertexIds } = p at hfull
  unfold EdgePattern.build
  rw [hfull]
  cases p.check with
  | error e =>
    refine ⟨fun e' => Iff.rfl, fun text htext => ?_⟩
    cases htext
  | ok _ =>
    refine ⟨fun e => ?_, fun text htext => ?_⟩
    · simp
    · cases htext
      exact ⟨p, rfl, rfl⟩

end Modes

/-- **Fetch modes.**  For every request for edges, the two fetch modes have the same verdict
exactly if the request has no type or both of its endpoints have labels.  They have then the same
refusals, and the same pattern where it is accepted, with its endpoints named when they are
fetched in full.  Otherwise the request for identifiers is refused for an endpoint without labels,
and the request for whole vertices is not refused for that. -/
theorem matchEdge_fetchMode_iff (r : EdgeRequest) :
    let ids := matchEdge { r with fetchMode := .vertexIds }
    let whole := matchEdge { r with fetchMode := .completeVertex }
    (SameVerdict ids whole ↔ r.label = "" ∨ r.startLabels ≠ [] ∧ r.endLabels ≠ []) ∧
    (SameVerdict ids whole → (∀ e, ids = .error e ↔ whole = .error e) ∧
      ∀ text, ids = .ok text → ∃ p : EdgePattern, text = p.text ∧ whole = .ok p.inFull.text) ∧
    (¬ SameVerdict ids whole →
      refusal ids = some .missingEndpoint ∧ refusal whole ≠ some .missingEndpoint) := by
  intro ids whole
  have hverdict : SameVerdict ids whole ↔
      r.label = "" ∨ r.startLabels ≠ [] ∧ r.endLabels ≠ [] := sameVerdict_matchEdge_iff r
  refine ⟨hverdict, fun hsame => matchEdge_alike r (hverdict.1 hsame), fun hdiffer => ?_⟩
  rw [hverdict, not_or] at hdiffer
  obtain ⟨hlabel, hends⟩ := hdiffer
  have hnone : r.startLabels = [] ∨ r.endLabels = [] := by tauto
  have hids : refusal ids = _ := refusal_vertexIds r
  have hwhole : refusal whole = _ := refusal_completeVertex r
  rw [hids, hwhole, if_neg hlabel, if_neg hlabel, if_pos hnone]
  refine ⟨rfl, ?_⟩
  split_ifs <;> simp

/-- People are asked for in either mode alike. -/
theorem matchEdge_fetchMode_people :
    let r : EdgeRequest := { label := "KNOWS", startLabels := ["Person"], endLabels := ["Person"] }
    SameVerdict (matchEdge { r with fetchMode := .vertexIds })
        (matchEdge { r with fetchMode := .completeVertex }) ∧
      ∃ p : EdgePattern,
        "MATCH (pe:Person)-[r:KNOWS]-(pe1:Person)  return r" = p.text ∧
        matchEdge { r with fetchMode := .completeVertex } = .ok p.inFull.text := by
  intro r
  obtain ⟨hverdict, hsame, -⟩ := matchEdge_fetchMode_iff r
  have hpeople := hverdict.2 (Or.inr ⟨List.cons_ne_nil _ _, List.cons_ne_nil _ _⟩)
  exact ⟨hpeople, (hsame hpeople).2 _ (by decide +kernel)⟩

/-- A request for edges between any vertices is refused when identifiers are asked for, and
accepted when whole vertices are.  With an empty label at the one end both modes refuse it, for
different reasons. -/
theorem matchEdge_fetchMode_anyEnds :
    let r : EdgeRequest := { label := "KNOWS" }
    let empty : EdgeRequest := { label := "KNOWS", endLabels := [""] }
    (refusal (matchEdge { r with fetchMode := .vertexIds }) = some .missingEndpoint ∧
      matchEdge { r with fetchMode := .completeVertex } =
        .ok "MATCH (sv)-[r:KNOWS]-(ev)  return sv, r, ev") ∧
    refusal (matchEdge { empty with fetchMode := .vertexIds }) = some .missingEndpoint ∧
      refusal (matchEdge { empty with fetchMode := .completeVertex }) = some .missingLabel := by
  decide +kernel

end Query
end PropertyGraph
