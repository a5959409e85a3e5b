import PropertyGraph.Proofs.FragmentText
import PropertyGraph.Proofs.PatternVariables
import PropertyGraph.Proofs.Refusals

/-!
# Statements identify what they are about

Two vertices that are stored with one statement would be stored as one.  That this does not
happen to different vertices is a matter of their text alone: every fragment of a statement can
be told from what follows it (`FragmentText.lean`), and so a statement is taken apart from its
start.  The filters of a request come in three groups, which only the names of their variables
keep apart (`eq_of_filtersOf`).

> Main result (`statements_identify`): the statements for two vertices or for two requests are
> the same exactly if the vertices or requests are, in all that a statement is about.
-/

namespace PropertyGraph.Query

/-! ## Patterns -/

theorem not_empty_mem {labels : List String} (h : ∀ l ∈ labels, IsIdentifier l) :
    "" ∉ labels := fun hmem => (h "" hmem).1 rfl

/-- A pattern of a vertex with labels is written. -/
theorem VertexPattern.build_eq_ok {p : VertexPattern} (hne : p.labels ≠ [])
    (hlabels : ∀ l ∈ p.labels, IsIdentifier l) : p.build = .ok p.text := by
  unfold build check
  rw [if_neg (by simpa using hne),
    if_neg (by rw [any_isEmpty_iff]; exact not_empty_mem hlabels)]

/-- A pattern of a relationship with a type and named endpoints is written. -/
theorem EdgePattern.build_eq_ok {p : EdgePattern} {label : String} (htype : p.labels = [label])
    (hlabel : IsIdentifier label) (hstartName : p.startVariableName.isSome = true)
    (hendName : p.endVariableName.isSome = true)
    (hstart : ∀ l ∈ p.startLabels, IsIdentifier l)
    (hend : ∀ l ∈ p.endLabels, IsIdentifier l) : p.build = .ok p.text := by
  have hnamed : ∀ {name : Option String} (labels : List String), name.isSome = true →
      ¬ (labels.isEmpty && name.isNone) = true := by
    intro name labels hname
    cases name with
    | none => cases hname
    | some name => simp
  unfold build check
  rw [htype, if_neg (by simp), if_neg (by simp), if_neg (by simpa using hlabel.1),
    if_neg (hnamed _ hstartName), if_neg (hnamed _ hendName),
    if_neg (by rw [any_isEmpty_iff]; exact not_empty_mem hstart),
    if_neg (by rw [any_isEmpty_iff]; exact not_empty_mem hend)]

/-- The word that a statement for storing starts with. -/
def storeWord : WriteMode → List Char
  | .merge => "MERGE".toList
  | .create => "CREATE".toList

/-- The text of the statement that stores a vertex. -/
def storeVertexText (mode : WriteMode) (site : List String × PropertyMap) : List Char :=
  storeWord mode ++ (" (sv".toList ++ (siteText site ++ ")  return sv".toList))

/-- The pattern that a vertex is stored with. -/
def storedVertex (v : Vertex) (mode : WriteMode) : VertexPattern where
  queryMode := .write
  labels := v.labels
  variableName := some startVariable
  selector := present v.properties
  writeMode := mode

theorem storeVertex_eq_build (v : Vertex) (mode : WriteMode) :
    storeVertex v mode = (storedVertex v mode).build := by
  refine congrArg VertexPattern.build ?_
  simp only [VertexPattern.ofSettings, List.foldl_cons, List.foldl_nil, VertexPattern.set,
    Dict.empty_union]
  rfl

theorem toList_storedVertex (v : Vertex) (mode : WriteMode) :
    (storedVertex v mode).text.toList =
      storeVertexText mode (v.labels, present v.properties) := by
  have hclause : whereClause [("sv", (∅ : PropertyMap))] = "" := rfl
  cases mode <;>
    simp [storedVertex, VertexPattern.text, VertexPattern.operation, variableFor, hclause,
      storeVertexText, storeWord, siteText, toList_labelSuffix, startVariable]

/-- The pattern of a request for edges with their endpoints. -/
def requestedEdge (r : EdgeRequest) : EdgePattern where
  fetchMode := .completeVertex
  startLabels := r.startLabels
  startVariableName := some startVariable
  endLabels := r.endLabels
  endVariableName := some endVariable
  labels := [r.label]
  variableName := some edgeVariable
  startSelector := r.startSelectors
  endSelector := r.endSelectors
  selector := r.selectors
  startFilters := r.startFilters
  endFilters := r.endFilters
  filters := r.filters

theorem matchEdge_eq_build {r : EdgeRequest} (hmode : r.fetchMode = .completeVertex) :
    matchEdge r = (requestedEdge r).build := by
  refine congrArg EdgePattern.build ?_
  simp only [EdgePattern.ofRequest, EdgePattern.settingsOf, EdgePattern.setAll, endpointNames,
    hmode, List.cons_append, List.nil_append, List.foldl_cons, List.foldl_nil, EdgePattern.set,
    Dict.empty_union]
  rfl

/-- The filters of a request, with their variables. -/
def requestFilters (r : EdgeRequest) : List Filter :=
  filtersOf [(startVariable, r.startFilters.entries), (endVariable, r.endFilters.entries),
    (edgeVariable, r.filters.entries)]

theorem toList_requestedEdge (r : EdgeRequest) :
    (requestedEdge r).text.toList =
      "MATCH (sv".toList ++ (siteText (r.startLabels, r.startSelectors) ++ (")-[r".toList ++
        (siteText ([r.label], r.selectors) ++ ("]-(ev".toList ++
          (siteText (r.endLabels, r.endSelectors) ++ (") ".toList ++
            (clauseText (requestFilters r) ++ " return sv, r, ev".toList))))))) := by
  have htext : (requestedEdge r).text =
      "MATCH" ++ " " ++ EdgePattern.node "sv" r.startLabels r.startSelectors ++ "-[" ++
        ("r" ++ labelSuffix [r.label] ++ selector r.selectors) ++ "]-" ++
        EdgePattern.node "ev" r.endLabels r.endSelectors ++ " " ++
        whereClause [(startVariable, r.startFilters), (endVariable, r.endFilters),
          (edgeVariable, r.filters)] ++ " " ++
        ("return " ++ "sv" ++ ", " ++ "r" ++ ", " ++ "ev") := rfl
  -- Rewriting the goal would compare the literals of both sides before they are taken apart.
  refine (congrArg String.toList htext).trans ?_
  simp only [EdgePattern.node, String.toList_append, toList_labelSuffix, whereClause,
    List.map_cons, List.map_nil, toList_whereClauseOf, List.append_assoc, siteText, requestFilters]
  simp

/-! ## Requests -/

/-- A vertex whose labels and keys are identifiers, without floating-point numbers. -/
structure PlainVertex (v : Vertex) : Prop where
  labels : ∀ l ∈ v.labels, IsIdentifier l
  properties : PlainMap v.properties

/-- A request for edges whose labels and keys are identifiers, without floating-point numbers. -/
structure PlainRequest (r : EdgeRequest) : Prop where
  label : IsIdentifier r.label
  startLabels : ∀ l ∈ r.startLabels, IsIdentifier l
  endLabels : ∀ l ∈ r.endLabels, IsIdentifier l
  startSelectors : PlainMap r.startSelectors
  endSelectors : PlainMap r.endSelectors
  selectors : PlainMap r.selectors
  startFilters : PlainMap r.startFilters
  endFilters : PlainMap r.endFilters
  filters : PlainMap r.filters

theorem PlainVertex.site {v : Vertex} (h : PlainVertex v) :
    PlainSite (v.labels, present v.properties) :=
  ⟨h.labels, fun e he => h.properties e (List.mem_of_mem_filter he)⟩

theorem PlainMap.filters {name : String} (hname : IsIdentifier name) {properties : PropertyMap}
    (h : PlainMap properties) :
    ∀ f ∈ properties.entries.map fun e => (name, e), PlainFilter f :=
  List.forall_mem_map.2 fun e he => ⟨hname, h e he⟩

theorem PlainRequest.requestFilters {r : EdgeRequest} (h : PlainRequest r) :
    ∀ f ∈ requestFilters r, PlainFilter f := by
  simp only [Query.requestFilters, filtersOf_cons, List.forall_mem_append]
  have hstart : IsIdentifier startVariable := by
    simp [IsIdentifier, isWordChar, startVariable]
  have hend : IsIdentifier endVariable := by
    simp [IsIdentifier, isWordChar, endVariable]
  have hedge : IsIdentifier edgeVariable := by
    simp [IsIdentifier, isWordChar, edgeVariable]
  exact ⟨h.startFilters.filters hstart, h.endFilters.filters hend, h.filters.filters hedge,
    fun _ hf => (List.not_mem_nil hf).elim⟩

/-- The text of the statement that stores a vertex tells its mode, its labels and its
properties. -/
theorem storeVertexText_injective {mode mode' : WriteMode} {site site' : List String × PropertyMap}
    (hsite : PlainSite site) (hsite' : PlainSite site')
    (h : storeVertexText mode site = storeVertexText mode' site') :
    mode = mode' ∧ site = site' := by
  have hmode : mode = mode' := by
    cases mode <;> cases mode' <;> simp [storeVertexText, storeWord] at h ⊢
  subst hmode
  have hcloses : Closes ")  return sv".toList := by simp [Closes]
  have hrest := List.append_cancel_left (List.append_cancel_left h)
  exact ⟨rfl, (told_siteText hsite site' _ _ hsite' hcloses hcloses hrest).1⟩

/-- Where the variables have different names, each filter belongs to one of them. -/
theorem eq_of_filtersOf {p q t p' q' t' : PropertyMap}
    (h : filtersOf [(startVariable, p.entries), (endVariable, q.entries),
        (edgeVariable, t.entries)] =
      filtersOf [(startVariable, p'.entries), (endVariable, q'.entries),
        (edgeVariable, t'.entries)]) :
    p = p' ∧ q = q' ∧ t = t' := by
  have hentries : ∀ name,
      [(startVariable, p.entries), (endVariable, q.entries), (edgeVariable, t.entries)].flatMap
          (fun g => if g.1 = name then g.2 else []) =
        [(startVariable, p'.entries), (endVariable, q'.entries),
          (edgeVariable, t'.entries)].flatMap (fun g => if g.1 = name then g.2 else []) := by
    intro name
    rw [← entries_filtersOf, ← entries_filtersOf, h]
  have hstart : p.entries = p'.entries := by
    simpa [startVariable, endVariable, edgeVariable] using hentries startVariable
  have hend : q.entries = q'.entries := by
    simpa [startVariable, endVariable, edgeVariable] using hentries endVariable
  have hedge : t.entries = t'.entries := by
    simpa [startVariable, endVariable, edgeVariable] using hentries edgeVariable
  exact ⟨Dict.ext hstart, Dict.ext hend, Dict.ext hedge⟩

/-- The text of the statement that asks for edges tells the request. -/
theorem eq_of_requestedEdge {r q : EdgeRequest} (hr : PlainRequest r) (hq : PlainRequest q)
    (h : (requestedEdge r).text = (requestedEdge q).text) :
    r.startLabels = q.startLabels ∧ r.label = q.label ∧ r.endLabels = q.endLabels ∧
      r.startSelectors = q.startSelectors ∧ r.selectors = q.selectors ∧
      r.endSelectors = q.endSelectors ∧ r.startFilters = q.startFilters ∧
      r.filters = q.filters ∧ r.endFilters = q.endFilters := by
  have hlabel : ∀ {l : String}, IsIdentifier l → ∀ l' ∈ [l], IsIdentifier l' := fun hl =>
    List.forall_mem_singleton.2 hl
  have hstartCloses : ∀ t, Closes (")-[r".toList ++ t) := fun t => by simp [Closes]
  have hedgeCloses : ∀ t, Closes ("]-(ev".toList ++ t) := fun t => by simp [Closes]
  have hendCloses : ∀ t, Closes (") ".toList ++ t) := fun t => by simp [Closes]
  have hreturns : Returns " return sv, r, ev".toList := ⟨"sv, r, ev".toList, by simp⟩
  have htext := congrArg String.toList h
  rw [toList_requestedEdge, toList_requestedEdge] at htext
  -- The text is taken apart from its start: each site up to its bracket, and then the clause.
  obtain ⟨hstart, htext⟩ := told_siteText ⟨hr.startLabels, hr.startSelectors⟩ _ _ _
    ⟨hq.startLabels, hq.startSelectors⟩ (hstartCloses _) (hstartCloses _)
    (List.append_cancel_left htext)
  obtain ⟨hedge, htext⟩ := told_siteText ⟨hlabel hr.label, hr.selectors⟩ _ _ _
    ⟨hlabel hq.label, hq.selectors⟩ (hedgeCloses _) (hedgeCloses _)
    (List.append_cancel_left htext)
  obtain ⟨hend, htext⟩ := told_siteText ⟨hr.endLabels, hr.endSelectors⟩ _ _ _
    ⟨hq.endLabels, hq.endSelectors⟩ (hendCloses _) (hendCloses _)
    (List.append_cancel_left htext)
  obtain ⟨hfilters, -⟩ := told_clauseText hr.requestFilters _ _ _ hq.requestFilters hreturns
    hreturns (List.append_cancel_left htext)
  obtain ⟨hstartFilters, hendFilters, hedgeFilters⟩ := eq_of_filtersOf hfilters
  obtain ⟨hstartLabels, hstartSelectors⟩ := Prod.mk.inj hstart
  obtain ⟨hlabels, hselectors⟩ := Prod.mk.inj hedge
  obtain ⟨hendLabels, hendSelectors⟩ := Prod.mk.inj hend
  exact ⟨hstartLabels, (List.cons.inj hlabels).1, hendLabels, hstartSelectors, hselectors,
    hendSelectors, hstartFilters, hedgeFilters, hendFilters⟩

/-- A vertex has a statement if it has labels. -/
theorem storeVertex_eq_ok_iff {v : Vertex} (hv : PlainVertex v) (mode : WriteMode)
    (text : String) :
    storeVertex v mode = .ok text ↔ v.labels ≠ [] ∧ (storedVertex v mode).text = text := by
  by_cases hne : v.labels = []
  · refine ⟨fun h => ?_, fun h => absurd hne h.1⟩
    have hrefused := refusal_storeVertex v mode
    rw [h, if_pos (Or.inl hne)] at hrefused
    cases hrefused
  · rw [storeVertex_eq_build, VertexPattern.build_eq_ok hne hv.labels, Except.ok.injEq]
    exact ⟨fun h => ⟨hne, h⟩, fun h => h.2⟩

/-- A request for edges with their endpoints has a statement. -/
theorem matchEdge_eq_ok {r : EdgeRequest} (hr : PlainRequest r)
    (hmode : r.fetchMode = .completeVertex) : matchEdge r = .ok (requestedEdge r).text := by
  rw [matchEdge_eq_build hmode]
  exact EdgePattern.build_eq_ok rfl hr.label rfl rfl hr.startLabels hr.endLabels

/-- **Statements identify what they are about.**  Where labels, types and keys are identifiers
and no value contains a floating-point number, two vertices are stored with the same statement
exactly if they are stored in the same mode and have the same labels, at least one, and the same
properties apart from those that are null; and two requests for edges with their endpoints are
asked with the same statement exactly if they have the same labels, selectors and filters. -/
theorem statements_identify :
    (∀ v w mode mode', PlainVertex v → PlainVertex w →
      ((∃ text, storeVertex v mode = .ok text ∧ storeVertex w mode' = .ok text) ↔
        v.labels ≠ [] ∧ mode = mode' ∧ v.labels = w.labels ∧
          present v.properties = present w.properties)) ∧
    ∀ r q, r.fetchMode = .completeVertex → q.fetchMode = .completeVertex →
      PlainRequest r → PlainRequest q →
      ((∃ text, matchEdge r = .ok text ∧ matchEdge q = .ok text) ↔
        r.startLabels = q.startLabels ∧ r.label = q.label ∧ r.endLabels = q.endLabels ∧
          r.startSelectors = q.startSelectors ∧ r.selectors = q.selectors ∧
          r.endSelectors = q.endSelectors ∧ r.startFilters = q.startFilters ∧
          r.filters = q.filters ∧ r.endFilters = q.endFilters) := by
  constructor
  · intro v w mode mode' hv hw
    simp only [storeVertex_eq_ok_iff hv, storeVertex_eq_ok_iff hw]
    constructor
    · rintro ⟨text, ⟨hne, hvtext⟩, -, hwtext⟩
      have htext := congrArg String.toList (hvtext.trans hwtext.symm)
      rw [toList_storedVertex, toList_storedVertex] at htext
      obtain ⟨hmode, hsite⟩ := storeVertexText_injective hv.site hw.site htext
      obtain ⟨hlabels, hproperties⟩ := Prod.mk.inj hsite
      exact ⟨hne, hmode, hlabels, hproperties⟩
    · rintro ⟨hne, rfl, hlabels, hproperties⟩
      have hsame : storedVertex w mode = storedVertex v mode := by
        unfold storedVertex
        rw [hlabels, hproperties]
      exact ⟨_, ⟨hne, rfl⟩, hlabels ▸ hne, congrArg VertexPattern.text hsame⟩
  · intro r q hrmode hqmode hr hq
    rw [matchEdge_eq_ok hr hrmode, matchEdge_eq_ok hq hqmode]
    constructor
    · rintro ⟨text, hrtext, hqtext⟩
      exact eq_of_requestedEdge hr hq
        (Except.ok.inj (hrtext.trans hqtext.symm))
    · rintro ⟨hstart, hlabel, hend, hstartS, hselectors, hendS, hstartF, hfilters, hendF⟩
      have hsame : requestedEdge q = requestedEdge r := by
        unfold requestedEdge
        rw [hstart, hlabel, hend, hstartS, hselectors, hendS, hstartF, hfilters, hendF]
      exact ⟨_, rfl, congrArg (fun p => Except.ok p.text) hsame⟩

/-- A person with one property, whose text looks like two. -/
def onePropertyPerson : Vertex where
  labels := ["Person"]
  properties := Dict.ofList [("first", .string "Tom',last:'Lee")]

/-- A person with the two properties. -/
def twoPropertyPerson : Vertex where
  labels := ["Person"]
  properties := Dict.ofList [("first", .string "Tom"), ("last", .string "Lee")]

/-- A request for the people that somebody knows, with a filter for the relationship and one for
them. -/
def knownPeople (filters endFilters : PropertyMap) : EdgeRequest where
  label := "KNOWS"
  startLabels := ["Person"]
  endLabels := ["Person"]
  filters := filters
  endFilters := endFilters
  fetchMode := .completeVertex

theorem plainMap_empty : PlainMap ∅ := fun _ he => (List.not_mem_nil he).elim

/-- A map with one entry. -/
theorem plainMap_single {key : String} {value : Json} (hkey : IsIdentifier key)
    (hvalue : value.FloatFree) : PlainMap (Dict.ofList [(key, value)]) :=
  List.forall_mem_singleton.2 ⟨hkey, hvalue⟩

theorem plainRequest_knownPeople {filters endFilters : PropertyMap} (hfilters : PlainMap filters)
    (hend : PlainMap endFilters) : PlainRequest (knownPeople filters endFilters) := by
  have hperson : ∀ l ∈ ["Person"], IsIdentifier l := by simp [IsIdentifier, isWordChar]
  have hknows : IsIdentifier "KNOWS" := by simp [IsIdentifier, isWordChar]
  exact ⟨hknows, hperson, hperson, plainMap_empty, plainMap_empty, plainMap_empty, plainMap_empty,
    hend, hfilters⟩

/-- A text that looks like two properties is stored with a statement of its own, and a filter of
the relationship is asked for with another statement than one of its end. -/
theorem statements_identify_people :
    let since := Dict.ofList [("since", .integer 1990)]
    PlainVertex onePropertyPerson ∧ PlainVertex twoPropertyPerson ∧
      PlainRequest (knownPeople since ∅) ∧ PlainRequest (knownPeople ∅ since) ∧
      (¬ ∃ text, storeVertex onePropertyPerson .merge = .ok text ∧
        storeVertex twoPropertyPerson .merge = .ok text) ∧
      ¬ ∃ text, matchEdge (knownPeople since ∅) = .ok text ∧
        matchEdge (knownPeople ∅ since) = .ok text := by
  have hperson : ∀ l ∈ ["Person"], IsIdentifier l := by simp [IsIdentifier, isWordChar]
  have hfirst : IsIdentifier "first" := by simp [IsIdentifier, isWordChar]
  have hlast : IsIdentifier "last" := by simp [IsIdentifier, isWordChar]
  have hsince : IsIdentifier "since" := by simp [IsIdentifier, isWordChar]
  have hone : PlainVertex onePropertyPerson := ⟨hperson, plainMap_single hfirst trivial⟩
  have hentries : twoPropertyPerson.properties.entries =
      [("first", .string "Tom"), ("last", .string "Lee")] := by rfl
  have htwo : PlainVertex twoPropertyPerson := by
    refine ⟨hperson, ?_⟩
    unfold PlainMap
    rw [hentries, List.forall_mem_cons, List.forall_mem_singleton]
    exact ⟨⟨hfirst, trivial⟩, hlast, trivial⟩
  have hplain : PlainMap (Dict.ofList [("since", .integer 1990)]) :=
    plainMap_single hsince trivial
  have hr := plainRequest_knownPeople hplain plainMap_empty
  have hq := plainRequest_knownPeople plainMap_empty hplain
  refine ⟨hone, htwo, hr, hq, fun hsame => ?_, fun hsame => ?_⟩
  · obtain ⟨-, -, -, hproperties⟩ :=
      (statements_identify.1 _ _ .merge .merge hone htwo).1 hsame
    exact absurd (congrArg (fun d : PropertyMap => d.entries.length) hproperties) (by decide)
  · obtain ⟨-, -, -, -, -, -, -, hfilters, -⟩ :=
      (statements_identify.2 _ _ rfl rfl hr hq).1 hsame
    exact absurd (congrArg (fun d : PropertyMap => d.entries.length) hfilters) (by decide)

end PropertyGraph.Query
