import Mathlib.Data.List.DropRight
import PropertyGraph.Proofs.DictLookup
import PropertyGraph.Query.EdgePattern
import PropertyGraph.Query.VertexPattern

/-!
# What settings come to

A pattern is filled by a sequence of settings, each of which is about one field.  A mode and a
name are replaced, labels are appended (those of a vertex can be replaced as a whole) and maps
add up.  So a field holds what the settings about it give, put together in their order
(`foldl_field`), and settings about other fields may stand anywhere between them.

An edge pattern is then refused for the first of seven faults that it has, in a fixed order
(`EdgePattern.check_eq`).

> Main result (`settings_decide`): the pattern that settings make is the one that collects what
> they give, field by field; sequences that agree on each field have the same outcome; and an
> edge pattern is refused exactly for the first of its faults.  A request stands for one setting
> of each field, in any order.
-/

namespace PropertyGraph.Query

/-! ## Runs of settings -/

section Runs

variable {σ ξ α β : Type}

/-- A setting that gives something for a field changes it, and any other leaves it alone.  After
a run the field holds what was given for it, put together in this order. -/
theorem foldl_field (field : σ → α) (take : α → β → α) {set : σ → ξ → σ} {given : ξ → Option β}
    (hset : ∀ p x, field (set p x) = ((given x).map (take (field p))).getD (field p))
    (xs : List ξ) : ∀ p, field (xs.foldl set p) = (xs.filterMap given).foldl take (field p) := by
  induction xs with
  | nil =>
    intro p
    rfl
  | cons x rest ih =>
    intro p
    rw [List.foldl_cons, ih, hset]
    cases hx : given x with
    | none => rw [List.filterMap_cons_none hx, Option.map_none, Option.getD_none]
    | some b =>
      rw [List.filterMap_cons_some hx, List.foldl_cons, Option.map_some, Option.getD_some]

/-- Of values that replace each other the last one stays. -/
theorem foldl_replace (f : β → α) (given : List β) :
    ∀ a, given.foldl (fun _ b => f b) a = (given.getLast?.map f).getD a := by
  induction given with
  | nil =>
    intro a
    rfl
  | cons b rest ih =>
    intro a
    rw [List.foldl_cons, ih]
    cases rest with
    | nil => rfl
    | cons c rest => rw [List.getLast?_cons_cons, List.getLast?_cons]; rfl

/-- The value of a key in the last map that has it. -/
def lastValue? (key : String) (maps : List PropertyMap) : Option Json :=
  maps.reverse.findSome? fun m => m.get? key

/-- Maps that add up answer from the last one that has a value. -/
theorem get?_foldl_union (key : String) (maps : List PropertyMap) :
    ∀ d : PropertyMap,
      (maps.foldl Dict.union d).get? key = (lastValue? key maps).or (d.get? key) := by
  induction maps with
  | nil =>
    intro d
    rfl
  | cons m rest ih =>
    intro d
    rw [List.foldl_cons, ih, Dict.get?_union, ← Option.or_assoc]
    unfold lastValue?
    rw [List.reverse_cons, List.findSome?_append]
    cases hm : m.get? key <;> simp [hm]

/-- What settings give for a field is given by those that are about it. -/
theorem filterMap_filter_about {κ : Type} [DecidableEq κ] {about : ξ → κ} {given : ξ → Option β}
    {field : κ} (habout : ∀ x b, given x = some b → about x = field) (xs : List ξ) :
    (xs.filter fun x => about x = field).filterMap given = xs.filterMap given := by
  rw [List.filterMap_filter]
  refine List.filterMap_congr fun x _ => ?_
  by_cases hx : about x = field
  · rw [if_pos (decide_eq_true hx)]
  · cases hgiven : given x with
    | none => rw [ite_self]
    | some b => exact absurd (habout x b hgiven) hx

/-- A field is the same after lists that agree on what is about it. -/
theorem foldl_eq_of_agree {κ : Type} [DecidableEq κ] (field : σ → α) (take : α → β → α)
    {set : σ → ξ → σ} {given : ξ → Option β} {about : ξ → κ} {key : κ} {xs ys : List ξ}
    (hset : ∀ p x, field (set p x) = ((given x).map (take (field p))).getD (field p))
    (habout : ∀ x b, given x = some b → about x = key)
    (hagree : (xs.filter fun x => about x = key) = ys.filter fun x => about x = key) (p : σ) :
    field (xs.foldl set p) = field (ys.foldl set p) := by
  rw [foldl_field field take hset, foldl_field field take hset,
    ← filterMap_filter_about habout xs, hagree, filterMap_filter_about habout ys]

/-- Lists of which one is the other in another order, with one entry to a field, agree on each
field. -/
theorem filter_about_eq_of_perm {κ : Type} [DecidableEq κ] {about : ξ → κ} {xs ys : List ξ}
    (h : xs.Perm ys) (hnodup : (ys.map about).Nodup) (field : κ) :
    (xs.filter fun x => about x = field) = ys.filter fun x => about x = field := by
  have hperm := h.filter fun x => decide (about x = field)
  have hsub : ((ys.filter fun x => about x = field).map about).Nodup :=
    hnodup.sublist (List.filter_sublist.map about)
  cases hys : ys.filter fun x => about x = field with
  | nil => rwa [hys, List.perm_nil] at hperm
  | cons y rest =>
    cases rest with
    | nil => rwa [hys, List.perm_singleton] at hperm
    | cons z rest =>
      -- Two entries would be about the same field.
      have hmem : ∀ w ∈ y :: z :: rest, about w = field := by
        intro w hw
        rw [← hys] at hw
        simpa using List.of_mem_filter hw
      have hy := hmem y List.mem_cons_self
      have hz := hmem z (List.mem_cons_of_mem _ List.mem_cons_self)
      rw [hys, List.map_cons, List.map_cons, hy, hz] at hsub
      simp at hsub

end Runs

/-- The last name that is given, unless it is empty. -/
def lastName? (names : List String) : Option String := names.getLast?.filter fun name => name != ""

theorem foldl_explicitName (names : List String) :
    names.foldl (fun _ name => explicitName name) none = lastName? names := by
  rw [foldl_replace]
  unfold lastName?
  cases names.getLast? with
  | none => rfl
  | some name =>
    rw [Option.map_some, Option.getD_some, explicitName, Option.filter_some]
    by_cases hname : name = ""
    · subst hname
      rfl
    · rw [if_neg (by simpa using hname), if_pos (by simpa using hname)]

/-- Lists that are appended one by one. -/
theorem foldl_appended (lists : List (List String)) :
    lists.foldl (fun labels more => labels ++ more) [] = lists.flatten := by
  show lists.foldl (fun labels more => labels ++ id more) [] = lists.flatten
  rw [List.foldl_append_eq_append, List.map_id, List.nil_append]

/-! ## Edge patterns -/

/-- The sites of an edge pattern. -/
inductive EdgeSite
  | start
  | edge
  | finish
  deriving DecidableEq, Repr

/-- The fields of an edge pattern. -/
inductive EdgeField
  | queryMode
  | fetchMode
  | labels (site : EdgeSite)
  | variableName (site : EdgeSite)
  | selector (site : EdgeSite)
  | filters (site : EdgeSite)
  deriving DecidableEq, Repr

namespace EdgeSetting

/-- The field that a setting is about. -/
def field : EdgeSetting → EdgeField
  | .queryMode _ => .queryMode
  | .fetchMode _ => .fetchMode
  | .startLabels _ => .labels .start
  | .endLabels _ => .labels .finish
  | .labels _ => .labels .edge
  | .label _ => .labels .edge
  | .startVariableName _ => .variableName .start
  | .endVariableName _ => .variableName .finish
  | .variableName _ => .variableName .edge
  | .startSelector _ => .selector .start
  | .endSelector _ => .selector .finish
  | .selector _ => .selector .edge
  | .startFilters _ => .filters .start
  | .endFilters _ => .filters .finish
  | .filters _ => .filters .edge

/-- The query mode that a setting gives. -/
def queryMode? : EdgeSetting → Option QueryMode
  | .queryMode mode => some mode
  | _ => none

/-- The fetch mode that a setting gives. -/
def fetchMode? : EdgeSetting → Option FetchMode
  | .fetchMode mode => some mode
  | _ => none

/-- The labels that a setting gives for a site. -/
def labels? : EdgeSite → EdgeSetting → Option (List String)
  | .start, .startLabels given => some given
  | .finish, .endLabels given => some given
  | .edge, .labels given => some given
  | .edge, .label given => some [given]
  | _, _ => none

/-- The name that a setting gives for a site. -/
def variableName? : EdgeSite → EdgeSetting → Option String
  | .start, .startVariableName name => some name
  | .finish, .endVariableName name => some name
  | .edge, .variableName name => some name
  | _, _ => none

/-- The selector entries that a setting gives for a site. -/
def selector? : EdgeSite → EdgeSetting → Option PropertyMap
  | .start, .startSelector entries => some entries
  | .finish, .endSelector entries => some entries
  | .edge, .selector entries => some entries
  | _, _ => none

/-- The filter entries that a setting gives for a site. -/
def filters? : EdgeSite → EdgeSetting → Option PropertyMap
  | .start, .startFilters entries => some entries
  | .finish, .endFilters entries => some entries
  | .edge, .filters entries => some entries
  | _, _ => none

end EdgeSetting

namespace EdgePattern

/-- The labels of a site. -/
def labelsAt (p : EdgePattern) : EdgeSite → List String
  | .start => p.startLabels
  | .edge => p.labels
  | .finish => p.endLabels

/-- The explicit name of a site. -/
def variableNameAt (p : EdgePattern) : EdgeSite → Option String
  | .start => p.startVariableName
  | .edge => p.variableName
  | .finish => p.endVariableName

/-- The selector of a site. -/
def selectorAt (p : EdgePattern) : EdgeSite → PropertyMap
  | .start => p.startSelector
  | .edge => p.selector
  | .finish => p.endSelector

/-- The filters of a site. -/
def filtersAt (p : EdgePattern) : EdgeSite → PropertyMap
  | .start => p.startFilters
  | .edge => p.filters
  | .finish => p.endFilters

/-- The labels that settings give for a site. -/
def labelsGiven (xs : List EdgeSetting) (site : EdgeSite) : List String :=
  (xs.filterMap (EdgeSetting.labels? site)).flatten

/-- The name that settings leave to a site. -/
def nameGiven? (xs : List EdgeSetting) (site : EdgeSite) : Option String :=
  lastName? (xs.filterMap (EdgeSetting.variableName? site))

/-- A pattern holds, field by field, what settings give: the last mode, all labels in their order,
the last name unless it is empty, and for each key of a map the last value. -/
structure Collects (p : EdgePattern) (xs : List EdgeSetting) : Prop where
  queryMode : p.queryMode = (xs.filterMap EdgeSetting.queryMode?).getLast?.getD .read
  fetchMode : p.fetchMode = (xs.filterMap EdgeSetting.fetchMode?).getLast?.getD .vertexIds
  labels : ∀ site, p.labelsAt site = labelsGiven xs site
  variableName : ∀ site, p.variableNameAt site = nameGiven? xs site
  selector : ∀ site key, (p.selectorAt site).get? key =
    lastValue? key (xs.filterMap (EdgeSetting.selector? site))
  filters : ∀ site key, (p.filtersAt site).get? key =
    lastValue? key (xs.filterMap (EdgeSetting.filters? site))

/-! ### One setting -/

section Step

variable (site : EdgeSite) (p : EdgePattern) (x : EdgeSetting)

theorem set_queryMode :
    (p.set x).queryMode = (x.queryMode?.map fun mode => mode).getD p.queryMode := by
  cases x <;> rfl

theorem set_fetchMode :
    (p.set x).fetchMode = (x.fetchMode?.map fun mode => mode).getD p.fetchMode := by
  cases x <;> rfl

theorem set_labelsAt : (p.set x).labelsAt site =
    ((x.labels? site).map fun more => p.labelsAt site ++ more).getD (p.labelsAt site) := by
  cases x <;> cases site <;> rfl

theorem set_variableNameAt : (p.set x).variableNameAt site =
    ((x.variableName? site).map explicitName).getD (p.variableNameAt site) := by
  cases x <;> cases site <;> rfl

theorem set_selectorAt : (p.set x).selectorAt site =
    ((x.selector? site).map (p.selectorAt site).union).getD (p.selectorAt site) := by
  cases x <;> cases site <;> rfl

theorem set_filtersAt : (p.set x).filtersAt site =
    ((x.filters? site).map (p.filtersAt site).union).getD (p.filtersAt site) := by
  cases x <;> cases site <;> rfl

end Step

/-! ### Runs -/

/-- The pattern that settings make collects what they give. -/
theorem collects_setAll (xs : List EdgeSetting) : (setAll {} xs).Collects xs where
  queryMode := by
    have hrun := foldl_field queryMode (fun _ mode => mode) set_queryMode xs {}
    rwa [foldl_replace, Option.map_id'] at hrun
  fetchMode := by
    have hrun := foldl_field fetchMode (fun _ mode => mode) set_fetchMode xs {}
    rwa [foldl_replace, Option.map_id'] at hrun
  labels site := by
    have hempty : ({} : EdgePattern).labelsAt site = [] := by cases site <;> rfl
    have hrun := foldl_field (fun p : EdgePattern => p.labelsAt site)
      (fun labels more => labels ++ more) (set_labelsAt site) xs {}
    rwa [hempty, foldl_appended] at hrun
  variableName site := by
    have hnone : ({} : EdgePattern).variableNameAt site = none := by cases site <;> rfl
    have hrun := foldl_field (fun p : EdgePattern => p.variableNameAt site)
      (fun _ name => explicitName name) (set_variableNameAt site) xs {}
    rwa [hnone, foldl_explicitName] at hrun
  selector site key := by
    have hempty : ({} : EdgePattern).selectorAt site = ∅ := by cases site <;> rfl
    have hrun := foldl_field (fun p : EdgePattern => p.selectorAt site) Dict.union
      (set_selectorAt site) xs {}
    have hkey := get?_foldl_union key (xs.filterMap (EdgeSetting.selector? site)) ∅
    rw [hempty] at hrun
    rwa [← hrun, Dict.get?_empty, Option.or_none] at hkey
  filters site key := by
    have hempty : ({} : EdgePattern).filtersAt site = ∅ := by cases site <;> rfl
    have hrun := foldl_field (fun p : EdgePattern => p.filtersAt site) Dict.union
      (set_filtersAt site) xs {}
    have hkey := get?_foldl_union key (xs.filterMap (EdgeSetting.filters? site)) ∅
    rw [hempty] at hrun
    rwa [← hrun, Dict.get?_empty, Option.or_none] at hkey

variable {p q : EdgePattern} {xs ys : List EdgeSetting}

/-- A pattern is its two modes and what it has at its sites. -/
theorem ext_fields (hquery : p.queryMode = q.queryMode) (hfetch : p.fetchMode = q.fetchMode)
    (hlabels : ∀ site, p.labelsAt site = q.labelsAt site)
    (hname : ∀ site, p.variableNameAt site = q.variableNameAt site)
    (hselector : ∀ site, p.selectorAt site = q.selectorAt site)
    (hfilters : ∀ site, p.filtersAt site = q.filtersAt site) : p = q := by
  cases p
  cases q
  simp only [mk.injEq]
  exact ⟨hquery, hfetch, hlabels .start, hname .start, hlabels .finish, hname .finish,
    hlabels .edge, hname .edge, hselector .start, hselector .finish, hselector .edge,
    hfilters .start, hfilters .finish, hfilters .edge⟩

/-- There is one pattern that collects what settings give. -/
theorem Collects.unique (hp : p.Collects xs) (hq : q.Collects xs) : p = q := by
  refine ext_fields ?_ ?_ (fun site => ?_) (fun site => ?_) (fun site => ?_) fun site => ?_
  · rw [hp.queryMode, hq.queryMode]
  · rw [hp.fetchMode, hq.fetchMode]
  · rw [hp.labels, hq.labels]
  · rw [hp.variableName, hq.variableName]
  · refine Dict.ext_get? fun key => ?_
    rw [hp.selector, hq.selector]
  · refine Dict.ext_get? fun key => ?_
    rw [hp.filters, hq.filters]

theorem setAll_eq_iff : setAll {} xs = p ↔ p.Collects xs := by
  constructor
  · intro h
    rw [← h]
    exact collects_setAll xs
  · intro h
    exact (collects_setAll xs).unique h

/-- Settings that agree on each field make one pattern. -/
theorem setAll_eq_of_agree
    (hagree : ∀ field, (xs.filter fun x => x.field = field) = ys.filter fun x => x.field = field) :
    setAll {} xs = setAll {} ys := by
  refine ext_fields ?_ ?_ (fun site => ?_) (fun site => ?_) (fun site => ?_) fun site => ?_
  · exact foldl_eq_of_agree queryMode (fun _ mode => mode) set_queryMode
      (fun x b hx => by cases x <;> first | rfl | cases hx) (hagree .queryMode) {}
  · exact foldl_eq_of_agree fetchMode (fun _ mode => mode) set_fetchMode
      (fun x b hx => by cases x <;> first | rfl | cases hx) (hagree .fetchMode) {}
  · exact foldl_eq_of_agree (fun p : EdgePattern => p.labelsAt site)
      (fun labels more => labels ++ more) (set_labelsAt site)
      (fun x b hx => by cases x <;> cases site <;> first | rfl | cases hx)
      (hagree (.labels site)) {}
  · exact foldl_eq_of_agree (fun p : EdgePattern => p.variableNameAt site)
      (fun _ name => explicitName name) (set_variableNameAt site)
      (fun x b hx => by cases x <;> cases site <;> first | rfl | cases hx)
      (hagree (.variableName site)) {}
  · exact foldl_eq_of_agree (fun p : EdgePattern => p.selectorAt site) Dict.union
      (set_selectorAt site)
      (fun x b hx => by cases x <;> cases site <;> first | rfl | cases hx)
      (hagree (.selector site)) {}
  · exact foldl_eq_of_agree (fun p : EdgePattern => p.filtersAt site) Dict.union
      (set_filtersAt site)
      (fun x b hx => by cases x <;> cases site <;> first | rfl | cases hx)
      (hagree (.filters site)) {}

end EdgePattern

/-! ### Faults -/

/-- How a site is called when it is refused. -/
def EdgeSite.toSite : EdgeSite → Site
  | .start => .startVertex
  | .edge => .edge
  | .finish => .endVertex

/-- What can be wrong with an edge pattern. -/
inductive EdgeFault
  | noLabel
  | severalLabels
  | emptyLabel (site : EdgeSite)
  | unnamed (site : EdgeSite)
  deriving DecidableEq, Repr

namespace EdgeFault

/-- The faults in the order in which a pattern is searched for them. -/
def inOrder : List EdgeFault :=
  [.noLabel, .severalLabels, .emptyLabel .edge, .unnamed .start, .unnamed .finish,
    .emptyLabel .start, .emptyLabel .finish]

/-- Whether labels and names have the fault. -/
def Occurs (labels : EdgeSite → List String) (name : EdgeSite → Option String) : EdgeFault → Prop
  | .noLabel => labels .edge = []
  | .severalLabels => 1 < (labels .edge).length
  | .emptyLabel site => "" ∈ labels site
  | .unnamed site => labels site = [] ∧ name site = none

instance (labels : EdgeSite → List String) (name : EdgeSite → Option String) :
    DecidablePred (Occurs labels name)
  | .noLabel => inferInstanceAs (Decidable (labels .edge = []))
  | .severalLabels => inferInstanceAs (Decidable (1 < (labels .edge).length))
  | .emptyLabel site => inferInstanceAs (Decidable ("" ∈ labels site))
  | .unnamed site => inferInstanceAs (Decidable (labels site = [] ∧ name site = none))

/-- The refusal for a fault. -/
def error : EdgeFault → GraphError
  | .noLabel => noLabels .edge
  | .severalLabels => multipleEdgeLabels
  | .emptyLabel site => Query.emptyLabel site.toSite
  | .unnamed site => unnamedEndpoint site.toSite

/-- The code of the refusal. -/
def codeText : EdgeFault → String
  | .noLabel => "VAL_001"
  | .severalLabels => "VAL_002"
  | .emptyLabel _ => "VAL_001"
  | .unnamed _ => "VAL_003"

/-- The answer to a search for faults: the refusal for the first one that occurs. -/
def search (occurs : EdgeFault → Bool) (faults : List EdgeFault) : Except GraphError Unit :=
  match faults.find? occurs with
  | some fault => .error fault.error
  | none => .ok ()

theorem search_cons (occurs : EdgeFault → Bool) (fault : EdgeFault) (rest : List EdgeFault) :
    search occurs (fault :: rest) =
      if occurs fault = true then .error fault.error else search occurs rest := by
  unfold search
  rw [List.find?_cons]
  cases occurs fault <;> rfl

theorem search_eq_error_iff {occurs : EdgeFault → Bool} {faults : List EdgeFault}
    {e : GraphError} :
    search occurs faults = .error e ↔ ∃ fault, faults.find? occurs = some fault ∧
      e = fault.error := by
  unfold search
  cases faults.find? occurs with
  | none => simp
  | some fault => simp [eq_comm]

/-- The fault is the first one that settings have. -/
def FirstOf (xs : List EdgeSetting) (fault : EdgeFault) : Prop :=
  ∃ before after, inOrder = before ++ fault :: after ∧
    fault.Occurs (EdgePattern.labelsGiven xs) (EdgePattern.nameGiven? xs) ∧
    ∀ earlier ∈ before,
      ¬ earlier.Occurs (EdgePattern.labelsGiven xs) (EdgePattern.nameGiven? xs)

end EdgeFault

namespace EdgePattern

/-- A pattern is searched for its faults in their order. -/
theorem check_eq (p : EdgePattern) : p.check =
    EdgeFault.search (fun fault => fault.Occurs p.labelsAt p.variableNameAt) EdgeFault.inOrder := by
  have hunnamed : ∀ (labels : List String) (name : Option String),
      (labels.isEmpty && name.isNone) = decide (labels = [] ∧ name = none) := by
    intro labels name
    cases labels <;> cases name <;> rfl
  have hempty : ∀ labels : List String, labels.any String.isEmpty = decide ("" ∈ labels) := by
    intro labels
    rw [Bool.eq_iff_iff, List.any_eq_true, decide_eq_true_eq]
    simp
  have hnone : p.labels.isEmpty = decide (p.labels = []) := by
    cases p.labels <;> rfl
  unfold check
  rw [hnone, hunnamed, hunnamed, hempty, hempty, hempty]
  simp only [EdgeFault.inOrder, EdgeFault.search_cons, decide_eq_true_eq]
  rfl

/-- The pattern that settings make is refused for the first fault that they have. -/
theorem build_setAll_eq_error_iff (xs : List EdgeSetting) (e : GraphError) :
    (setAll {} xs).build = .error e ↔ ∃ fault, EdgeFault.FirstOf xs fault ∧ e = fault.error := by
  have hcollects := collects_setAll xs
  have hlabels : (setAll {} xs).labelsAt = labelsGiven xs := funext hcollects.labels
  have hname : (setAll {} xs).variableNameAt = nameGiven? xs := funext hcollects.variableName
  have hbuild : (setAll {} xs).build = .error e ↔ (setAll {} xs).check = .error e := by
    unfold build
    cases (setAll {} xs).check <;> simp
  rw [hbuild, check_eq, EdgeFault.search_eq_error_iff, hlabels, hname]
  refine exists_congr fun fault => and_congr_left fun _ => ?_
  rw [List.find?_eq_some_iff_append]
  constructor
  · rintro ⟨hoccurs, before, after, hsplit, hbefore⟩
    refine ⟨before, after, hsplit, of_decide_eq_true hoccurs, fun earlier hearlier => ?_⟩
    simpa using hbefore earlier hearlier
  · rintro ⟨before, after, hsplit, hoccurs, hbefore⟩
    refine ⟨decide_eq_true hoccurs, before, after, hsplit, fun earlier hearlier => ?_⟩
    simpa using hbefore earlier hearlier

/-! ### Requests -/

/-- A request stands for its own parts. -/
theorem ofRequest_eq (r : EdgeRequest) : ofRequest r =
    { fetchMode := r.fetchMode
      startLabels := r.startLabels
      endLabels := r.endLabels
      labels := [r.label]
      startSelector := r.startSelectors
      endSelector := r.endSelectors
      selector := r.selectors
      startFilters := r.startFilters
      endFilters := r.endFilters
      filters := r.filters } := by
  simp [ofRequest, settingsOf, setAll, set, Dict.empty_union]

/-- The settings of a request may be given in any order. -/
theorem setAll_settingsOf {r : EdgeRequest} {xs : List EdgeSetting}
    (h : xs.Perm (settingsOf r)) (more : List EdgeSetting) :
    setAll {} (xs ++ more) = (ofRequest r).setAll more := by
  have hnodup : ((settingsOf r).map EdgeSetting.field).Nodup := by
    show [EdgeField.fetchMode, .labels .start, .labels .finish, .labels .edge, .selector .start,
      .selector .finish, .selector .edge, .filters .start, .filters .finish,
      .filters .edge].Nodup
    decide
  have hsame : setAll {} xs = ofRequest r := setAll_eq_of_agree (filter_about_eq_of_perm h hnodup)
  show (xs ++ more).foldl set {} = (ofRequest r).setAll more
  rw [List.foldl_append, ← hsame]
  rfl

end EdgePattern

/-! ## Vertex patterns -/

/-- The fields of a vertex pattern. -/
inductive VertexField
  | queryMode
  | writeMode
  | labels
  | variableName
  | selector
  | filters
  deriving DecidableEq, Repr

namespace VertexSetting

/-- The field that a setting is about. -/
def field : VertexSetting → VertexField
  | .queryMode _ => .queryMode
  | .writeMode _ => .writeMode
  | .labels _ => .labels
  | .label _ => .labels
  | .variableName _ => .variableName
  | .selector _ => .selector
  | .filters _ => .filters

/-- The query mode that a setting gives. -/
def queryMode? : VertexSetting → Option QueryMode
  | .queryMode mode => some mode
  | _ => none

/-- The write mode that a setting gives. -/
def writeMode? : VertexSetting → Option WriteMode
  | .writeMode mode => some mode
  | _ => none

/-- The labels by which a setting replaces all others. -/
def labels? : VertexSetting → Option (List String)
  | .labels given => some given
  | _ => none

/-- The label that a setting appends. -/
def label? : VertexSetting → Option String
  | .label given => some given
  | _ => none

/-- What a setting makes of the labels. -/
def labelChange? : VertexSetting → Option (List String → List String)
  | .labels given => some fun _ => given
  | .label given => some fun labels => labels ++ [given]
  | _ => none

/-- The name that a setting gives. -/
def variableName? : VertexSetting → Option String
  | .variableName name => some name
  | _ => none

/-- The selector entries that a setting gives. -/
def selector? : VertexSetting → Option PropertyMap
  | .selector entries => some entries
  | _ => none

/-- The filter entries that a setting gives. -/
def filters? : VertexSetting → Option PropertyMap
  | .filters entries => some entries
  | _ => none

end VertexSetting

namespace VertexPattern

/-- The labels that settings leave: the last ones that replaced all others, and those that were
appended since. -/
def labelsLeft (xs : List VertexSetting) : List String :=
  (xs.filterMap VertexSetting.labels?).getLast?.getD [] ++
    (xs.rtakeWhile fun x => x.labels?.isNone).filterMap VertexSetting.label?

/-- A pattern holds, field by field, what settings give. -/
structure Collects (p : VertexPattern) (xs : List VertexSetting) : Prop where
  queryMode : p.queryMode = (xs.filterMap VertexSetting.queryMode?).getLast?.getD .read
  writeMode : p.writeMode = (xs.filterMap VertexSetting.writeMode?).getLast?.getD .merge
  labels : p.labels = labelsLeft xs
  variableName : p.variableName = lastName? (xs.filterMap VertexSetting.variableName?)
  selector : ∀ key, p.selector.get? key =
    lastValue? key (xs.filterMap VertexSetting.selector?)
  filters : ∀ key, p.filters.get? key =
    lastValue? key (xs.filterMap VertexSetting.filters?)

section Step

variable (p : VertexPattern) (x : VertexSetting)

theorem set_queryMode :
    (p.set x).queryMode = (x.queryMode?.map fun mode => mode).getD p.queryMode := by
  cases x <;> rfl

theorem set_writeMode :
    (p.set x).writeMode = (x.writeMode?.map fun mode => mode).getD p.writeMode := by
  cases x <;> rfl

theorem set_labels :
    (p.set x).labels = (x.labelChange?.map fun change => change p.labels).getD p.labels := by
  cases x <;> rfl

theorem set_variableName :
    (p.set x).variableName = (x.variableName?.map explicitName).getD p.variableName := by
  cases x <;> rfl

theorem set_selector :
    (p.set x).selector = (x.selector?.map p.selector.union).getD p.selector := by
  cases x <;> rfl

theorem set_filters :
    (p.set x).filters = (x.filters?.map p.filters.union).getD p.filters := by
  cases x <;> rfl

end Step

/-- One more setting: a replacement leaves only its own labels, a label comes last, and any other
setting leaves the labels alone. -/
theorem labelsLeft_concat (xs : List VertexSetting) (x : VertexSetting) :
    labelsLeft (xs ++ [x]) =
      (x.labelChange?.map fun change => change (labelsLeft xs)).getD (labelsLeft xs) := by
  unfold labelsLeft
  rw [List.filterMap_append]
  cases x with
  | labels given =>
    rw [List.rtakeWhile_concat_neg _ _ _ (by simp [VertexSetting.labels?])]
    simp [VertexSetting.labels?, VertexSetting.labelChange?]
  | _ =>
    rw [List.rtakeWhile_concat_pos _ _ _ (by simp [VertexSetting.labels?]), List.filterMap_append]
    simp [VertexSetting.labels?, VertexSetting.label?, VertexSetting.labelChange?]

theorem labels_ofSettings (xs : List VertexSetting) : (ofSettings xs).labels = labelsLeft xs := by
  induction xs using List.reverseRecOn with
  | nil => rfl
  | append_singleton xs x ih =>
    have hlast : ofSettings (xs ++ [x]) = (ofSettings xs).set x := List.foldl_concat ..
    rw [hlast, set_labels, ih, labelsLeft_concat]

/-- The pattern that settings make collects what they give. -/
theorem collects_ofSettings (xs : List VertexSetting) : (ofSettings xs).Collects xs where
  queryMode := by
    have hrun := foldl_field queryMode (fun _ mode => mode) set_queryMode xs {}
    rwa [foldl_replace, Option.map_id'] at hrun
  writeMode := by
    have hrun := foldl_field writeMode (fun _ mode => mode) set_writeMode xs {}
    rwa [foldl_replace, Option.map_id'] at hrun
  labels := labels_ofSettings xs
  variableName := by
    have hrun := foldl_field variableName (fun _ name => explicitName name) set_variableName xs {}
    rwa [foldl_explicitName] at hrun
  selector key := by
    have hrun := foldl_field selector Dict.union set_selector xs {}
    have hkey := get?_foldl_union key (xs.filterMap VertexSetting.selector?) ∅
    rwa [← hrun, Dict.get?_empty, Option.or_none] at hkey
  filters key := by
    have hrun := foldl_field filters Dict.union set_filters xs {}
    have hkey := get?_foldl_union key (xs.filterMap VertexSetting.filters?) ∅
    rwa [← hrun, Dict.get?_empty, Option.or_none] at hkey

variable {p q : VertexPattern} {xs ys : List VertexSetting}

/-- There is one pattern that collects what settings give. -/
theorem Collects.unique (hp : p.Collects xs) (hq : q.Collects xs) : p = q := by
  have hselector : p.selector = q.selector := by
    refine Dict.ext_get? fun key => ?_
    rw [hp.selector, hq.selector]
  have hfilters : p.filters = q.filters := by
    refine Dict.ext_get? fun key => ?_
    rw [hp.filters, hq.filters]
  have hquery : p.queryMode = q.queryMode := by rw [hp.queryMode, hq.queryMode]
  have hwrite : p.writeMode = q.writeMode := by rw [hp.writeMode, hq.writeMode]
  have hlabels : p.labels = q.labels := by rw [hp.labels, hq.labels]
  have hname : p.variableName = q.variableName := by rw [hp.variableName, hq.variableName]
  cases p
  cases q
  simp only [mk.injEq]
  exact ⟨hquery, hlabels, hname, hselector, hfilters, hwrite⟩

theorem ofSettings_eq_iff : ofSettings xs = p ↔ p.Collects xs := by
  constructor
  · intro h
    rw [← h]
    exact collects_ofSettings xs
  · intro h
    exact (collects_ofSettings xs).unique h

/-- Settings that agree on each field make one pattern. -/
theorem ofSettings_eq_of_agree
    (hagree : ∀ field, (xs.filter fun x => x.field = field) = ys.filter fun x => x.field = field) :
    ofSettings xs = ofSettings ys := by
  have hquery := foldl_eq_of_agree queryMode (fun _ mode => mode) set_queryMode
    (fun x b hx => by cases x <;> first | rfl | cases hx) (hagree .queryMode) {}
  have hwrite := foldl_eq_of_agree writeMode (fun _ mode => mode) set_writeMode
    (fun x b hx => by cases x <;> first | rfl | cases hx) (hagree .writeMode) {}
  have hlabels := foldl_eq_of_agree labels 
    (fun labels (change : List String → List String) => change labels) set_labels
    (fun x b hx => by cases x <;> first | rfl | cases hx) (hagree .labels) {}
  have hname := foldl_eq_of_agree variableName (fun _ name => explicitName name) set_variableName
    (fun x b hx => by cases x <;> first | rfl | cases hx) (hagree .variableName) {}
  have hselector := foldl_eq_of_agree selector _ set_selector
    (fun x b hx => by cases x <;> first | rfl | cases hx) (hagree .selector) {}
  have hfilters := foldl_eq_of_agree filters _ set_filters
    (fun x b hx => by cases x <;> first | rfl | cases hx) (hagree .filters) {}
  unfold ofSettings
  generalize xs.foldl set {} = p at *
  generalize ys.foldl set {} = q at *
  cases p
  cases q
  simp only [mk.injEq]
  exact ⟨hquery, hlabels, hname, hselector, hfilters, hwrite⟩

end VertexPattern

/-! ## What settings decide -/

/-- A pattern is what its settings give, field by field, and so the order of settings matters only
among those about one field.  An edge pattern is refused exactly for the first of its seven
faults.  A request stands for one setting of each field, and these may come in any order. -/
theorem settings_decide :
    (∀ (xs : List EdgeSetting) (p : EdgePattern), EdgePattern.setAll {} xs = p ↔ p.Collects xs) ∧
    (∀ xs ys : List EdgeSetting,
      (∀ field, (xs.filter fun x => x.field = field) = ys.filter fun x => x.field = field) →
      (EdgePattern.setAll {} xs).build = (EdgePattern.setAll {} ys).build) ∧
    (∀ (xs : List EdgeSetting) (e : GraphError), (EdgePattern.setAll {} xs).build = .error e ↔
      ∃ fault, EdgeFault.FirstOf xs fault ∧ e = fault.error) ∧
    (∀ fault : EdgeFault, ∃ code reason,
      fault.error = .validation code reason ∧ code.text = fault.codeText) ∧
    (∀ (r : EdgeRequest) (xs more : List EdgeSetting), xs.Perm (EdgePattern.settingsOf r) →
      EdgePattern.setAll {} (xs ++ more) = (EdgePattern.ofRequest r).setAll more) ∧
    (∀ r : EdgeRequest, EdgePattern.ofRequest r =
      { fetchMode := r.fetchMode
        startLabels := r.startLabels
        endLabels := r.endLabels
        labels := [r.label]
        startSelector := r.startSelectors
        endSelector := r.endSelectors
        selector := r.selectors
        startFilters := r.startFilters
        endFilters := r.endFilters
        filters := r.filters }) ∧
    (∀ (xs : List VertexSetting) (p : VertexPattern),
      VertexPattern.ofSettings xs = p ↔ p.Collects xs) ∧
    (∀ xs ys : List VertexSetting,
      (∀ field, (xs.filter fun x => x.field = field) = ys.filter fun x => x.field = field) →
      (VertexPattern.ofSettings xs).build = (VertexPattern.ofSettings ys).build) := by
  refine ⟨fun xs p => EdgePattern.setAll_eq_iff, fun xs ys hagree => ?_,
    EdgePattern.build_setAll_eq_error_iff, fun fault => ?_,
    fun r xs more hperm => EdgePattern.setAll_settingsOf hperm more, EdgePattern.ofRequest_eq,
    fun xs p => VertexPattern.ofSettings_eq_iff, fun xs ys hagree => ?_⟩
  · rw [EdgePattern.setAll_eq_of_agree hagree]
  · cases fault with
    | noLabel => exact ⟨_, _, rfl, rfl⟩
    | severalLabels => exact ⟨_, _, rfl, rfl⟩
    | emptyLabel site => exact ⟨_, _, rfl, rfl⟩
    | unnamed site => exact ⟨_, _, rfl, rfl⟩
  · rw [VertexPattern.ofSettings_eq_of_agree hagree]

/-- Two orders of the same settings, and a pattern with two faults that is refused for the first
of them. -/
theorem settings_decide_knows :
    (EdgePattern.setAll {} [.startLabels ["Person"], .variableName "k", .label "KNOWS",
        .endLabels ["Person"], .variableName ""]).build =
      (EdgePattern.setAll {} [.label "KNOWS", .endLabels ["Person"], .startLabels ["Person"],
        .variableName "k", .variableName ""]).build ∧
    (EdgePattern.setAll {} [.startLabels [""], .labels ["KNOWS", "LIKES"]]).build =
      .error multipleEdgeLabels := by
  obtain ⟨-, hagree, hrefused, -⟩ := settings_decide
  constructor
  · refine hagree _ _ fun field => ?_
    cases field with
    | queryMode => rfl
    | fetchMode => rfl
    | _ site => cases site <;> rfl
  · refine (hrefused _ _).2 ⟨.severalLabels, ⟨[.noLabel], _, rfl, ?_, ?_⟩, rfl⟩
    · show 1 < 2
      omega
    · intro earlier hearlier
      rw [List.mem_singleton.1 hearlier]
      exact List.cons_ne_nil _ _

end PropertyGraph.Query
