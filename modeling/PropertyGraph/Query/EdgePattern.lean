import PropertyGraph.Query.Request
import PropertyGraph.Query.Fragment
import PropertyGraph.Query.Variable
import PropertyGraph.Query.Refusal

/-!
# Patterns of one relationship

An `EdgePattern` is a relationship between two vertices, without direction, and is written
as `MATCH` for reading or `MERGE` for writing.  An endpoint may be given by a variable alone,
which then refers to a vertex that is bound elsewhere.
-/

namespace PropertyGraph.Query

/-- A relationship and its two endpoints, to match or to write. -/
structure EdgePattern where
  queryMode : QueryMode := .read
  fetchMode : FetchMode := .vertexIds
  startLabels : List String := []
  startVariableName : Option String := none
  endLabels : List String := []
  endVariableName : Option String := none
  labels : List String := []
  variableName : Option String := none
  startSelector : PropertyMap := ∅
  endSelector : PropertyMap := ∅
  selector : PropertyMap := ∅
  startFilters : PropertyMap := ∅
  endFilters : PropertyMap := ∅
  filters : PropertyMap := ∅

/-- One setting of an edge pattern.  Labels are appended; an empty variable name lets the
name be derived again; selectors and filters add up. -/
inductive EdgeSetting
  | queryMode (mode : QueryMode)
  | fetchMode (mode : FetchMode)
  | startLabels (labels : List String)
  | endLabels (labels : List String)
  | labels (labels : List String)
  | label (label : String)
  | startVariableName (name : String)
  | endVariableName (name : String)
  | variableName (name : String)
  | startSelector (entries : PropertyMap)
  | endSelector (entries : PropertyMap)
  | selector (entries : PropertyMap)
  | startFilters (entries : PropertyMap)
  | endFilters (entries : PropertyMap)
  | filters (entries : PropertyMap)

namespace EdgePattern

/-- The pattern after one setting. -/
def set (p : EdgePattern) : EdgeSetting → EdgePattern
  | .queryMode mode => { p with queryMode := mode }
  | .fetchMode mode => { p with fetchMode := mode }
  | .startLabels labels => { p with startLabels := p.startLabels ++ labels }
  | .endLabels labels => { p with endLabels := p.endLabels ++ labels }
  | .labels labels => { p with labels := p.labels ++ labels }
  | .label label => { p with labels := p.labels ++ [label] }
  | .startVariableName name => { p with startVariableName := explicitName name }
  | .endVariableName name => { p with endVariableName := explicitName name }
  | .variableName name => { p with variableName := explicitName name }
  | .startSelector entries => { p with startSelector := p.startSelector.union entries }
  | .endSelector entries => { p with endSelector := p.endSelector.union entries }
  | .selector entries => { p with selector := p.selector.union entries }
  | .startFilters entries => { p with startFilters := p.startFilters.union entries }
  | .endFilters entries => { p with endFilters := p.endFilters.union entries }
  | .filters entries => { p with filters := p.filters.union entries }

/-- The pattern after a sequence of settings. -/
def setAll (p : EdgePattern) (settings : List EdgeSetting) : EdgePattern := settings.foldl set p

/-- The settings that a request stands for. -/
def settingsOf (r : EdgeRequest) : List EdgeSetting := [
  .fetchMode r.fetchMode,
  .startLabels r.startLabels,
  .endLabels r.endLabels,
  .label r.label,
  .startSelector r.startSelectors,
  .endSelector r.endSelectors,
  .selector r.selectors,
  .startFilters r.startFilters,
  .endFilters r.endFilters,
  .filters r.filters]

/-- The pattern of a request. -/
def ofRequest (r : EdgeRequest) : EdgePattern := setAll {} (settingsOf r)

/-- Accepts a pattern with one edge label and two named endpoints, no label being empty. -/
def check (p : EdgePattern) : Except GraphError Unit :=
  if p.labels.isEmpty then .error (noLabels .edge)
  else if 1 < p.labels.length then .error multipleEdgeLabels
  else if p.labels.any String.isEmpty then .error (emptyLabel .edge)
  else if p.startLabels.isEmpty && p.startVariableName.isNone then
    .error (unnamedEndpoint .startVertex)
  else if p.endLabels.isEmpty && p.endVariableName.isNone then
    .error (unnamedEndpoint .endVertex)
  else if p.startLabels.any String.isEmpty then .error (emptyLabel .startVertex)
  else if p.endLabels.any String.isEmpty then .error (emptyLabel .endVertex)
  else .ok ()

/-- The variable of the start vertex. -/
def startName (p : EdgePattern) : String := variableFor p.startVariableName p.startLabels []

/-- The variable of the end vertex. -/
def endName (p : EdgePattern) : String := variableFor p.endVariableName p.endLabels [p.startName]

/-- The variable of the relationship. -/
def edgeName (p : EdgePattern) : String :=
  variableFor p.variableName p.labels [p.startName, p.endName]

/-- A vertex inside a pattern. -/
def node (name : String) (labels : List String) (properties : PropertyMap) : String :=
  "(" ++ name ++ labelSuffix labels ++ Query.selector properties ++ ")"

/-- What the query returns. -/
def projection (p : EdgePattern) : String :=
  match p.fetchMode with
  | .vertexIds => "return " ++ p.edgeName
  | .completeVertex => "return " ++ p.startName ++ ", " ++ p.edgeName ++ ", " ++ p.endName

/-- The word that opens the query. -/
def operation (p : EdgePattern) : String :=
  match p.queryMode with
  | .read => "MATCH"
  | .write => "MERGE"

/-- The query text of a pattern that was accepted. -/
def text (p : EdgePattern) : String :=
  let start := node p.startName p.startLabels p.startSelector
  let relationship := p.edgeName ++ labelSuffix p.labels ++ Query.selector p.selector
  let finish := node p.endName p.endLabels p.endSelector
  let clause := whereClause
    [(p.startName, p.startFilters), (p.endName, p.endFilters), (p.edgeName, p.filters)]
  p.operation ++ " " ++ start ++ "-[" ++ relationship ++ "]-" ++ finish ++ " " ++ clause ++ " " ++
    p.projection

/-- The query text of a pattern. -/
def build (p : EdgePattern) : Except GraphError String :=
  match p.check with
  | .error e => .error e
  | .ok () => .ok p.text

end EdgePattern
end PropertyGraph.Query
