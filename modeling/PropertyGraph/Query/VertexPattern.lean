import PropertyGraph.Query.Request
import PropertyGraph.Query.Fragment
import PropertyGraph.Query.Variable
import PropertyGraph.Query.Refusal

/-!
# Patterns of one vertex

A `VertexPattern` is filled by settings and then written as one query: `MATCH` for reading,
`MERGE` or `CREATE` for writing.  Selectors and filters add up over the settings.
-/

namespace PropertyGraph.Query

/-- A vertex with the labels and properties to match or to write. -/
structure VertexPattern where
  queryMode : QueryMode := .read
  labels : List String := []
  variableName : Option String := none
  selector : PropertyMap := ∅
  filters : PropertyMap := ∅
  writeMode : WriteMode := .merge

/-- One setting of a vertex pattern. -/
inductive VertexSetting
  | queryMode (mode : QueryMode)
  | writeMode (mode : WriteMode)
  /-- Replaces the labels. -/
  | labels (labels : List String)
  /-- Appends a label. -/
  | label (label : String)
  /-- Names the variable; the empty name lets it be derived again. -/
  | variableName (name : String)
  | selector (entries : PropertyMap)
  | filters (entries : PropertyMap)

namespace VertexPattern

/-- The pattern after one setting. -/
def set (p : VertexPattern) : VertexSetting → VertexPattern
  | .queryMode mode => { p with queryMode := mode }
  | .writeMode mode => { p with writeMode := mode }
  | .labels labels => { p with labels := labels }
  | .label label => { p with labels := p.labels ++ [label] }
  | .variableName name => { p with variableName := explicitName name }
  | .selector entries => { p with selector := p.selector.union entries }
  | .filters entries => { p with filters := p.filters.union entries }

/-- The pattern that a sequence of settings makes. -/
def ofSettings (settings : List VertexSetting) : VertexPattern := settings.foldl set {}

/-- The word that opens the query. -/
def operation (p : VertexPattern) : String :=
  match p.queryMode, p.writeMode with
  | .read, _ => "MATCH"
  | .write, .merge => "MERGE"
  | .write, .create => "CREATE"

/-- Accepts a pattern with at least one label, none of them empty. -/
def check (p : VertexPattern) : Except GraphError Unit :=
  if p.labels.isEmpty then .error (noLabels .vertex)
  else if p.labels.any String.isEmpty then .error (emptyLabel .vertex)
  else .ok ()

/-- The query text of a pattern that was accepted. -/
def text (p : VertexPattern) : String :=
  let name := variableFor p.variableName p.labels []
  p.operation ++ " (" ++ name ++ labelSuffix p.labels ++ Query.selector p.selector ++ ") " ++
    whereClause [(name, p.filters)] ++ " return " ++ name

/-- The query text of a pattern. -/
def build (p : VertexPattern) : Except GraphError String :=
  match p.check with
  | .error e => .error e
  | .ok () => .ok p.text

end VertexPattern
end PropertyGraph.Query
