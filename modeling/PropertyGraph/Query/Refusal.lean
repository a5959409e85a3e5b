import PropertyGraph.Error

/-!
# Refused requests

The reasons for which a pattern is refused before any query text is written.
-/

namespace PropertyGraph.Query

/-- A site of a pattern that carries labels. -/
inductive Site
  | vertex
  | edge
  | startVertex
  | endVertex
  deriving DecidableEq, Repr

/-- How a site is named in messages. -/
def Site.text : Site → String
  | .vertex => "vertex"
  | .edge => "edge"
  | .startVertex => "start vertex"
  | .endVertex => "end vertex"

/-- A label of the site is empty. -/
def emptyLabel (site : Site) : GraphError :=
  .validation .missingLabel ("empty " ++ site.text ++ " label specified in the query")

/-- The site needs a label and has none. -/
def noLabels (site : Site) : GraphError :=
  .validation .missingLabel ("no " ++ site.text ++ " labels specified in the query")

/-- A relationship has exactly one type. -/
def multipleEdgeLabels : GraphError :=
  .validation .multipleEdgeLabels "multiple edge labels cannot be specified"

/-- An endpoint is named neither by labels nor by a variable. -/
def unnamedEndpoint (site : Site) : GraphError :=
  .validation .missingEndpoint
    ("either " ++ site.text ++ " label or " ++ site.text ++ " variable name must be specified")

end PropertyGraph.Query
