import PropertyGraph.Text.Case

/-!
# Variables of a pattern

Each site of a pattern is bound to a variable.  A name given explicitly is used as it is; a
name derived from a label avoids the names bound before it.
-/

namespace PropertyGraph.Query

/-- The name derived from a label: its first two characters in lower case. -/
def derivedName (label : String) : String := Text.lower (String.ofList (label.toList.take 2))

/-- The name derived from the first label of a site. -/
def baseName (labels : List String) : String := (labels.head?.map derivedName).getD ""

/-- A derived name that is not bound yet: the base itself, or the base with the smallest
positive number that makes it new.  One of the first `bound.length + 1` numbers does, since
fewer names are bound. -/
def freshName (base : String) (bound : List String) : String :=
  if bound.contains base then
    let numbered := (List.range (bound.length + 1)).map fun n => base ++ toString (n + 1)
    (numbered.find? fun name => !bound.contains name).getD base
  else base

/-- The variable of a site. -/
def variableFor (explicit : Option String) (labels bound : List String) : String :=
  match explicit with
  | some name => name
  | none => freshName (baseName labels) bound

/-- An explicit name; the empty name is none. -/
def explicitName (name : String) : Option String := if name.isEmpty then none else some name

end PropertyGraph.Query
