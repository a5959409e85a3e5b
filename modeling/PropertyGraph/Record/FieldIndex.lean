import PropertyGraph.Dict
import PropertyGraph.Record.Shape
import PropertyGraph.Text.Case

/-!
# From property keys to fields

A property key finds its field by the exact name, by the name in one case throughout, by a
tag, or by a name that agrees with it when case is ignored, in this order.
-/

namespace PropertyGraph

/-- Fields by name and by tag. -/
structure FieldIndex where
  byName : Dict String
  byTag : Dict String

namespace FieldIndex

/-- Adds a field under its name and, where these are free, under its name in upper and in
lower case. -/
def addName (names : Dict String) (field : String) : Dict String :=
  ((names.insert field field).insertIfNew (Text.upper field) field).insertIfNew
    (Text.lower field) field

/-- The index of the fields of a shape.  Of tags with one key the last counts. -/
def ofShape (shape : Shape) (tags : List Tag) : FieldIndex where
  byName := shape.fields.foldl addName ∅
  byTag := Dict.ofList
    ((tags.filter fun t => !t.key.isEmpty).map fun t => (t.key, t.field))

/-- The field of a property key. -/
def resolve (index : FieldIndex) (key : String) : Option String :=
  (index.byName.get? key <|> index.byTag.get? key) <|> index.byName.get? (Text.lower key)

end FieldIndex
end PropertyGraph
