import PropertyGraph.Element
import PropertyGraph.Record.FieldIndex
import PropertyGraph.Record.RecordType

/-!
# Mapping records to elements

The fields of a record become the properties of a vertex or an edge, each under its property
key.  In the other direction the properties are laid over the fields of a record that is
there already, so that what they do not mention stays as it was.
-/

namespace PropertyGraph.RecordType

variable {α : Type} (r : RecordType α)

/-- The shape of the type, with its tags checked. -/
def checkedShape : Except GraphError Shape :=
  match r.shape? with
  | none => .error (.notAStruct r.typeName)
  | some shape =>
    match shape.checkTags r.tags with
    | .error e => .error e
    | .ok () => .ok shape

/-- The fields of a record.  A struct may still encode itself as something else, or not at all. -/
def fieldsOf (shape : Shape) (x : α) : Except GraphError (Dict Json) :=
  match r.encode x with
  | .error reason => .error (.serialization reason)
  | .ok (.object members) => .ok (Dict.ofList members)
  | .ok _ => .error (.notAStruct shape.name)

/-- Fields under their property keys. -/
def keyed (fields : Dict Json) : PropertyMap :=
  Dict.ofList (fields.entries.map fun f => (propertyKey r.tags f.1, f.2))

/-- The properties of a record, and its shape. -/
def toProperties (x : α) : Except GraphError (Shape × PropertyMap) := do
  let shape ← r.checkedShape
  let fields ← r.fieldsOf shape x
  return (shape, r.keyed fields)

/-- The labels that are not empty, or else the name of the type. -/
def vertexLabels (labels : List String) (typeName : String) : List String :=
  match labels.filter fun l => !l.isEmpty with
  | [] => [typeName]
  | explicit => explicit

/-- The label, unless it is missing or empty, or else the name of the type. -/
def edgeLabel (label : Option String) (typeName : String) : String :=
  match label with
  | some l => if l.isEmpty then typeName else l
  | none => typeName

/-- A record as a vertex. -/
def toVertex (x : α) (labels : List String) : Except GraphError Vertex := do
  let (shape, properties) ← r.toProperties x
  return { labels := vertexLabels labels shape.name, properties }

/-- A record as an edge. -/
def toEdge (x : α) (label : Option String) : Except GraphError Edge := do
  let (shape, properties) ← r.toProperties x
  return { edgeType := edgeLabel label shape.name, properties }

/-- Lays property entries over fields, one after the other. -/
def overlay (index : FieldIndex) (fields : Dict Json) :
    List (String × Json) → Except GraphError (Dict Json)
  | [] => .ok fields
  | (key, value) :: rest =>
    match index.resolve key with
    | none => .error (.unknownProperty key)
    | some field => overlay index (fields.insert field value) rest

/-- Reads property entries, in the given order, over a record. -/
def fromEntries (entries : List (String × Json)) (x : α) : Except GraphError α := do
  let shape ← r.checkedShape
  let fields ← r.fieldsOf shape x
  let merged ← overlay (FieldIndex.ofShape shape r.tags) fields entries
  match r.decode merged with
  | .ok y => .ok y
  | .error reason => .error (.decode shape.name reason)

/-- Reads properties over a record. -/
def fromProperties (properties : PropertyMap) (x : α) : Except GraphError α :=
  r.fromEntries properties.entries x

/-- Reads the properties of a vertex over a record.  Its labels play no part. -/
def fromVertex (v : Vertex) (x : α) : Except GraphError α := r.fromProperties v.properties x

/-- Reads the properties of an edge over a record.  Its type plays no part. -/
def fromEdge (e : Edge) (x : α) : Except GraphError α := r.fromProperties e.properties x

end PropertyGraph.RecordType
