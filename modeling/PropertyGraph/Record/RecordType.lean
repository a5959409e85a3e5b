import PropertyGraph.Json.Value
import PropertyGraph.Record.Shape

/-!
# Record types

A record type tells how values of an application's own type become JSON and are read back
from the fields of an object.  Only types with a shape can be mapped to graph elements; the
mapping itself is the same for all of them.
-/

namespace PropertyGraph

/-- A type of records. -/
structure RecordType (α : Type) where
  /-- How the type is called where it turns out to have no shape. -/
  typeName : String
  /-- The name and the fields, unless the type is no struct. -/
  shape? : Option Shape
  tags : List Tag := []
  /-- Writes a value as JSON, or tells why there is none for it. -/
  encode : α → Except String Json
  /-- Reads a value from the fields of an object, or tells why they do not fit. -/
  decode : Dict Json → Except String α
  /-- The value that decoding starts from where there is no other. -/
  initial : α

/-- Whether an object is stored as a vertex or as a relationship. -/
inductive ObjectKind
  | vertex
  | relationship
  deriving DecidableEq, Repr

/-- The names of the object kinds. -/
def ObjectKind.names : List (String × ObjectKind) :=
  [("vertex", .vertex), ("relationship", .relationship)]

/-- The name of an object kind. -/
def ObjectKind.text : ObjectKind → String
  | .vertex => "vertex"
  | .relationship => "relationship"

/-- The capitalised name of an object kind. -/
def ObjectKind.title : ObjectKind → String
  | .vertex => "Vertex"
  | .relationship => "Relationship"

/-- A type of records that know their label and their kind. -/
structure ObjectType (α : Type) extends RecordType α where
  label : α → String
  kind : α → ObjectKind

end PropertyGraph
