import PropertyGraph.Record.FieldType
import PropertyGraph.Record.RecordType

/-!
# Schemas

A schema describes a record type by its fields.  Its records are objects in normal form, so
any schema is a record type without further code.
-/

namespace PropertyGraph

/-- When a field is written. -/
inductive Shown
  | always
  | unlessNull
  | never
  deriving DecidableEq, Repr

/-- One field of a schema. -/
structure Field where
  name : String
  type : FieldType
  /-- The value of the field where it is missing, unless it has to be present. -/
  default? : Option Json := none
  shown : Shown := .always

/-- The description of a record type. -/
structure Schema where
  name : String
  fields : List Field
  tags : List Tag := []
  /-- Whether undeclared fields are refused. -/
  strict : Bool := false

namespace Field

/-- How the field is read. -/
def reader (f : Field) : FieldReader where
  name := f.name
  read := f.type.read
  unmentioned := f.default? <|> f.type.unmentioned
  beyond := f.default?

/-- Whether a value of the field is written. -/
def isShown (f : Field) (v : Json) : Bool :=
  match f.shown with
  | .always => true
  | .unlessNull => !v.isNull
  | .never => false

end Field

namespace Schema

/-- Reads a record. -/
def read (s : Schema) (v : Json) : Except String Json :=
  FieldReader.readStruct s.name s.strict (s.fields.map Field.reader) v

/-- The fields of a record that are written. -/
def encode (s : Schema) (record : Json) : Json :=
  match record with
  | .object members =>
    .object (members.filter fun m =>
      match s.fields.find? (·.name == m.1) with
      | some f => f.isShown m.2
      | none => false)
  | v => v

/-- The record with the least informative value in every field. -/
def initial (s : Schema) : Json :=
  .object (Dict.collect (s.fields.map fun f => (f.name, f.default?.getD f.type.initial)))

/-- The record type of a schema. -/
def recordType (s : Schema) : RecordType Json where
  typeName := s.name
  shape? := some ⟨s.name, s.fields.map (·.name)⟩
  tags := s.tags
  encode record := .ok (s.encode record)
  decode fields := s.read (Json.ofDict fields)
  initial := s.initial

end Schema
end PropertyGraph
