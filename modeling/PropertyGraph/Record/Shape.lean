import PropertyGraph.Error

/-!
# Shapes and tags

The shape of a record type is its name and the names of its fields.  A tag gives a field
another property key.  The tags of a shape are usable when each names a declared field and
no two fields end up under one key.
-/

namespace PropertyGraph

/-- Another property key for a field.  The empty key is no key. -/
structure Tag where
  field : String
  key : String
  deriving DecidableEq, Repr

/-- The key under which a field is stored: its first tag that is not empty, else its name. -/
def propertyKey (tags : List Tag) (field : String) : String :=
  match tags.find? fun t => t.field == field && !t.key.isEmpty with
  | some t => t.key
  | none => field

/-- The name and the fields of a record type, as they are declared. -/
structure Shape where
  name : String
  fields : List String
  deriving DecidableEq, Repr

namespace Shape

/-- Whether the shape declares a field. -/
def hasField (s : Shape) (field : String) : Bool := s.fields.contains field

/-- The first field whose key is taken by a field before it, preceded by that field. -/
def firstClash (key : String → String) (before : List String) :
    List String → Option (String × String)
  | [] => none
  | field :: rest =>
    match before.find? fun owner => key owner == key field with
    | some owner => some (owner, field)
    | none => firstClash key (before ++ [field]) rest

/-- Accepts the tags of a shape.  A tag for an undeclared field is reported before any
shared key. -/
def checkTags (s : Shape) (tags : List Tag) : Except GraphError Unit :=
  match tags.find? fun t => !s.hasField t.field with
  | some t => .error (.unknownField s.name t.field t.key)
  | none =>
    match firstClash (propertyKey tags) [] s.fields with
    | some (first, second) =>
      .error (.duplicateProperty s.name (propertyKey tags second) first second)
    | none => .ok ()

end Shape
end PropertyGraph
