import PropertyGraph.Json.Text
import PropertyGraph.Text.Quoted

/-!
# Why a value does not fit

The wording for values that are not of the type they should have: what was found, and what
was expected instead.
-/

namespace PropertyGraph.Expectation

/-- What a value is, for a reader. -/
def describe : Json → String
  | .null => "null"
  | .bool b => "boolean `" ++ (if b then "true" else "false") ++ "`"
  | .integer n => "integer `" ++ toString n ++ "`"
  | .float x => "floating point `" ++ Json.floatStyle.text x ++ "`"
  | .string s => "string " ++ Text.quoted s
  | .array _ => "sequence"
  | .object _ => "map"

/-- The value is of another type. -/
def invalidType (found : Json) (expected : String) : String :=
  "invalid type: " ++ describe found ++ ", expected " ++ expected

/-- The value is of the right type but not one of its values. -/
def invalidValue (found : Json) (expected : String) : String :=
  "invalid value: " ++ describe found ++ ", expected " ++ expected

/-- There are too few or too many items. -/
def invalidLength (length : Nat) (expected : String) : String :=
  "invalid length " ++ toString length ++ ", expected " ++ expected

/-- An array that goes on after its last expected item. -/
def tooLong (length : Nat) : String := invalidLength length "fewer elements in array"

/-- A field without a value. -/
def missingField (name : String) : String := "missing field `" ++ name ++ "`"

/-- Names to choose from. -/
def oneOf : List String → String
  | [] => "nothing"
  | [a] => "`" ++ a ++ "`"
  | [a, b] => "`" ++ a ++ "` or `" ++ b ++ "`"
  | names => "one of " ++ String.intercalate ", " (names.map fun n => "`" ++ n ++ "`")

/-- A name that is none of the choices. -/
def unknownVariant (name : String) : List String → String
  | [] => "unknown variant `" ++ name ++ "`, there are no variants"
  | names => "unknown variant `" ++ name ++ "`, expected " ++ oneOf names

/-- A field that is none of the declared ones. -/
def unknownField (name : String) : List String → String
  | [] => "unknown field `" ++ name ++ "`, there are no fields"
  | names => "unknown field `" ++ name ++ "`, expected " ++ oneOf names

end PropertyGraph.Expectation
