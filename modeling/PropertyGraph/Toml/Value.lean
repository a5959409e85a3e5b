/-!
# TOML values

The values that a TOML document is made of.  Floating-point numbers are kept as they are
written, because no setting is one.
-/

namespace PropertyGraph.Toml

/-- A TOML value. -/
inductive Value
  | text (value : String)
  | integer (value : Int)
  | float (written : String)
  | boolean (value : Bool)
  /-- A date, a time or both. -/
  | moment (written : String)
  | array (items : List Value)
  | table (members : List (String × Value))
  deriving Inhabited

/-- How deep arrays and inline tables may nest, and how many parts a dotted key may have. -/
def maxDepth : Nat := 79

end PropertyGraph.Toml
