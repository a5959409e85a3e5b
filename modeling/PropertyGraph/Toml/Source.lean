import PropertyGraph.Json.Source
import PropertyGraph.Toml.Document

/-!
# TOML as a source

What typed reading finds in a TOML value.  TOML has no null.  A date or a time counts as a
table with one member of a reserved name.
-/

namespace PropertyGraph.Toml.Value

/-- The member that holds a date or a time. -/
def momentKey : String := "$__toml_private_datetime"

/-- The members of a table. -/
def members? : Value → Option (List (String × Value))
  | .table members => some members
  | .moment s => some [(momentKey, .text s)]
  | _ => none

/-- Whether a value is an empty array or table. -/
def isHollow : Value → Bool
  | .array [] | .table [] => true
  | _ => false

/-- Values as a source.  A choice is named by a text, or by the one key of a table under which
nothing is kept. -/
def source : Source Value where
  null? _ := some false
  text?
    | .text s => some s
    | _ => none
  natural? bits
    | .integer n => boundedNatural? bits n
    | _ => none
  items?
    | .array items => some items
    | _ => none
  members? := members?
  fields?
    | .array items => some (.positional items)
    | v => v.members?.map .named
  choice?
    | .text s => some s
    | .table [(name, v)] => if v.isHollow then some name else none
    | _ => none

end PropertyGraph.Toml.Value
