import PropertyGraph.Json.Text

/-!
# Fragments of query text

Property maps inside a query: as a selector in the braces of a pattern, or as conjuncts of
a `WHERE` clause.  Text values stand in single quotes, all other values are their JSON text.
What is written are entries, in the order in which they are listed; a map lists its own in
ascending key order.
-/

namespace PropertyGraph.Query

/-- How one character is written inside single quotes. -/
def escapeChar (c : Char) : List Char :=
  if c = '\\' then ['\\', '\\'] else if c = '\'' then ['\\', '\''] else [c]

/-- A text as it is written inside single quotes. -/
def escape (s : String) : String := String.ofList (s.toList.flatMap escapeChar)

/-- A text in single quotes. -/
def literal (s : String) : String := "'" ++ escape s ++ "'"

/-- One entry of a selector. -/
def selectorEntry (key : String) : Json → String
  | .string s => key ++ ":" ++ literal s
  | v => key ++ ": " ++ v.text

/-- Entries as the selector of a pattern; nothing where there are none. -/
def selectorOf (entries : List (String × Json)) : String :=
  if entries.isEmpty then ""
  else
    "\x7b" ++ String.intercalate "," (entries.map fun e => selectorEntry e.1 e.2) ++ "\x7d"

/-- A property map as the selector of a pattern. -/
def selector (properties : PropertyMap) : String := selectorOf properties.entries

/-- One conjunct: a property of a variable and the value it has to have. -/
def conjunct (name key : String) : Json → String
  | .string s => name ++ "." ++ key ++ "=" ++ literal s
  | v => name ++ "." ++ key ++ "=" ++ v.text

/-- The conjuncts for the filters of one variable. -/
def conjuncts (name : String) (filters : List (String × Json)) : List String :=
  filters.map fun e => conjunct name e.1 e.2

/-- The filters of one variable, joined by `AND`. -/
def predicateOf (name : String) (filters : List (String × Json)) : String :=
  String.intercalate " AND " (conjuncts name filters)

/-- A property map as the filters of one variable. -/
def predicate (name : String) (filters : PropertyMap) : String := predicateOf name filters.entries

/-- A variable and the filters for it, as they are listed. -/
abbrev Group := String × List (String × Json)

/-- The filters of several variables as one clause; groups without filters are left out, and
without any filter there is no clause. -/
def whereClauseOf (groups : List Group) : String :=
  match (groups.filter fun g => !g.2.isEmpty).map fun g => predicateOf g.1 g.2 with
  | [] => ""
  | predicates => " WHERE " ++ String.intercalate " AND " predicates

/-- The property maps of several variables as one clause. -/
def whereClause (groups : List (String × PropertyMap)) : String :=
  whereClauseOf (groups.map fun g => (g.1, g.2.entries))

/-- Labels as they follow a variable in a pattern. -/
def labelSuffix (labels : List String) : String := String.join (labels.map fun l => ":" ++ l)

end PropertyGraph.Query
