import PropertyGraph.Toml.Value

/-!
# Tables of a TOML document

A document fills its tables bit by bit, and may do so only in certain ways.  What is written
as a value is closed.  A table that a dotted key brings about can only be filled by dotted
keys of the same table, one that a header only passes through can be opened by a header of its
own once, and an array of tables is filled through its last table.
-/

namespace PropertyGraph.Toml

/-- What a key of a table that is being filled stands for. -/
inductive Entry
  | value (v : Value)
  /-- A table: whether it has been brought about by what lies in it, and whether by a dotted
  key. -/
  | table (implied dotted : Bool) (entries : List (String × Entry))
  /-- An array of tables, each opened by a header. -/
  | tables (items : List (List (String × Entry)))
  deriving Inhabited

/-- A table that is being filled. -/
abbrev Entries := List (String × Entry)

namespace Entries

/-- The table with the entry of a key set. -/
def put (key : String) (e : Entry) (es : Entries) : Entries :=
  if (es.lookup key).isSome then es.map fun p => if p.1 == key then (key, e) else p
  else es ++ [(key, e)]

/-- Changes the table at a path.  Tables that are missing on the way are brought about.  The
change is told whether the table is one of a dotted key. -/
def change (dotted : Bool) (f : Bool → Entries → Option Entries) (here : Bool) :
    List String → Entries → Option Entries
  | [], es => f here es
  | key :: path, es =>
    match es.lookup key with
    | none => (change dotted f dotted path []).map fun sub => es.put key (.table true dotted sub)
    | some (.value _) => none
    | some (.table implied dot sub) =>
      -- A table with a header of its own is not filled by the dotted keys of another.
      if dotted && !implied then none
      else (change dotted f dot path sub).map fun sub => es.put key (.table implied dot sub)
    | some (.tables items) =>
      match items.getLast? with
      | none => none
      | some last =>
        (change dotted f false path last).map fun last =>
          es.put key (.tables (items.dropLast ++ [last]))

/-- Gives a value to a key, which must not have one yet.  `dotted` tells whether the table is
one of a dotted key, which it has to be exactly if the key has further parts. -/
def define (key : String) (v : Value) (viaPath dotted : Bool) (es : Entries) : Option Entries :=
  if dotted = viaPath ∧ (es.lookup key).isNone then some (es.put key (.value v)) else none

/-- Gives a value to a dotted key. -/
def set (path : List String) (v : Value) (es : Entries) : Option Entries :=
  match path.getLast? with
  | none => none
  | some key =>
    let path := path.dropLast
    es.change true (define key v !path.isEmpty) false path

/-- Opens the table of a header. -/
def openTable (path : List String) (es : Entries) : Option Entries :=
  match path.getLast? with
  | none => none
  | some key =>
    es.change false (fun _ es =>
      match es.lookup key with
      | none => some (es.put key (.table false false []))
      | some (.table true false sub) => some (es.put key (.table false false sub))
      | some _ => none) false path.dropLast

/-- Opens one more table of an array. -/
def openItem (path : List String) (es : Entries) : Option Entries :=
  match path.getLast? with
  | none => none
  | some key =>
    es.change false (fun _ es =>
      match es.lookup key with
      | none => some (es.put key (.tables [[]]))
      | some (.tables items) => some (es.put key (.tables (items ++ [[]])))
      | some _ => none) false path.dropLast

/-- Gives a value to a dotted key of the table that the header at `header` has opened. -/
def setWithin (header path : List String) (v : Value) (es : Entries) : Option Entries :=
  es.change false (fun _ es => es.set path v) false header

end Entries

mutual
/-- The value of an entry. -/
def Entry.toValue : Entry → Value
  | .value v => v
  | .table _ _ es => .table (Entry.toMembers es)
  | .tables items => .array (Entry.toItems items)

/-- The members of a table. -/
def Entry.toMembers : List (String × Entry) → List (String × Value)
  | [] => []
  | (key, e) :: rest => (key, e.toValue) :: Entry.toMembers rest

/-- The tables of an array. -/
def Entry.toItems : List (List (String × Entry)) → List Value
  | [] => []
  | es :: rest => .table (Entry.toMembers es) :: Entry.toItems rest
end

end PropertyGraph.Toml
