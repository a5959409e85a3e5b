import PropertyGraph.Json.Document

/-!
# Typed reading

Structs, choices, lists and maps are read from a `Source`: something that can be looked at
as a text, a number, a list or a mapping.  JSON values and JSON documents are sources, and so
is any other format that can answer the same questions.  A `ValueSource` can in addition be
looked at as a JSON value, which properties are.

A struct is read from a mapping, in which unknown names are ignored and a declared name may
not repeat, or from a list of its fields in order.
-/

namespace PropertyGraph

/-- What the fields of a struct are read from. -/
inductive Fields (τ : Type)
  | named (members : List (String × τ))
  | positional (items : List τ)

/-- One field of a struct that is being read: present, not named by a mapping, or beyond the
end of a list. -/
inductive Part (τ : Type)
  | given (source : τ)
  | absent
  | beyond

/-- The questions that typed reading asks. -/
structure Source (τ : Type) where
  /-- Whether there is no value, if that can be told. -/
  null? : τ → Option Bool
  /-- The text, if it is one. -/
  text? : τ → Option String
  /-- The natural number of at most so many bits, if it is one. -/
  natural? : Nat → τ → Option Nat
  /-- The items of a list. -/
  items? : τ → Option (List τ)
  /-- The members of a mapping, in order. -/
  members? : τ → Option (List (String × τ))
  /-- The fields of a struct. -/
  fields? : τ → Option (Fields τ)
  /-- The name of a choice that carries nothing. -/
  choice? : τ → Option String

/-- A source that can also be taken as a whole. -/
structure ValueSource (τ : Type) extends Source τ where
  /-- The whole as a JSON value. -/
  value? : τ → Option Json

namespace Source

variable {τ α : Type} (src : Source τ)

/-- Accepts fields of which none is given twice and none lies beyond the declared ones. -/
def fits (names : List String) : Fields τ → Bool
  | .named members => names.all fun n => decide ((members.filter fun m => m.1 == n).length ≤ 1)
  | .positional items => decide (items.length ≤ names.length)

/-- The field of a name. -/
def partOf (names : List String) (fields : Fields τ) (name : String) : Part τ :=
  match fields with
  | .named members =>
    match members.lookup name with
    | some t => .given t
    | none => .absent
  | .positional items =>
    match items[names.idxOf name]? with
    | some t => .given t
    | none => .beyond

/-- The fields of a struct with the given names. -/
def struct? (names : List String) (t : τ) : Option (String → Part τ) :=
  match src.fields? t with
  | some fields => if fits names fields then some (partOf names fields) else none
  | none => none

/-- A field that has to be present. -/
def required? (read : τ → Option α) : Part τ → Option α
  | .given t => read t
  | _ => none

/-- A value that may be null. -/
def nullable? (read : τ → Option α) (t : τ) : Option (Option α) :=
  match src.null? t with
  | some true => some none
  | some false => (read t).map some
  | none => none

/-- A field that may be null or missing from a mapping. -/
def optional? (read : τ → Option α) : Part τ → Option (Option α)
  | .given t => src.nullable? read t
  | .absent => some none
  | .beyond => none

/-- A field that has a default wherever it is missing. -/
def defaulted? (value : α) (read : τ → Option α) : Part τ → Option α
  | .given t => read t
  | _ => some value

/-- A list of texts. -/
def texts? (t : τ) : Option (List String) := (src.items? t).bind fun ts => ts.mapM src.text?

/-- A map; of members with one key the last counts. -/
def dict? (read : τ → Option α) (t : τ) : Option (Dict α) := do
  let members ← src.members? t
  let entries ← members.mapM fun m => (read m.2).map fun v => (m.1, v)
  some (Dict.ofList entries)

/-- One of the named choices. -/
def oneOf? (choices : List (String × α)) (t : τ) : Option α :=
  (src.choice? t).bind fun name => choices.lookup name

end Source

/-- A property map. -/
def ValueSource.properties? {τ : Type} (src : ValueSource τ) (t : τ) : Option PropertyMap :=
  src.dict? src.value? t

/-- A natural number of at most so many bits. -/
def boundedNatural? (bits : Nat) (n : Int) : Option Nat :=
  if 0 ≤ n ∧ n < Nat.pow 2 bits then some n.toNat else none

namespace Json

/-- Values as a source. -/
def source : ValueSource Json where
  null? j := some j.isNull
  text?
    | .string s => some s
    | _ => none
  natural? bits
    | .integer n => boundedNatural? bits n
    | _ => none
  items?
    | .array items => some items
    | _ => none
  members?
    | .object members => some members
    | _ => none
  fields?
    | .object members => some (.named members)
    | .array items => some (.positional items)
    | _ => none
  choice?
    | .string s => some s
    | .object [(name, .null)] => some name
    | _ => none
  value? := some

/-- The object of the fields that are present. -/
def struct (fields : List (String × Option Json)) : Json :=
  .object (Dict.collect (fields.filterMap fun f => f.2.map fun v => (f.1, v)))

/-- A list of texts as an array. -/
def texts (ss : List String) : Json := .array (ss.map .string)

end Json

/-- A document and the levels of nesting it may still have. -/
structure Nested where
  room : Nat
  document : Document

namespace Nested

/-- The items of an array, one level further in. -/
def items? (t : Nested) : Option (List Nested) :=
  match t.document, t.room with
  | .array items, room + 1 => some (items.map fun d => ⟨room, d⟩)
  | _, _ => none

/-- The members of an object, one level further in; each key has to be readable. -/
def members? (t : Nested) : Option (List (String × Nested)) :=
  match t.document, t.room with
  | .object members, room + 1 => members.mapM fun m => m.1.map fun k => (k, ⟨room, m.2⟩)
  | _, _ => none

/-- Documents as a source.  A level of nesting that there is no room for, or an escape without
a character, is refused where it is looked at and nowhere else. -/
def source : ValueSource Nested where
  null? t :=
    match t.document with
    | .null => some true
    | _ => some false
  text? t :=
    match t.document with
    | .string s => s
    | _ => none
  natural? bits t :=
    match t.document with
    | .number n =>
      match n.value? with
      | some (.integer n) => boundedNatural? bits n
      | _ => none
    | _ => none
  items? := items?
  members? := members?
  fields? t :=
    match t.document with
    | .array _ => t.items?.map .positional
    | _ => t.members?.map .named
  choice? t :=
    match t.document with
    | .string s => s
    | .object [(name, .null)] => if t.room = 0 then none else name
    | _ => none
  value? t := t.document.valueWithin? t.room

end Nested
end PropertyGraph
