import PropertyGraph.Dict
import PropertyGraph.Record.Expectation

/-!
# Types of fields

A field type says which JSON values a field can hold.  Reading a value brings it into a
normal form, in which floating-point numbers are floats and structs are objects with all of
their fields, or explains why it does not fit.
-/

namespace PropertyGraph

/-- The type of a field. -/
inductive FieldType
  | bool
  | integer (signed : Bool) (bits : Nat)
  | float
  | char
  | text
  /-- Any value. -/
  | any
  /-- A value or null. -/
  | option (type : FieldType)
  | list (type : FieldType)
  | map (type : FieldType)
  | tuple (types : List FieldType)
  /-- One of several names. -/
  | choice (names : List String)
  | struct (name : String) (fields : List (String × FieldType))
  deriving Inhabited

/-- How one field of a struct is read. -/
structure FieldReader where
  name : String
  read : Json → Except String Json
  /-- The value of a field that an object does not mention. -/
  unmentioned : Option Json
  /-- The value of a field beyond the end of an array. -/
  beyond : Option Json

namespace FieldReader

/-- The values that an object has for the fields.  The first field without one is reported. -/
def fromMembers (members : List (String × Json)) :
    List FieldReader → Except String (List (String × Json))
  | [] => .ok []
  | f :: rest =>
    match members.lookup f.name, f.unmentioned with
    | some v, _ => do
      let v ← f.read v
      let vs ← fromMembers members rest
      return (f.name, v) :: vs
    | none, some v => do
      let vs ← fromMembers members rest
      return (f.name, v) :: vs
    | none, none => .error (Expectation.missingField f.name)

/-- Accepts the members of an object one by one, in their order. -/
def checkMembers (fields : List FieldReader) (strict : Bool) :
    List (String × Json) → Except String Unit
  | [] => .ok ()
  | (key, v) :: rest =>
    match fields.find? (·.name == key) with
    | some f =>
      match f.read v with
      | .ok _ => checkMembers fields strict rest
      | .error e => .error e
    | none =>
      if strict then .error (Expectation.unknownField key (fields.map (·.name)))
      else checkMembers fields strict rest

/-- The values that an array has for the fields, in order. -/
def fromItems (expected : String) (index : Nat) :
    List FieldReader → List Json → Except String (List (String × Json))
  | [], [] => .ok []
  | [], extra => .error (Expectation.tooLong (index + extra.length))
  | f :: rest, [] =>
    match f.beyond with
    | some v => do
      let vs ← fromItems expected (index + 1) rest []
      return (f.name, v) :: vs
    | none => .error (Expectation.invalidLength index expected)
  | f :: rest, v :: more => do
    let v ← f.read v
    let vs ← fromItems expected (index + 1) rest more
    return (f.name, v) :: vs

/-- The number of elements that a struct is written with. -/
def elements (n : Nat) : String :=
  toString n ++ (if n = 1 then " element" else " elements")

/-- Reads a struct from an object, where faults of members come before missing fields, or
from an array of its fields. -/
def readStruct (name : String) (strict : Bool) (fields : List FieldReader) :
    Json → Except String Json
  | .object members => do
    -- A member that does not fit is reported before a field that is missing.
    checkMembers fields strict members
    let vs ← fromMembers members fields
    return .object (Dict.collect vs)
  | .array items => do
    let expected := "struct " ++ name ++ " with " ++ elements fields.length
    let vs ← fromItems expected 0 fields items
    return .object (Dict.collect vs)
  | v => .error (Expectation.invalidType v ("struct " ++ name))

end FieldReader

namespace FieldType

/-- The name of an integer type. -/
def integerName (signed : Bool) (bits : Nat) : String :=
  (if signed then "i" else "u") ++ toString bits

/-- Whether a number is a value of an integer type. -/
def inRange (signed : Bool) (bits : Nat) (n : Int) : Bool :=
  let bound : Int := Nat.pow 2 (if signed then bits - 1 else bits)
  decide ((if signed then -bound else 0) ≤ n ∧ n < bound)

/-- Reads one of several names, given as a text or as an object with the name as its only
key and null as its value. -/
def readChoice (names : List String) : Json → Except String Json
  | .string s =>
    if names.contains s then .ok (.string s) else .error (Expectation.unknownVariant s names)
  | .object [(name, content)] =>
    if names.contains name then
      match content with
      | .null => .ok (.string name)
      | v => .error (Expectation.invalidType v "unit")
    else .error (Expectation.unknownVariant name names)
  | .object members =>
    .error (Expectation.invalidValue (.object members) "map with a single key")
  | v => .error (Expectation.invalidType v "string or map")

/-- The value of a field that is missing, which only an optional field can be. -/
def unmentioned : FieldType → Option Json
  | .option _ => some .null
  | _ => none

mutual
/-- Reads a value of a type, in normal form. -/
def read : FieldType → Json → Except String Json
  | .bool, v =>
    match v with
    | .bool b => .ok (.bool b)
    | v => .error (Expectation.invalidType v "a boolean")
  | .integer signed bits, v =>
    match v with
    | .integer n =>
      if inRange signed bits n then .ok (.integer n)
      else .error (Expectation.invalidValue v (integerName signed bits))
    | v => .error (Expectation.invalidType v (integerName signed bits))
  | .float, v =>
    match v with
    | .float x => .ok (.float x)
    | .integer n => .ok (.float (Binary64.ofInt n))
    | v => .error (Expectation.invalidType v "f64")
  | .char, v =>
    match v with
    | .string s =>
      if s.length = 1 then .ok (.string s)
      else .error (Expectation.invalidValue v "a character")
    | v => .error (Expectation.invalidType v "a character")
  | .text, v =>
    match v with
    | .string s => .ok (.string s)
    | v => .error (Expectation.invalidType v "a string")
  | .any, v => .ok v
  | .option type, v =>
    match v with
    | .null => .ok .null
    | v => type.read v
  | .list type, v =>
    match v with
    | .array items => return .array (← items.mapM fun item => type.read item)
    | v => .error (Expectation.invalidType v "a sequence")
  | .map type, v =>
    match v with
    | .object members =>
      return .object (Dict.collect (← members.mapM fun m => return (m.1, ← type.read m.2)))
    | v => .error (Expectation.invalidType v "a map")
  | .tuple types, v =>
    let expected := "a tuple of size " ++ toString types.length
    match v with
    | .array items => return .array (← readItems expected 0 types items)
    | v => .error (Expectation.invalidType v expected)
  | .choice names, v => readChoice names v
  | .struct name fields, v => FieldReader.readStruct name false (readers fields) v

/-- Reads the items of a tuple. -/
def readItems (expected : String) (index : Nat) :
    List FieldType → List Json → Except String (List Json)
  | [], [] => .ok []
  | [], extra => .error (Expectation.tooLong (index + extra.length))
  | _ :: _, [] => .error (Expectation.invalidLength index expected)
  | type :: rest, v :: more => do
    let v ← type.read v
    let vs ← readItems expected (index + 1) rest more
    return v :: vs

/-- The readers of the fields of a struct. -/
def readers : List (String × FieldType) → List FieldReader
  | [] => []
  | (name, type) :: rest =>
    { name, read := type.read, unmentioned := type.unmentioned, beyond := none } :: readers rest
end

mutual
/-- The least informative value of a type: zero, nothing, or the first choice. -/
def initial : FieldType → Json
  | .bool => .bool false
  | .integer .. => .integer 0
  | .float => .float (Binary64.zero false)
  | .char => .string "\x00"
  | .text => .string ""
  | .any | .option _ => .null
  | .list _ => .array []
  | .map _ => .object []
  | .tuple types => .array (initials types)
  | .choice names => .string (names.headD "")
  | .struct _ fields => .object (Dict.collect (initialMembers fields))

/-- The least informative values of several types. -/
def initials : List FieldType → List Json
  | [] => []
  | type :: rest => type.initial :: initials rest

/-- The least informative values of fields. -/
def initialMembers : List (String × FieldType) → List (String × Json)
  | [] => []
  | (name, type) :: rest => (name, type.initial) :: initialMembers rest
end

end FieldType
end PropertyGraph
