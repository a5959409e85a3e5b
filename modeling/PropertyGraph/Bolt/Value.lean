import PropertyGraph.Element
import PropertyGraph.Text.Numeral

/-!
# Bolt values

The values that travel over Bolt, the protocol of Neo4j and Memgraph.  Integers have 64 bits
with a sign.  Nodes and relationships travel one way only, from the database.
-/

namespace PropertyGraph.Bolt

/-- A value on the line. -/
inductive Value
  | null
  | boolean (value : Bool)
  | integer (value : Int)
  | float (value : Binary64)
  | string (value : String)
  | bytes (values : List UInt8)
  | list (items : List Value)
  | map (members : List (String × Value))
  | node (id : Int) (labels : List String) (properties : List (String × Value))
  | relationship (id start finish : Int) (type : String) (properties : List (String × Value))
  deriving Inhabited

namespace Value

/-- Whether an integer has 64 bits with a sign. -/
def isInteger (n : Int) : Bool := decide (Text.int64Min ≤ n ∧ n ≤ Text.int64Max)

/-- A number as a parameter.  An integer that the line has no room for goes as the nearest
floating-point number. -/
def ofInt (n : Int) : Value := if isInteger n then .integer n else .float (Binary64.ofInt n)

mutual
/-- A JSON value as a parameter. -/
def ofJson : Json → Value
  | .null => .null
  | .bool b => .boolean b
  | .integer n => ofInt n
  | .float x => .float x
  | .string s => .string s
  | .array items => .list (ofItems items)
  | .object members => .map (ofMembers members)

/-- JSON values as parameters. -/
def ofItems : List Json → List Value
  | [] => []
  | j :: rest => ofJson j :: ofItems rest

/-- The members of a JSON object as parameters. -/
def ofMembers : List (String × Json) → List (String × Value)
  | [] => []
  | (k, j) :: rest => (k, ofJson j) :: ofMembers rest
end

mutual
/-- A value as JSON.  Of a node or a relationship only the properties remain. -/
def toJson : Value → Json
  | .null => .null
  | .boolean b => .bool b
  | .integer n => .integer n
  | .float x => .float x
  | .string s => .string s
  | .bytes bs => .array (bs.map fun b => .integer b.toNat)
  | .list items => .array (toItems items)
  | .map members => .object (Dict.collect (toMembers members))
  | .node _ _ properties => .object (Dict.collect (toMembers properties))
  | .relationship _ _ _ _ properties => .object (Dict.collect (toMembers properties))

/-- Values as JSON. -/
def toItems : List Value → List Json
  | [] => []
  | v :: rest => toJson v :: toItems rest

/-- Members of a map as JSON. -/
def toMembers : List (String × Value) → List (String × Json)
  | [] => []
  | (k, v) :: rest => (k, toJson v) :: toMembers rest
end

/-- The vertex that a node stands for. -/
def vertex? : Value → Option Vertex
  | .node id labels properties =>
    some { id := some (.ofInt id), labels, properties := Dict.ofList (toMembers properties) }
  | _ => none

/-- The edge that a relationship stands for, with the identifiers of its endpoints. -/
def edge? : Value → Option Edge
  | .relationship id start finish type properties =>
    some {
      id := some (.ofInt id)
      edgeType := type
      sourceId := some (.ofInt start)
      destinationId := some (.ofInt finish)
      properties := Dict.ofList (toMembers properties) }
  | _ => none

end Value
end PropertyGraph.Bolt
