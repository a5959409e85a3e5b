import PropertyGraph.Element.Codec
import PropertyGraph.Error
import PropertyGraph.Text.Blank
import PropertyGraph.Text.Digit

/-!
# The text of AgensGraph elements

AgensGraph writes a vertex as `person[3.1]{"name": "Tom"}` and an edge as
`knows[4.1][3.1,3.2]{"since": 1990}`: a label, the identifiers in brackets, and the
properties as a JSON object.  A label holds no bracket, so there is one way to take a text
apart.  Blanks around the whole are ignored, blanks between the parts are not allowed.
-/

namespace PropertyGraph.Agens

/-- Whether a character is a square bracket. -/
def isBracket (c : Char) : Bool := c == '[' || c == ']'

/-- A label: everything up to the first bracket, which is not empty. -/
def label? (cs : List Char) : Option (String × List Char) :=
  match cs.takeWhile (!isBracket ·) with
  | [] => none
  | label => some (String.ofList label, cs.dropWhile (!isBracket ·))

/-- What stands in the brackets at the start of a text. -/
def bracketed? : List Char → Option (List Char × List Char)
  | '[' :: rest =>
    match rest.dropWhile (!isBracket ·) with
    | ']' :: after => some (rest.takeWhile (!isBracket ·), after)
    | _ => none
  | _ => none

/-- Whether a text is a non-empty run of decimal digits. -/
def isNumber (cs : List Char) : Bool := !cs.isEmpty && cs.all Text.isDigit

/-- A graph identifier: two numbers with a point between them. -/
def graphId? (cs : List Char) : Option Identifier :=
  match cs.dropWhile (· != '.') with
  | '.' :: place =>
    if isNumber (cs.takeWhile (· != '.')) && isNumber place then some ⟨String.ofList cs⟩ else none
  | _ => none

/-- Two graph identifiers with a comma between them. -/
def graphIds? (cs : List Char) : Option (Identifier × Identifier) :=
  match cs.dropWhile (· != ',') with
  | ',' :: second => do
    let start ← graphId? (cs.takeWhile (· != ','))
    let finish ← graphId? second
    some (start, finish)
  | _ => none

/-- What stands where the properties belong: something in braces. -/
def braced? (cs : List Char) : Option String :=
  if cs.head? = some '\x7b' ∧ cs.getLast? = some '\x7d' then some (String.ofList cs) else none

/-- The parts of a vertex: its label, its identifier and the text of its properties. -/
def vertexParts? (cs : List Char) : Option (String × Identifier × String) := do
  let (label, rest) ← label? cs
  let (id, rest) ← bracketed? rest
  let id ← graphId? id
  let properties ← braced? rest
  some (label, id, properties)

/-- The parts of an edge: its type, its identifier, those of its endpoints and the text of its
properties. -/
def edgeParts? (cs : List Char) :
    Option (String × Identifier × (Identifier × Identifier) × String) := do
  let (edgeType, rest) ← label? cs
  let (id, rest) ← bracketed? rest
  let id ← graphId? id
  let (ends, rest) ← bracketed? rest
  let ends ← graphIds? ends
  let properties ← braced? rest
  some (edgeType, id, ends, properties)

/-- Reads the properties of an element. -/
def readProperties (s : String) : Except GraphError PropertyMap :=
  match Json.decode? Nested.source.properties? s with
  | some properties => .ok properties
  | none => .error (.unexpectedResult ("invalid AgensGraph properties " ++ s))

/-- Reads a vertex. -/
def readVertex (s : String) : Except GraphError Vertex :=
  match vertexParts? (Text.trim s.toList) with
  | none => .error (.unexpectedResult ("not an AgensGraph vertex: " ++ s))
  | some (label, id, properties) => do
    .ok { id := some id, labels := [label], properties := ← readProperties properties }

/-- Reads an edge, of whose endpoints only the identifiers are known. -/
def readEdge (s : String) : Except GraphError Edge :=
  match edgeParts? (Text.trim s.toList) with
  | none => .error (.unexpectedResult ("not an AgensGraph edge: " ++ s))
  | some (edgeType, id, (start, finish), properties) => do
    .ok {
      id := some id
      edgeType
      sourceId := some start
      destinationId := some finish
      properties := ← readProperties properties }

/-- Whether a character may start a graph name. -/
def isNameStart (c : Char) : Bool := c.isAlpha || c == '_'

/-- Whether a graph can be named so without quotes: ASCII letters, digits and underscores, no
digit first. -/
def isGraphName (s : String) : Bool :=
  match s.toList with
  | [] => false
  | c :: rest => isNameStart c && rest.all fun c => isNameStart c || c.isDigit

end PropertyGraph.Agens
