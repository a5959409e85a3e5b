import PropertyGraph.Dict
import PropertyGraph.Text.Blank
import PropertyGraph.Text.AlphanumericTable

/-!
# Files of variables

A file of variables has one assignment `NAME=value` to a line; a quoted value may run over
several.  Values know single quotes, double quotes, escapes and the substitution of earlier
variables.  The first line that is no assignment ends the file, and a variable that is set
already keeps its value.
-/

namespace PropertyGraph.Dotenv

/-! ## Lines -/

/-- What a line is in the middle of: nothing, a blank, an escape, or a quotation. -/
inductive LineState
  | plain
  | blank
  | escaped
  | single
  | singleEscaped
  | double
  | doubleEscaped
  deriving DecidableEq, Repr

/-- How one physical line ends: in a state, or in a comment after some characters. -/
inductive LineEnd
  | open (state : LineState)
  | comment (before : List Char)

/-- The state after a character outside of quotation marks. -/
def LineState.outside (c : Char) : LineState :=
  if c = '\\' then .escaped
  else if c = '"' then .double
  else if c = '\'' then .single
  else .plain

/-- The state after a character. -/
def LineState.next : LineState → Char → LineState
  | .blank, c => outside c
  | .escaped, _ => .plain
  | .plain, c => if Text.isBlank c && c != '\n' && c != '\r' then .blank else outside c
  | .single, c => if c = '\\' then .singleEscaped else if c = '\'' then .plain else .single
  | .singleEscaped, _ => .single
  | .double, c => if c = '\\' then .doubleEscaped else if c = '"' then .plain else .double
  | .doubleEscaped, _ => .double

/-- Follows a physical line to its end.  A comment starts at a `#` after exactly one blank;
`before` holds the characters read so far, last first. -/
def lineEnd (before : List Char) (state : LineState) : List Char → LineEnd
  | [] => .open state
  | c :: rest =>
    if state = .blank ∧ c = '#' then .comment before.reverse
    else lineEnd (c :: before) (state.next c) rest

/-- The physical lines of a text, each with its line feed. -/
def physicalLines (line : List Char) : List Char → List (List Char)
  | [] => if line.isEmpty then [] else [line.reverse]
  | '\n' :: rest => ('\n' :: line).reverse :: physicalLines [] rest
  | c :: rest => physicalLines (c :: line) rest

/-- A line without the mark at its end. -/
def withoutMark (line : List Char) : List Char :=
  match line.reverse with
  | '\n' :: '\r' :: rest => rest.reverse
  | '\n' :: rest => rest.reverse
  | _ => line

/-- Whether the first character that is not blank is a `#`. -/
def isComment (line : List Char) : Bool :=
  match line.dropWhile Text.isBlank with
  | '#' :: _ => true
  | _ => false

/-- Joins physical lines while a quotation or an escape is open.  Where the text ends in the
middle of a line there is no line. -/
def logicalLines (pending : List Char) (state : LineState) :
    List (List Char) → List (Option (List Char))
  | [] => if state = .plain then [] else [none]
  | line :: rest =>
    let joined := pending ++ line
    -- A comment opens no quotation, whatever marks are in it.
    if isComment joined then some [] :: logicalLines [] .plain rest
    else
      match lineEnd [] state line with
      | .comment before => some (pending ++ before) :: logicalLines [] .plain rest
      | .open .plain => some (withoutMark joined) :: logicalLines [] .plain rest
      | .open state => logicalLines joined state rest

/-! ## Values -/

/-- The name of a variable that is being read: `$name`, or `$` with the name in braces. -/
inductive Reference
  | none
  | bare
  | braced
  deriving DecidableEq, Repr

/-- A value read in part.  Characters are held last first. -/
structure Reading where
  single : Bool := false
  double : Bool := false
  escaped : Bool := false
  ending : Bool := false
  reference : Reference := .none
  name : List Char := []
  output : List Char := []

namespace Reading

/-- The reading with one more character of the value. -/
def push (r : Reading) (c : Char) : Reading := { r with output := c :: r.output }

/-- The reading with the referred variable put in. -/
def substitute (value : String → String) (r : Reading) : Reading :=
  { r with
    name := []
    output := (value (String.ofList r.name.reverse)).toList.reverse ++ r.output }

/-- The reading after the character of an escape. -/
def unescape? (r : Reading) (c : Char) : Option Reading :=
  let r := { r with escaped := false }
  match c with
  | '\\' | '\'' | '"' | '$' | ' ' => some (r.push c)
  | 'n' => some (r.push '\n')
  | _ => none

/-- The reading after a character that ends a name without braces, or is part of one in
braces. -/
def reference? (value : String → String) (r : Reading) (c : Char) : Reading :=
  match r.reference with
  | .braced =>
    if c = '\x7d' then { r.substitute value with reference := .none }
    else { r with name := c :: r.name }
  | _ =>
    if c = '\x7b' && r.name.isEmpty then { r with reference := .braced }
    else
      let r := r.substitute value
      if c = '$' then { r with reference := .bare }
      else { r with reference := .none }.push c

/-- The reading after a character of a value that has not come to its end. -/
def step? (value : String → String) (r : Reading) (c : Char) : Option Reading :=
  if r.escaped then r.unescape? c
  else if r.single then some (if c = '\'' then { r with single := false } else r.push c)
  else if r.reference ≠ .none then
    some (if Text.isAlphanumeric c then { r with name := c :: r.name } else r.reference? value c)
  else if c = '$' then some { r with reference := .bare }
  else if r.double then
    some (if c = '"' then { r with double := false }
      else if c = '\\' then { r with escaped := true }
      else r.push c)
  else if c = '\'' then some { r with single := true }
  else if c = '"' then some { r with double := true }
  else if c = '\\' then some { r with escaped := true }
  else if c = ' ' || c = '\t' then some { r with ending := true }
  else some (r.push c)

/-- The value of a reading at its end.  An open quotation or brace is a fault. -/
def finish? (value : String → String) (r : Reading) : Option String :=
  if r.reference = .braced || r.single || r.double then none
  else some (String.ofList (r.substitute value).output.reverse)

end Reading

/-- Reads a value.  After a blank outside of quotations only a comment may follow. -/
def value? (value : String → String) (r : Reading) : List Char → Option String
  | [] => r.finish? value
  | c :: rest =>
    if r.ending then
      if c = ' ' || c = '\t' then value? value r rest
      else if c = '#' then r.finish? value
      else none
    else (r.step? value c).bind fun r => value? value r rest

/-! ## Assignments -/

/-- Whether a character can start a name. -/
def startsName (c : Char) : Bool := c.isAlpha || c == '_'

/-- Whether a character can stand in a name. -/
def inName (c : Char) : Bool := c.isAlphanum || c == '_' || c == '.'

/-- A name and the text after it. -/
def name? : List Char → Option (String × List Char)
  | [] => none
  | c :: rest =>
    if startsName c then
      some (String.ofList (c :: rest.takeWhile inName), rest.dropWhile inName)
    else none

/-- The text after an equals sign. -/
def equals? : List Char → Option (List Char)
  | '=' :: rest => some rest
  | _ => none

/-- The text after its leading blanks. -/
def skip (cs : List Char) : List Char := cs.dropWhile Text.isBlank

/-- The name that a line assigns to, and the text of its value.  The word `export` may stand
before the name, and is a name itself where an equals sign follows. -/
def target? (cs : List Char) : Option (String × List Char) := do
  let (first, rest) ← name? cs
  let rest := skip rest
  if first = "export" then
    match equals? rest with
    | some text => some (first, skip text)
    | none =>
      let (second, rest) ← name? rest
      let text ← equals? (skip rest)
      some (second, skip text)
  else
    let text ← equals? rest
    some (first, skip text)

/-- Whether nothing but a comment is left. -/
def isVoid : List Char → Bool
  | [] | '#' :: _ => true
  | _ => false

/-- The variables of the surroundings, and those that the file has assigned so far. -/
structure Variables where
  environment : Dict String
  assigned : Dict String := ∅

namespace Variables

/-- The value that a reference stands for; nothing for a variable that is not set. -/
def value (vs : Variables) (name : String) : String :=
  ((vs.environment.get? name) <|> (vs.assigned.get? name)).getD ""

/-- The variables after an assignment. -/
def assign (vs : Variables) (name value : String) : Variables where
  environment := vs.environment.insertIfNew name value
  assigned := vs.assigned.insert name value

/-- The variables after a line, unless it is no assignment. -/
def line? (vs : Variables) (line : List Char) : Option Variables :=
  let text := skip (Text.trimEnd line)
  if isVoid text then some vs
  else do
    let (name, text) ← target? text
    if isVoid text then some (vs.assign name "")
    else
      let v ← value? vs.value {} text
      some (vs.assign name v)

/-- The variables after the lines up to the first that is no assignment. -/
def load (vs : Variables) : List (Option (List Char)) → Variables
  | [] => vs
  | line :: rest =>
    match line.bind vs.line? with
    | some vs => load vs rest
    | none => vs

end Variables

/-- A text without the byte order mark at its start. -/
def withoutOrderMark : List Char → List Char
  | '\ufeff' :: rest => rest
  | cs => cs

/-- The variables of an environment together with those of a file. -/
def load (environment : Dict String) (content : String) : Dict String :=
  let lines := logicalLines [] .plain (physicalLines [] (withoutOrderMark content.toList))
  (Variables.load { environment } lines).environment

end PropertyGraph.Dotenv
