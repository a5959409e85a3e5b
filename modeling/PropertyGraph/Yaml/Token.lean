import PropertyGraph.Yaml.Scalar
import PropertyGraph.Yaml.Tag

/-!
# YAML tokens

The marks and scalars of a document in order.  Block collections have no marks of their own:
they begin where a line is indented more than the collection around it and end where one is
indented less, and the tokens say so.

A key need not be marked either.  Only the colon after it tells that what stands before was a
key, so the place of the token that may turn out to be one is kept, and the marks are put
there when the colon comes.  A key without a mark stands on one line, within 1024 characters.
-/

namespace PropertyGraph.Yaml

/-- A token. -/
inductive Token
  | directive (d : Directive)
  | documentStart
  | documentEnd
  | blockSequenceStart
  | blockMappingStart
  | blockEnd
  | flowSequenceStart
  | flowSequenceEnd
  | flowMappingStart
  | flowMappingEnd
  | blockEntry
  | flowEntry
  | key
  | value
  | alias (name : String)
  | anchor (name : String)
  | tag (handle suffix : String)
  | scalar (text : String) (style : Style)

/-- A token that may turn out to begin a key: how many tokens stand before it, and where it
is.  In a block it is required to be one if it stands where keys of the collection do. -/
structure Candidate where
  place : Nat
  required : Bool
  position : Position

/-- How far a document has been taken apart. -/
structure Scan where
  rest : List Char
  position : Position := {}
  /-- The indentation of the innermost block collection; negative outside of all. -/
  indent : Int := -1
  /-- The indentations of the collections around it. -/
  outer : List Int := []
  /-- Whether a key without a mark may begin here. -/
  keyAllowed : Bool := true
  /-- The candidates of the flow collections that are open, the innermost first, and of the
  block around them. -/
  candidates : List (Option Candidate) := [none]
  /-- The tokens so far, the last one first. -/
  tokens : List Token := []

namespace Scan

/-- Whether a flow collection is open. -/
def inFlow (s : Scan) : Bool := decide (1 < s.candidates.length)

/-- One more token at the end. -/
def emit (t : Token) (s : Scan) : Scan := { s with tokens := t :: s.tokens }

/-- One more token, after as many as told. -/
def insertAt (place : Nat) (t : Token) (s : Scan) : Scan :=
  let later := s.tokens.length - place
  { s with tokens := s.tokens.take later ++ t :: s.tokens.drop later }

/-- Goes on with the text that is left. -/
def advance (rest : List Char) (s : Scan) : Scan :=
  { s with
    rest
    position := s.position.after (s.rest.take (s.rest.length - rest.length)) }

/-- Allows or forbids that a key begins here. -/
def allowKey (allowed : Bool) (s : Scan) : Scan := { s with keyAllowed := allowed }

/-- How many of the collections around end before a column, and those that are left. -/
def ended (column indent : Int) : List Int → Nat × Int × List Int
  | [] => (0, indent, [])
  | next :: outer =>
    if column < indent then
      let (n, indent, outer) := ended column next outer
      (n + 1, indent, outer)
    else (0, indent, next :: outer)

/-- Ends the block collections that are indented more than a column. -/
def unroll (column : Int) (s : Scan) : Scan :=
  if s.inFlow then s
  else
    let (n, indent, outer) := ended column s.indent s.outer
    { s with indent, outer, tokens := List.replicate n .blockEnd ++ s.tokens }

/-- Begins a block collection at a column unless it has begun already; its token is put after
as many as told. -/
def roll (column place : Nat) (t : Token) (s : Scan) : Scan :=
  if !s.inFlow && decide (s.indent < column) then
    insertAt place t { s with indent := column, outer := s.indent :: s.outer }
  else s

/-- Gives up the innermost candidate.  One that is required to be a key cannot be given up. -/
def dropCandidate? (s : Scan) : Option Scan :=
  match s.candidates with
  | some c :: rest => if c.required then none else some { s with candidates := none :: rest }
  | _ => some s

/-- Makes what begins here the innermost candidate. -/
def keepCandidate? (s : Scan) : Option Scan :=
  if s.keyAllowed then do
    let s ← s.dropCandidate?
    let c : Candidate := {
      place := s.tokens.length
      required := !s.inFlow && decide (s.indent = s.position.column)
      position := s.position }
    some { s with candidates := some c :: s.candidates.drop 1 }
  else some s

/-- The greatest length of a key without a mark. -/
def maxKeyLength : Nat := 1024

/-- A candidate, unless the text has gone on too far for it to be a key. -/
def current? (p : Position) : Option Candidate → Option (Option Candidate)
  | none => some none
  | some c =>
    if c.position.line < p.line ∨ c.position.index + maxKeyLength < p.index then
      -- No colon came in time, and in this place nothing but a key can stand.
      if c.required then none else some none
    else some (some c)

/-- Gives up all candidates that the text has gone beyond. -/
def refresh? (s : Scan) : Option Scan :=
  (s.candidates.mapM (current? s.position)).map fun candidates => { s with candidates }

/-- The text after blanks, comments and line breaks, and whether a key may begin there.  In a
block, a tab is no blank where a key may begin, and a key may begin on each new line.
`fresh` holds at the start of a line, where a byte order mark may stand. -/
def skipGap (flow comment fresh allowed : Bool) : List Char → Bool × List Char
  | [] => (allowed, [])
  | '\r' :: '\n' :: rest => skipGap flow false true (allowed || !flow) rest
  | c :: rest =>
    if isBreak c then skipGap flow false true (allowed || !flow) rest
    else if comment then skipGap flow true false allowed rest
    else if c == ' ' || (c == '\t' && (flow || !allowed)) || (c == '\ufeff' && fresh) then
      skipGap flow false false allowed rest
    else if c == '#' then skipGap flow true false allowed rest
    else (allowed, c :: rest)

/-- Goes on to the next token. -/
def toToken (s : Scan) : Scan :=
  let (allowed, rest) := skipGap s.inFlow false (s.position.column == 0) s.keyAllowed s.rest
  (s.advance rest).allowKey allowed

/-- Ends all block collections, before a mark that stands outside of them. -/
def leaveBlocks? (s : Scan) : Option Scan :=
  ((s.unroll (-1)).dropCandidate?).map (allowKey false)

/-- The mark of a document's start or end. -/
def documentMark? (t : Token) (s : Scan) : Option Scan := do
  let s ← s.leaveBlocks?
  some ((s.advance (s.rest.drop 3)).emit t)

/-- The opening mark of a flow collection. -/
def openFlow? (t : Token) (rest : List Char) (s : Scan) : Option Scan := do
  let s ← s.keepCandidate?
  some (({ s with candidates := none :: s.candidates }.allowKey true |>.advance rest).emit t)

/-- The closing mark of a flow collection. -/
def closeFlow? (t : Token) (rest : List Char) (s : Scan) : Option Scan := do
  let s ← s.dropCandidate?
  let candidates := if s.inFlow then s.candidates.drop 1 else s.candidates
  some (({ s with candidates }.allowKey false |>.advance rest).emit t)

/-- The comma between the entries of a flow collection. -/
def flowEntry? (rest : List Char) (s : Scan) : Option Scan := do
  let s ← s.dropCandidate?
  some ((s.allowKey true |>.advance rest).emit .flowEntry)

/-- Begins a block collection here for a mark.  It may stand only where a key may begin. -/
def startBlock? (t : Token) (s : Scan) : Option Scan :=
  if s.inFlow then some s
  else if s.keyAllowed then some (s.roll s.position.column s.tokens.length t)
  else none

/-- The dash of a block sequence. -/
def blockEntry? (rest : List Char) (s : Scan) : Option Scan := do
  let s ← (← s.startBlock? .blockSequenceStart).dropCandidate?
  some ((s.allowKey true |>.advance rest).emit .blockEntry)

/-- The mark of a key. -/
def key? (rest : List Char) (s : Scan) : Option Scan := do
  let s ← (← s.startBlock? .blockMappingStart).dropCandidate?
  some ((s.allowKey !s.inFlow |>.advance rest).emit .key)

/-- The colon before a value.  The innermost candidate is a key then. -/
def value? (rest : List Char) (s : Scan) : Option Scan :=
  match s.candidates with
  | some c :: others =>
    -- The tokens of the key are there already; both marks go before the first of them.
    let s := insertAt c.place .key s
    let s := s.roll c.position.column c.place .blockMappingStart
    some (({ s with candidates := none :: others }.allowKey false |>.advance rest).emit .value)
  | _ => do
    let s ← s.startBlock? .blockMappingStart
    some ((s.allowKey !s.inFlow |>.advance rest).emit .value)

/-- A token that may begin a key. -/
def inline? (t : Token) (rest : List Char) (s : Scan) : Option Scan := do
  let s ← s.keepCandidate?
  some ((s.allowKey false |>.advance rest).emit t)

/-- A block of lines. -/
def block? (style : Style) (cs : List Char) (s : Scan) : Option Scan := do
  let s ← s.dropCandidate?
  let (text, rest) ← Yaml.block? style s.indent cs
  some ((s.allowKey true |>.advance rest).emit (.scalar (String.ofList text) style))

/-- A plain scalar.  When a line break ends it, a key may follow. -/
def plain? (s : Scan) : Option Scan := do
  let s ← s.keepCandidate?
  let (text, broken, rest) ← Yaml.plain? s.inFlow (s.indent + 1).toNat {} s.rest
  some ((s.allowKey broken |>.advance rest).emit (.scalar (String.ofList text) .plain))

/-- A scalar in quotes. -/
def quoted? (read : Option (List Char × List Char)) (s : Scan) : Option Scan := do
  let (text, rest) ← read
  s.inline? (.scalar (String.ofList text) .quoted) rest

/-- Marks that no plain scalar begins with; the first three may, when no blank follows. -/
def indicators : List Char := "-?:,[]\x7b\x7d#&*!|>'\"%@`".toList

/-- Whether a plain scalar may begin with a character before some text.  A tab that is no
blank here is no character of a scalar either. -/
def startsPlain (flow : Bool) (c : Char) (rest : List Char) : Bool :=
  (!isBlank c && !indicators.contains c) || (c == '-' && !(rest.head?.any isBlank)) ||
    (!flow && (c == '?' || c == ':') && !endsWord rest)

/-- The token at the start of the text that is left, which is not empty. -/
def token? (s : Scan) : Option Scan :=
  match s.rest with
  | [] => none
  | c :: rest =>
    let atStart := s.position.column == 0
    if atStart && c == '%' then do
      let s ← s.leaveBlocks?
      let (d, rest) ← directive? rest
      some ((s.advance rest).emit (.directive d))
    else if atStart && isDocumentMark s.rest then
      s.documentMark? (if c == '-' then .documentStart else .documentEnd)
    else if c == '[' then s.openFlow? .flowSequenceStart rest
    else if c == '\x7b' then s.openFlow? .flowMappingStart rest
    else if c == ']' then s.closeFlow? .flowSequenceEnd rest
    else if c == '\x7d' then s.closeFlow? .flowMappingEnd rest
    else if c == ',' then s.flowEntry? rest
    else if c == '-' && endsWord rest then s.blockEntry? rest
    else if c == '?' && (s.inFlow || endsWord rest) then s.key? rest
    else if c == ':' && (s.inFlow || endsWord rest) then s.value? rest
    else if c == '*' then (anchorName? rest).bind fun (name, rest) => s.inline? (.alias name) rest
    else if c == '&' then (anchorName? rest).bind fun (name, rest) => s.inline? (.anchor name) rest
    else if c == '!' then
      (tag? s.inFlow rest).bind fun ((handle, suffix), rest) => s.inline? (.tag handle suffix) rest
    else if c == '|' && !s.inFlow then s.block? .literal rest
    else if c == '>' && !s.inFlow then s.block? .folded rest
    else if c == '\'' then s.quoted? (singleQuoted? {} rest)
    else if c == '"' then s.quoted? (doubleQuoted? {} rest)
    else if startsPlain s.inFlow c rest then s.plain?
    else none

/-- Takes a text apart in at most as many steps as told. -/
def run? : Nat → Scan → Option Scan
  | steps, s => do
    let s ← s.toToken.refresh?
    let s := s.unroll s.position.column
    match s.rest, steps with
    | [], _ => s.leaveBlocks?
    | _ :: _, 0 => none
    | _ :: _, steps + 1 => run? steps (← s.token?)

end Scan

/-- The tokens of a text. -/
def Token.scan? (s : String) : Option (List Token) :=
  let cs := match s.toList with
    | '\ufeff' :: rest => rest
    | cs => cs
  if cs.all isAllowed then
    (Scan.run? cs.length { rest := cs }).map fun s => s.tokens.reverse
  else none

end PropertyGraph.Yaml
