import PropertyGraph.Yaml.Token

/-!
# YAML nodes

A document is one node: a scalar, a sequence or a mapping.  An alias stands for the node that
its anchor names, which may even contain it, so it is kept as a number and looked up when it
is read.

The functions that call each other carry a count of calls still allowed; four for each token
are more than they can use.
-/

namespace PropertyGraph.Yaml

/-- A node with its tag. -/
inductive Node
  | scalar (text : String) (style : Style) (tag : Option String)
  | sequence (items : List Node) (tag : Option String)
  | mapping (members : List (Node × Node)) (tag : Option String)
  | alias (anchor : Nat)
  deriving Inhabited

/-- A scalar that is not written at all. -/
def Node.nothing : Node := .scalar "" .plain none

/-- Tokens that are being made into nodes. -/
structure Stream where
  tokens : List Token
  /-- The text of each tag handle. -/
  handles : List (String × String)
  /-- The number of each anchor. -/
  anchors : List (String × Nat) := []
  /-- The node that each number stands for. -/
  nodes : List (Nat × Node) := []

namespace Stream

/-- The stream after its first token. -/
def next (s : Stream) : Stream := { s with tokens := s.tokens.drop 1 }

/-- Gives an anchor its number: how many names there have been. -/
def declare (s : Stream) : Option String → Option Nat × Stream
  | none => (none, s)
  | some name =>
    let others := s.anchors.filter fun a => a.1 != name
    let number := s.anchors.length
    (some number, { s with anchors := (name, number) :: others })

/-- Lets the number of an anchor stand for a node. -/
def name (number : Option Nat) (n : Node) (s : Stream) : Node × Stream :=
  match number with
  | none => (n, s)
  | some number => (n, { s with nodes := (number, n) :: s.nodes })

/-- The tag that a handle and a suffix make. -/
def tag? (s : Stream) (handle suffix : String) : Option String :=
  if handle = "" then some suffix else (s.handles.lookup handle).map (· ++ suffix)

end Stream

/-- The anchor and the tag before a node, in either order. -/
structure Properties where
  anchor : Option String := none
  tag : Option (String × String) := none

/-- Whether there are no properties. -/
def Properties.isEmpty (p : Properties) : Bool := p.anchor.isNone && p.tag.isNone

/-- The properties that a stream begins with. -/
def properties (s : Stream) : Properties × Stream :=
  match s.tokens with
  | .anchor a :: .tag handle suffix :: _ => (⟨some a, some (handle, suffix)⟩, s.next.next)
  | .tag handle suffix :: .anchor a :: _ => (⟨some a, some (handle, suffix)⟩, s.next.next)
  | .anchor a :: _ => (⟨some a, none⟩, s.next)
  | .tag handle suffix :: _ => (⟨none, some (handle, suffix)⟩, s.next)
  | _ => ({}, s)

/-- The tag of properties, whose handle has to be known. -/
def Properties.tag? (p : Properties) (s : Stream) : Option (Option String) :=
  match p.tag with
  | none => some none
  | some (handle, suffix) => (s.tag? handle suffix).map some

/-- Whether an item of a block sequence is not written. -/
def closesEntry : List Token → Bool
  | .blockEntry :: _ | .blockEnd :: _ => true
  | _ => false

/-- Whether a part of a block mapping is not written. -/
def closesPart : List Token → Bool
  | .key :: _ | .value :: _ | .blockEnd :: _ => true
  | _ => false

/-- Whether a part of an entry of a flow collection is not written; `closing` tells the mark at
the end of the collection. -/
def closesFlowPart (closing : Token → Bool) : List Token → Bool
  | .value :: _ | .flowEntry :: _ => true
  | t :: _ => closing t
  | [] => false

/-- Whether a token ends a flow sequence. -/
def endsSequence : Token → Bool
  | .flowSequenceEnd => true
  | _ => false

/-- Whether a token ends a flow mapping. -/
def endsMapping : Token → Bool
  | .flowMappingEnd => true
  | _ => false

/-- Whether the value of an entry of a flow collection is not written. -/
def closesFlowValue (closing : Token → Bool) : List Token → Bool
  | .flowEntry :: _ => true
  | t :: _ => closing t
  | [] => false

mutual
/-- A node.  Block collections may only begin in a block; a sequence that is not indented may
only be part of a mapping. -/
def node? : Nat → Bool → Bool → Stream → Option (Node × Stream)
  | 0, _, _, _ => none
  | calls + 1, block, unindented, s =>
    match s.tokens with
    | .alias name :: _ => (s.anchors.lookup name).map fun number => (.alias number, s.next)
    | _ => do
      let (p, s) := properties s
      let tag ← p.tag? s
      let (number, s) := s.declare p.anchor
      let unwritten := if p.isEmpty then none else some (s.name number (.scalar "" .plain tag))
      match s.tokens with
      | .scalar text style :: _ =>
        some (s.next.name number (.scalar text style (tag.filter (· != "!"))))
      | .flowSequenceStart :: _ => do
        let (items, s) ← flowItems? calls true s.next
        some (s.name number (.sequence items tag))
      | .flowMappingStart :: _ => do
        let (members, s) ← flowMembers? calls true s.next
        some (s.name number (.mapping members tag))
      | .blockEntry :: _ =>
        -- The dashes of this sequence stand where the keys around it do.
        if unindented then do
          let (items, s) ← dashes? calls s
          some (s.name number (.sequence items tag))
        else unwritten
      | .blockSequenceStart :: _ =>
        if block then do
          let (items, s) ← blockItems? calls s.next
          some (s.name number (.sequence items tag))
        else unwritten
      | .blockMappingStart :: _ =>
        if block then do
          let (members, s) ← blockMembers? calls s.next
          some (s.name number (.mapping members tag))
        else unwritten
      | _ => unwritten

/-- The items of a sequence that is not indented; the tokens do not say where it ends. -/
def dashes? : Nat → Stream → Option (List Node × Stream)
  | 0, _ => none
  | calls + 1, s =>
    match s.tokens with
    | .blockEntry :: rest => do
      let (item, s) ←
        if closesEntry rest || closesPart rest then some (Node.nothing, s.next)
        else node? calls true false s.next
      let (items, s) ← dashes? calls s
      some (item :: items, s)
    | _ => some ([], s)

/-- The items of a block sequence up to its end. -/
def blockItems? : Nat → Stream → Option (List Node × Stream)
  | 0, _ => none
  | calls + 1, s =>
    match s.tokens with
    | .blockEntry :: rest => do
      let (item, s) ←
        if closesEntry rest then some (Node.nothing, s.next) else node? calls true false s.next
      let (items, s) ← blockItems? calls s
      some (item :: items, s)
    | .blockEnd :: _ => some ([], s.next)
    | _ => none

/-- The members of a block mapping up to its end. -/
def blockMembers? : Nat → Stream → Option (List (Node × Node) × Stream)
  | 0, _ => none
  | calls + 1, s =>
    match s.tokens with
    | .key :: rest => do
      let (key, s) ←
        if closesPart rest then some (Node.nothing, s.next) else node? calls true true s.next
      let (value, s) ←
        match s.tokens with
        | .value :: rest =>
          if closesPart rest then some (Node.nothing, s.next) else node? calls true true s.next
        | _ => some (Node.nothing, s)
      let (members, s) ← blockMembers? calls s
      some ((key, value) :: members, s)
    | .blockEnd :: _ => some ([], s.next)
    | _ => none

/-- The rest of the items of a flow sequence up to its closing bracket.  A pair of a key and a
value is a mapping of its own.  The mark after a key that is not written goes with it. -/
def flowItems? : Nat → Bool → Stream → Option (List Node × Stream)
  | 0, _, _ => none
  | calls + 1, first, s =>
    match s.tokens with
    | .flowSequenceEnd :: _ => some ([], s.next)
    | tokens => do
      let s ←
        if first then some s
        else
          match tokens with
          | .flowEntry :: _ => some s.next
          | _ => none
      match s.tokens with
      | .flowSequenceEnd :: _ => some ([], s.next)
      | .key :: rest => do
        let (key, s) ←
          if closesFlowPart endsSequence rest then some (Node.nothing, s.next.next)
          else node? calls false false s.next
        let (value, s) ← flowValue? calls endsSequence s
        let (items, s) ← flowItems? calls false s
        some (.mapping [(key, value)] none :: items, s)
      | _ => do
        let (item, s) ← node? calls false false s
        let (items, s) ← flowItems? calls false s
        some (item :: items, s)

/-- The value of an entry of a flow collection; it need not be written. -/
def flowValue? : Nat → (Token → Bool) → Stream → Option (Node × Stream)
  | 0, _, _ => none
  | calls + 1, closing, s =>
    match s.tokens with
    | .value :: rest =>
      if closesFlowValue closing rest then some (Node.nothing, s.next)
      else node? calls false false s.next
    | _ => some (Node.nothing, s)

/-- The rest of the members of a flow mapping up to its closing brace. -/
def flowMembers? : Nat → Bool → Stream → Option (List (Node × Node) × Stream)
  | 0, _, _ => none
  | calls + 1, first, s =>
    match s.tokens with
    | .flowMappingEnd :: _ => some ([], s.next)
    | tokens => do
      let s ←
        if first then some s
        else
          match tokens with
          | .flowEntry :: _ => some s.next
          | _ => none
      match s.tokens with
      | .flowMappingEnd :: _ => some ([], s.next)
      | .key :: rest => do
        let (key, s) ←
          if closesFlowPart endsMapping rest then some (Node.nothing, s.next)
          else node? calls false false s.next
        let (value, s) ← flowValue? calls endsMapping s
        let (members, s) ← flowMembers? calls false s
        some ((key, value) :: members, s)
      | _ => do
        let (key, s) ← node? calls false false s
        let (members, s) ← flowMembers? calls false s
        some ((key, Node.nothing) :: members, s)
end

/-- What the directives of a document say. -/
structure Directives where
  version : Option (Nat × Nat) := none
  handles : List (String × String) := []

/-- The handles that have a text of their own unless a directive gives them another. -/
def defaultHandles : List (String × String) := [("!", "!"), ("!!", "tag:yaml.org,2002:")]

/-- Takes in one more directive.  There is at most one version, of two that are known, and one
text for each handle. -/
def Directives.add? (d : Directives) : Directive → Option Directives
  | .version major minor =>
    if d.version.isNone ∧ major = 1 ∧ (minor = 1 ∨ minor = 2) then
      some { d with version := some (major, minor) }
    else none
  | .handle handle text =>
    if (d.handles.lookup handle).isSome then none
    else some { d with handles := (handle, text) :: d.handles }

/-- The directives that tokens begin with. -/
def directives? (d : Directives) : List Token → Option (Directives × List Token)
  | .directive x :: rest => do directives? (← d.add? x) rest
  | tokens => some (d, tokens)

/-- The node of a document and the nodes that its aliases stand for. -/
structure Document where
  root : Node
  nodes : List (Nat × Node) := []

/-- Whether a document has no node. -/
def isBare : List Token → Bool
  | [] | .directive _ :: _ | .documentStart :: _ | .documentEnd :: _ => true
  | _ => false

/-- The root of a document at the start of a stream, and the tokens after it. -/
def root? (s : Stream) : Option (Document × List Token) :=
  (node? (4 * s.tokens.length + 4) true false s).map fun (n, s) => (⟨n, s.nodes⟩, s.tokens)

/-- A document and the tokens after it.  With directives the document's start has to be
marked. -/
def document? (tokens : List Token) : Option (Document × List Token) := do
  let (d, rest) ← directives? {} tokens
  let handles := d.handles ++ defaultHandles
  match tokens, rest with
  | [], _ => some (⟨.nothing, []⟩, [])
  | _, .documentStart :: rest =>
    if isBare rest then some (⟨.nothing, []⟩, rest) else root? { tokens := rest, handles }
  | .directive _ :: _, _ => none
  | _, _ => root? { tokens, handles }

/-- Whether nothing but marks of a document's end is left. -/
def isFinished : List Token → Bool
  | [] => true
  | .documentEnd :: rest => isFinished rest
  | _ => false

/-- The one document that a text holds. -/
def parse? (s : String) : Option Document := do
  let (d, rest) ← document? (← Token.scan? s)
  if isFinished rest then some d else none

end PropertyGraph.Yaml
