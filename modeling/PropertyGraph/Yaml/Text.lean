/-!
# Characters, line breaks and gaps of YAML

Besides line feeds and carriage returns, YAML breaks lines at the next-line character and at
the line and paragraph separators.  The last two are kept as they are, all other breaks are
read as line feeds.

A scalar may run over several lines.  What stands between two of its words is a gap: a gap
within a line is kept, a single line break is read as a space, and of several line breaks the
first is dropped.
-/

namespace PropertyGraph.Yaml

/-- Whether a character breaks a line. -/
def isBreak (c : Char) : Bool :=
  c == '\n' || c == '\r' || c == '\u0085' || c == '\u2028' || c == '\u2029'

/-- Whether a character is a blank within a line. -/
def isBlank (c : Char) : Bool := c == ' ' || c == '\t'

/-- What a line break is read as. -/
def normalBreak (c : Char) : Char := if c == '\u2028' || c == '\u2029' then c else '\n'

/-- Whether a text is at its end, at a blank or at a line break. -/
def endsWord : List Char → Bool
  | [] => true
  | c :: _ => isBlank c || isBreak c

/-- Whether a text is at its end or at a line break. -/
def endsLine : List Char → Bool
  | [] => true
  | c :: _ => isBreak c

/-- Whether a character may stand in the name of an anchor or a directive. -/
def isWord (c : Char) : Bool := c.isAlphanum || c == '_' || c == '-'

/-- Whether a character may stand in a document at all. -/
def isAllowed (c : Char) : Bool :=
  c == '\t' || c == '\n' || c == '\r' || (' ' ≤ c && c ≤ '~') || c == '\u0085' ||
    ('\u00a0' ≤ c && c != '\ufffe' && c != '\uffff')

/-- The text after its leading blanks. -/
def skipBlanks (cs : List Char) : List Char := cs.dropWhile isBlank

/-- The text after a comment, if there is one. -/
def skipComment : List Char → List Char
  | '#' :: rest => rest.dropWhile (!isBreak ·)
  | cs => cs

/-- The text after a line break, if there is one. -/
def skipBreak : List Char → List Char
  | '\r' :: '\n' :: rest => rest
  | c :: rest => if isBreak c then rest else c :: rest
  | [] => []

/-- The text after the end of a line: blanks, perhaps a comment, and a line break. -/
def endOfLine? (cs : List Char) : Option (List Char) :=
  let cs := skipComment (skipBlanks cs)
  if endsLine cs then some (skipBreak cs) else none

/-- Whether a text begins with the mark of a document's start or end. -/
def isDocumentMark : List Char → Bool
  | '-' :: '-' :: '-' :: rest => endsWord rest
  | '.' :: '.' :: '.' :: rest => endsWord rest
  | _ => false

/-- A place in a text. -/
structure Position where
  index : Nat := 0
  line : Nat := 0
  column : Nat := 0

/-- The place after some characters. -/
def Position.after (p : Position) : List Char → Position
  | [] => p
  | '\r' :: '\n' :: rest => Position.after ⟨p.index + 2, p.line + 1, 0⟩ rest
  | c :: rest =>
    if isBreak c then Position.after ⟨p.index + 1, p.line + 1, 0⟩ rest
    else Position.after ⟨p.index + 1, p.line, p.column + 1⟩ rest

/-- What stands between two words of a scalar. -/
structure Gap where
  /-- The blanks of a gap within a line. -/
  blanks : List Char := []
  broken : Bool := false
  /-- The first line break, unless it is escaped. -/
  first : Option Char := none
  /-- The further line breaks. -/
  more : List Char := []
  /-- The number of characters after the last line break. -/
  column : Nat := 0

namespace Gap

/-- The gap with one more blank.  After a line break blanks do not count. -/
def blank (g : Gap) (c : Char) : Gap :=
  if g.broken then { g with column := g.column + 1 } else { g with blanks := g.blanks ++ [c] }

/-- The gap with one more line break. -/
def lineBreak (g : Gap) (c : Char) : Gap :=
  if g.broken then { g with more := g.more ++ [normalBreak c], column := 0 }
  else { broken := true, first := some (normalBreak c) }

/-- The gap of an escaped line break. -/
def escapedBreak : Gap := { broken := true }

/-- Whether there is nothing in the gap. -/
def isEmpty (g : Gap) : Bool := !g.broken && g.blanks.isEmpty

/-- Whether the gap ends at the start of a line. -/
def atLineStart (g : Gap) : Bool := g.broken && g.column == 0

/-- What a gap is read as. -/
def text (g : Gap) : List Char :=
  if g.broken then
    match g.first with
    | some '\n' => if g.more.isEmpty then [' '] else g.more
    | some c => c :: g.more
    | none => g.more
  else g.blanks

end Gap
end PropertyGraph.Yaml
