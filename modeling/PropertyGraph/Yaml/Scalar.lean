import PropertyGraph.Text.Numeral
import PropertyGraph.Yaml.Text

/-!
# YAML scalars

Scalars are written plainly, in quotes, or as blocks of lines.  Each function reads what
stands at the start of a text and returns the rest.
-/

namespace PropertyGraph.Yaml

/-- How a scalar is written. -/
inductive Style
  | plain
  | quoted
  | literal
  | folded
  deriving DecidableEq, Repr

/-- What was read with a gap and one more word before it. -/
def precede (g : Gap) (word : List Char) (r : Option (List Char × List Char)) :
    Option (List Char × List Char) :=
  r.map fun (cs, rest) => (g.text ++ word ++ cs, rest)

/-- A scalar in single quotes after its opening quote and a gap.  A quote in it is written
twice. -/
def singleQuoted? (g : Gap) : List Char → Option (List Char × List Char)
  | [] => none
  | '\'' :: '\'' :: rest => precede g ['\''] (singleQuoted? {} rest)
  | '\'' :: rest => some (g.text, rest)
  | '\r' :: '\n' :: rest => singleQuoted? (g.lineBreak '\n') rest
  | c :: rest =>
    if isBreak c then singleQuoted? (g.lineBreak c) rest
    else if isBlank c then singleQuoted? (g.blank c) rest
    else if g.atLineStart && isDocumentMark (c :: rest) then none
    else precede g [c] (singleQuoted? {} rest)

/-- The character of a one-letter escape. -/
def simpleEscape? : Char → Option Char
  | '0' => some '\x00'
  | 'a' => some '\x07'
  | 'b' => some '\x08'
  | 't' | '\t' => some '\t'
  | 'n' => some '\n'
  | 'v' => some '\x0b'
  | 'f' => some '\x0c'
  | 'r' => some '\r'
  | 'e' => some '\x1b'
  | ' ' => some ' '
  | '"' => some '"'
  | '/' => some '/'
  | '\\' => some '\\'
  | 'N' => some '\u0085'
  | '_' => some '\u00a0'
  | 'L' => some '\u2028'
  | 'P' => some '\u2029'
  | _ => none

/-- A scalar in double quotes after its opening quote and a gap. -/
def doubleQuoted? (g : Gap) : List Char → Option (List Char × List Char)
  | [] => none
  | '"' :: rest => some (g.text, rest)
  | '\r' :: '\n' :: rest => doubleQuoted? (g.lineBreak '\n') rest
  | '\\' :: '\r' :: '\n' :: rest => precede g [] (doubleQuoted? .escapedBreak rest)
  | '\\' :: 'x' :: a :: b :: rest => do
    let c ← Text.hexChar? [a, b]
    precede g [c] (doubleQuoted? {} rest)
  | '\\' :: 'u' :: a :: b :: c :: d :: rest => do
    let x ← Text.hexChar? [a, b, c, d]
    precede g [x] (doubleQuoted? {} rest)
  | '\\' :: 'U' :: a :: b :: c :: d :: e :: f :: h :: i :: rest => do
    let x ← Text.hexChar? [a, b, c, d, e, f, h, i]
    precede g [x] (doubleQuoted? {} rest)
  | '\\' :: e :: rest =>
    if isBreak e then precede g [] (doubleQuoted? .escapedBreak rest)
    else do
      let x ← simpleEscape? e
      precede g [x] (doubleQuoted? {} rest)
  | c :: rest =>
    if isBreak c then doubleQuoted? (g.lineBreak c) rest
    else if isBlank c then doubleQuoted? (g.blank c) rest
    else if c == '\\' || (g.atLineStart && isDocumentMark (c :: rest)) then none
    else precede g [c] (doubleQuoted? {} rest)

/-- Whether a character is a mark of a flow collection. -/
def isFlowMark (c : Char) : Bool := c == ',' || c == '[' || c == ']' || c == '\x7b' || c == '\x7d'

/-- Whether a plain scalar ends at the start of a text, given the gap before it.  In a block
it ends where a line is indented less than it has to be. -/
def endsPlain (flow : Bool) (indent : Nat) (g : Gap) (cs : List Char) : Bool :=
  match cs with
  | [] => true
  | c :: rest =>
    (!flow && g.broken && decide (g.column < indent)) ||
      (g.atLineStart && isDocumentMark (c :: rest)) ||
      (c == '#' && !g.isEmpty) ||
      (c == ':' && endsWord rest) ||
      (flow && isFlowMark c)

/-- Whether a colon stands directly before a mark of a flow collection. -/
def isMisplacedColon : List Char → Bool
  | ':' :: c :: _ => c == '?' || isFlowMark c
  | _ => false

/-- A plain scalar after some of it and a gap: what follows, whether the text that is left
begins on another line, and that text. -/
def plain? (flow : Bool) (indent : Nat) (g : Gap) :
    List Char → Option (List Char × Bool × List Char)
  | [] => some ([], g.broken, [])
  | '\r' :: '\n' :: rest => plain? flow indent (g.lineBreak '\n') rest
  | c :: rest =>
    if isBreak c then plain? flow indent (g.lineBreak c) rest
    else if isBlank c then
      if g.broken && c == '\t' && decide (g.column < indent) then none
      else plain? flow indent (g.blank c) rest
    else if endsPlain flow indent g (c :: rest) then some ([], g.broken, c :: rest)
    else if flow && isMisplacedColon (c :: rest) then none
    else
      (plain? flow indent {} rest).map fun (cs, broken, rest) => (g.text ++ c :: cs, broken, rest)

/-- What becomes of the line breaks at the end of a block. -/
inductive Chomping
  | strip
  | clip
  | keep
  deriving DecidableEq, Repr

/-- The chomping that a sign asks for. -/
def chomping : List Char → Chomping × List Char
  | '+' :: rest => (.keep, rest)
  | '-' :: rest => (.strip, rest)
  | cs => (.clip, cs)

/-- The indentation that a digit asks for. -/
def indentation? : List Char → Option (Option Nat × List Char)
  | c :: rest =>
    match Text.digitValue? c with
    | some 0 => none
    | some n => some (some n, rest)
    | none => some (none, c :: rest)
  | [] => some (none, [])

/-- The line that opens a block after its first character: the chomping and the indentation,
in either order. -/
def blockHeader? (cs : List Char) : Option ((Chomping × Option Nat) × List Char) := do
  let (sign, rest) := chomping cs
  let (digit, rest) ← indentation? rest
  let (sign, rest) := if sign = .clip ∧ digit.isSome then chomping rest else (sign, rest)
  let rest ← endOfLine? rest
  some ((sign, digit), rest)

/-- A line of a block: its characters and the line break after it, which the last line of a
text does not have. -/
structure Line where
  content : List Char
  ending : List Char

namespace Line

/-- What the end of a line is read as. -/
def breakText (l : Line) : List Char :=
  match l.ending with
  | [] => []
  | c :: _ => [normalBreak c]

/-- A line with one more character in front. -/
def prepend (c : Char) : List Line → List Line
  | [] => [⟨[c], []⟩]
  | l :: rest => { l with content := c :: l.content } :: rest

/-- The lines of a text; the last one has no line break after it. -/
def split : List Char → List Line
  | [] => [⟨[], []⟩]
  | '\r' :: '\n' :: rest => ⟨[], ['\r', '\n']⟩ :: split rest
  | c :: rest => if isBreak c then ⟨[], [c]⟩ :: split rest else prepend c (split rest)

/-- The text of lines. -/
def join (ls : List Line) : List Char := ls.flatMap fun l => l.content ++ l.ending

/-- The number of spaces that a line begins with. -/
def indent (l : Line) : Nat := (l.content.takeWhile (· == ' ')).length

end Line

/-- The greatest number of spaces before the first line that has anything else.  A tab must
not stand among them. -/
def detectIndent? (most : Nat) : List Line → Option Nat
  | [] => some most
  | l :: rest =>
    let most := max most l.indent
    match l.content.drop l.indent with
    | '\t' :: _ => none
    | [] => if l.ending.isEmpty then some most else detectIndent? most rest
    | _ => some most

/-- What has been read of a block. -/
structure Block where
  /-- The lines so far, up to the end of the last one. -/
  text : List Char := []
  /-- The line break at the end of the last line. -/
  ending : List Char := []
  /-- The line breaks of the empty lines after it. -/
  empty : List Char := []
  /-- Whether the last line began with a blank. -/
  blank : Bool := false

/-- The block with one more line.  A folded block joins two lines by a space unless one of them
begins with a blank or an empty line stands between them. -/
def Block.add (style : Style) (b : Block) (content ending : List Char) : Block :=
  let blank := !content.isEmpty && endsWord content
  let joint :=
    if style = .folded ∧ b.ending = ['\n'] ∧ !b.blank ∧ !blank then
      if b.empty.isEmpty then [' '] else []
    else b.ending
  { text := b.text ++ joint ++ b.empty ++ content, ending, blank }

/-- The text of a block. -/
def Block.chomp (b : Block) : Chomping → List Char
  | .strip => b.text
  | .clip => b.text ++ b.ending
  | .keep => b.text ++ b.ending ++ b.empty

/-- The lines of a block with a known indentation, and the text after them. -/
def blockLines? (style : Style) (indent : Nat) (b : Block) :
    List Line → Option (Block × List Char)
  | [] => some (b, [])
  | l :: rest =>
    let spaces := min indent l.indent
    let content := l.content.drop spaces
    if spaces < indent ∧ content.head? = some '\t' then none
    else if content.isEmpty ∧ !l.ending.isEmpty then
      blockLines? style indent { b with empty := b.empty ++ l.breakText } rest
    else if spaces = indent ∧ !content.isEmpty then
      blockLines? style indent (b.add style content l.breakText) rest
    else some (b, content ++ l.ending ++ Line.join rest)

/-- A block after its first character, within a collection that is indented by `outer`, which
is negative outside of all. -/
def block? (style : Style) (outer : Int) (cs : List Char) : Option (List Char × List Char) := do
  let ((sign, digit), rest) ← blockHeader? cs
  let ls := Line.split rest
  let indent ← match digit with
    | some n => some ((max outer 0).toNat + n)
    | none => (detectIndent? 0 ls).map fun most => max most (max (outer + 1).toNat 1)
  let (b, rest) ← blockLines? style indent {} ls
  some (b.chomp sign, rest)

end PropertyGraph.Yaml
