import PropertyGraph.Text.Numeral
import PropertyGraph.Toml.Value

/-!
# Blanks, strings and keys of TOML

Strings stand in double quotes, with escapes, or in single quotes, as they are; three quotes
make either kind run over several lines.  In those, a line break directly after the opening
quotes does not count, every line break is a line feed, and up to two quotes may stand before
the closing ones.  Control characters other than tabs stand nowhere.
-/

namespace PropertyGraph.Toml

/-- Whether a character is a blank within a line. -/
def isBlank (c : Char) : Bool := c == ' ' || c == '\t'

/-- The text after its leading blanks. -/
def skipBlanks (cs : List Char) : List Char := cs.dropWhile isBlank

/-- Whether a character may stand in a comment, and in a string unless it means something
there. -/
def isVisible (c : Char) : Bool := c == '\t' || (decide (' ' ≤ c) && c != '\x7f')

/-- The text after a line break. -/
def newline? : List Char → Option (List Char)
  | '\n' :: rest => some rest
  | '\r' :: '\n' :: rest => some rest
  | _ => none

/-- The text after a comment, if there is one. -/
def skipComment : List Char → List Char
  | '#' :: rest => rest.dropWhile isVisible
  | cs => cs

/-- The text after the end of a line: blanks, perhaps a comment, and a line break or the end of
the text. -/
def endOfLine? (cs : List Char) : Option (List Char) :=
  match skipComment (skipBlanks cs) with
  | [] => some []
  | rest => newline? rest

/-- The character of a one-letter escape. -/
def simpleEscape? : Char → Option Char
  | 'b' => some '\x08'
  | 'f' => some '\x0c'
  | 'n' => some '\n'
  | 'r' => some '\r'
  | 't' => some '\t'
  | '"' => some '"'
  | '\\' => some '\\'
  | _ => none

/-- What was read with one more character before it. -/
def before (c : Char) : List Char × List Char → List Char × List Char
  | (cs, rest) => (c :: cs, rest)

/-- A string in double quotes after its opening quote. -/
def basic? : List Char → Option (List Char × List Char)
  | [] => none
  | '"' :: rest => some ([], rest)
  | '\\' :: 'u' :: a :: b :: c :: d :: rest => do
    let x ← Text.hexChar? [a, b, c, d]
    (basic? rest).map (before x)
  | '\\' :: 'U' :: a :: b :: c :: d :: e :: f :: g :: h :: rest => do
    let x ← Text.hexChar? [a, b, c, d, e, f, g, h]
    (basic? rest).map (before x)
  | '\\' :: e :: rest => do
    let x ← simpleEscape? e
    (basic? rest).map (before x)
  | c :: rest => if isVisible c && c != '\\' then (basic? rest).map (before c) else none

/-- A string in single quotes after its opening quote. -/
def literal? : List Char → Option (List Char × List Char)
  | [] => none
  | '\'' :: rest => some ([], rest)
  | c :: rest => if isVisible c then (literal? rest).map (before c) else none

/-- Whether nothing but blanks stands before the next line break. -/
def endsLine (cs : List Char) : Bool := (newline? (skipBlanks cs)).isSome

/-- A string in three double quotes after the opening ones.  A backslash at the end of a line
joins it to whatever comes after the blanks and line breaks that follow; they are being left
out while `joining`. -/
def multiBasic? : Bool → List Char → Option (List Char × List Char)
  | _, [] => none
  | true, ' ' :: rest => multiBasic? true rest
  | true, '\t' :: rest => multiBasic? true rest
  | true, '\n' :: rest => multiBasic? true rest
  | true, '\r' :: '\n' :: rest => multiBasic? true rest
  | _, '"' :: '"' :: '"' :: '"' :: '"' :: rest => some (['"', '"'], rest)
  | _, '"' :: '"' :: '"' :: '"' :: rest => some (['"'], rest)
  | _, '"' :: '"' :: '"' :: rest => some ([], rest)
  | _, '\r' :: '\n' :: rest => (multiBasic? false rest).map (before '\n')
  | _, '\n' :: rest => (multiBasic? false rest).map (before '\n')
  | _, '\\' :: 'u' :: a :: b :: c :: d :: rest => do
    let x ← Text.hexChar? [a, b, c, d]
    (multiBasic? false rest).map (before x)
  | _, '\\' :: 'U' :: a :: b :: c :: d :: e :: f :: g :: h :: rest => do
    let x ← Text.hexChar? [a, b, c, d, e, f, g, h]
    (multiBasic? false rest).map (before x)
  | _, '\\' :: e :: rest =>
    if endsLine (e :: rest) then multiBasic? true (e :: rest)
    else do
      let x ← simpleEscape? e
      (multiBasic? false rest).map (before x)
  | _, c :: rest =>
    if isVisible c && c != '\\' then (multiBasic? false rest).map (before c) else none

/-- A string in three single quotes after the opening ones. -/
def multiLiteral? : List Char → Option (List Char × List Char)
  | [] => none
  | '\'' :: '\'' :: '\'' :: '\'' :: '\'' :: rest => some (['\'', '\''], rest)
  | '\'' :: '\'' :: '\'' :: '\'' :: rest => some (['\''], rest)
  | '\'' :: '\'' :: '\'' :: rest => some ([], rest)
  | '\r' :: '\n' :: rest => (multiLiteral? rest).map (before '\n')
  | '\n' :: rest => (multiLiteral? rest).map (before '\n')
  | c :: rest => if isVisible c then (multiLiteral? rest).map (before c) else none

/-- A string of any kind. -/
def string? (cs : List Char) : Option (String × List Char) :=
  let read := match cs with
    | '"' :: '"' :: '"' :: rest => multiBasic? false ((newline? rest).getD rest)
    | '"' :: rest => basic? rest
    | '\'' :: '\'' :: '\'' :: rest => multiLiteral? ((newline? rest).getD rest)
    | '\'' :: rest => literal? rest
    | _ => none
  read.map fun (s, rest) => (String.ofList s, rest)

/-- Whether a character may stand in a key without quotes. -/
def isBare (c : Char) : Bool := c.isAlphanum || c == '-' || c == '_'

/-- One part of a key. -/
def simpleKey? (cs : List Char) : Option (String × List Char) :=
  match cs with
  | '"' :: rest => (basic? rest).map fun (s, rest) => (String.ofList s, rest)
  | '\'' :: rest => (literal? rest).map fun (s, rest) => (String.ofList s, rest)
  | cs =>
    match cs.takeWhile isBare with
    | [] => none
    | key => some (String.ofList key, cs.dropWhile isBare)

/-- A key of at most `room` parts with points between them, and blanks around each. -/
def keyPath? : Nat → List Char → Option (List String × List Char)
  | 0, _ => none
  | room + 1, cs => do
    let (key, rest) ← simpleKey? (skipBlanks cs)
    match skipBlanks rest with
    | '.' :: rest => (keyPath? room rest).map fun (path, rest) => (key :: path, rest)
    | rest => some ([key], rest)

end PropertyGraph.Toml
