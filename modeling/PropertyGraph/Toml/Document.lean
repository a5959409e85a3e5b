import PropertyGraph.Toml.Number
import PropertyGraph.Toml.Table

/-!
# Reading TOML documents

A document is a sequence of lines: settings and headers.  A header opens a table, and the
settings that follow belong to it.

The functions that call each other carry the levels of nesting there is room for and a count
of calls still allowed; twice the length of the text is more than they can use, because
between any two calls for a value a character is consumed.
-/

namespace PropertyGraph.Toml

/-- The text after blanks, line breaks and comments, as they may stand between the items of an
array. -/
def skipLines : Nat → List Char → List Char
  | 0, cs => cs
  | steps + 1, cs =>
    match skipBlanks cs with
    | '#' :: rest =>
      match newline? (rest.dropWhile isVisible) with
      | some rest => skipLines steps rest
      | none => '#' :: rest
    | cs =>
      match newline? cs with
      | some rest => skipLines steps rest
      | none => cs

/-- The text after blanks, line breaks and comments. -/
def skipAll (cs : List Char) : List Char := skipLines (cs.length + 1) cs

/-- A value that does not contain others. -/
def scalar? (cs : List Char) : Option (Value × List Char) :=
  match cs with
  | '"' :: _ | '\'' :: _ => (string? cs).map fun (s, rest) => (.text s, rest)
  | 't' :: 'r' :: 'u' :: 'e' :: rest => some (.boolean true, rest)
  | 'f' :: 'a' :: 'l' :: 's' :: 'e' :: rest => some (.boolean false, rest)
  | cs =>
    match moment? cs with
    | some (s, rest) => some (.moment s, rest)
    | none =>
      match float? cs with
      | some (s, rest) => some (.float s, rest)
      | none => (integer? cs).map fun (n, rest) => (.integer n, rest)

mutual
/-- A value. -/
def value? : Nat → Nat → List Char → Option (Value × List Char)
  | 0, _, _ => none
  | calls + 1, room, cs =>
    match cs with
    | '[' :: rest =>
      match room with
      | 0 => none
      | room + 1 => (items? calls room rest).map fun (vs, rest) => (.array vs, rest)
    | '\x7b' :: rest =>
      match room with
      | 0 => none
      | room + 1 =>
        match skipBlanks rest with
        | '\x7d' :: rest => some (.table [], rest)
        | rest =>
          (members? calls room [] rest).map fun (es, rest) =>
            ((Entry.table false false es).toValue, rest)
    | cs => scalar? cs

/-- The items of an array up to its closing bracket.  A comma may follow the last one. -/
def items? : Nat → Nat → List Char → Option (List Value × List Char)
  | 0, _, _ => none
  | calls + 1, room, cs =>
    match skipAll cs with
    | ']' :: rest => some ([], rest)
    | cs =>
      match value? calls room cs with
      | none => none
      | some (v, rest) =>
        match skipAll rest with
        | ',' :: rest => (items? calls room rest).map fun (vs, rest) => (v :: vs, rest)
        | ']' :: rest => some ([v], rest)
        | _ => none

/-- The members of an inline table up to its closing brace, on one line; there is at least
one, and no comma follows the last. -/
def members? : Nat → Nat → Entries → List Char → Option (Entries × List Char)
  | 0, _, _, _ => none
  | calls + 1, room, es, cs =>
    match keyPath? maxDepth cs with
    | some (path, '=' :: rest) =>
      match value? calls room (skipBlanks rest) with
      | none => none
      | some (v, rest) =>
        match es.set path v with
        | none => none
        | some es =>
          match skipBlanks rest with
          | ',' :: rest => members? calls room es rest
          | '\x7d' :: rest => some (es, rest)
          | _ => none
    | _ => none
end

/-- What has been read of a document: the path of the last header, and the tables. -/
structure Progress where
  header : List String := []
  entries : Entries := []

/-- A header with its line, after its opening brackets. -/
def header? (closing : List Char) (cs : List Char) : Option (List String × List Char) := do
  let (path, rest) ← keyPath? maxDepth cs
  if closing.isPrefixOf rest then
    let rest ← endOfLine? (rest.drop closing.length)
    some (path, rest)
  else none

/-- A setting with its line. -/
def setting? (cs : List Char) : Option ((List String × Value) × List Char) := do
  match ← keyPath? maxDepth cs with
  | (path, '=' :: rest) =>
    let (v, rest) ← value? (2 * rest.length + 2) maxDepth (skipBlanks rest)
    let rest ← endOfLine? rest
    some ((path, v), rest)
  | _ => none

/-- Reads one line: nothing, a header or a setting. -/
def line? (p : Progress) (cs : List Char) : Option (Progress × List Char) :=
  match skipBlanks cs with
  | '[' :: '[' :: rest => do
    let (path, rest) ← header? [']', ']'] rest
    let entries ← p.entries.openItem path
    some ({ header := path, entries }, rest)
  | '[' :: rest => do
    let (path, rest) ← header? [']'] rest
    let entries ← p.entries.openTable path
    some ({ header := path, entries }, rest)
  | cs =>
    match endOfLine? cs with
    -- An empty line, or one with a comment only.
    | some rest => some (p, rest)
    | none => do
      let ((path, v), rest) ← setting? cs
      let entries ← p.entries.setWithin p.header path v
      some ({ p with entries }, rest)

/-- Reads all lines, of which there are at most as many as told. -/
def lines? : Nat → Progress → List Char → Option Progress
  | _, p, [] => some p
  | 0, _, _ => none
  | lines + 1, p, cs =>
    match line? p cs with
    | none => none
    | some (p, rest) => lines? lines p rest

/-- The table that a document holds.  A byte order mark may stand before it. -/
def parse? (s : String) : Option Value :=
  let cs := match s.toList with
    | '\ufeff' :: rest => rest
    | cs => cs
  (lines? cs.length {} cs).map fun p => (Entry.table false false p.entries).toValue

end PropertyGraph.Toml
