import PropertyGraph.Text.Numeral
import PropertyGraph.Yaml.Text

/-!
# Anchors, tags and directives of YAML

A tag is a handle and a suffix; the handle stands for text that directives give it.  A tag
between angle brackets is complete and has no handle.
-/

namespace PropertyGraph.Yaml

/-- The name of an anchor or an alias, which is followed by a blank or by a mark. -/
def anchorName? (cs : List Char) : Option (String × List Char) :=
  let rest := cs.dropWhile isWord
  match cs.takeWhile isWord with
  | [] => none
  | name =>
    let ends := match rest with
      | [] => true
      | c :: _ => endsWord rest || "?:,]\x7d%@`".toList.contains c
    if ends then some (String.ofList name, rest) else none

/-- Whether a character may stand in a tag; brackets and commas only where they are marked
off from the text around. -/
def isTagChar (bracketed : Bool) (c : Char) : Bool :=
  isWord c || ";/?:@&=+$.!~*'()".toList.contains c || (bracketed && ",[]".toList.contains c)

/-- The number that two hexadecimal digits write. -/
def octet? (a b : Char) : Option Nat := do
  let a ← Text.hexValue? a
  let b ← Text.hexValue? b
  some (16 * a + b)

/-- How many octets follow the first one of a character, and what the first one contributes. -/
def leadOctet? (n : Nat) : Option (Nat × Nat) :=
  if n < 0x80 then some (0, n)
  else if n < 0xc0 then none
  else if n < 0xe0 then some (1, n - 0xc0)
  else if n < 0xf0 then some (2, n - 0xe0)
  else if n < 0xf8 then some (3, n - 0xf0)
  else none

/-- What was read with one more character before it. -/
def precedeChar (c : Char) (r : Option (List Char × List Char)) :
    Option (List Char × List Char) :=
  r.map fun (cs, rest) => (c :: cs, rest)

/-- The text of a tag.  A percent sign escapes an octet; `pending` is how many octets of a
character are still to come after what `code` holds of it. -/
def tagText? (bracketed : Bool) (pending code : Nat) :
    List Char → Option (List Char × List Char)
  | '%' :: a :: b :: rest => do
    let n ← octet? a b
    if pending = 0 then
      let (more, code) ← leadOctet? n
      if more = 0 then precedeChar (Char.ofNat code) (tagText? bracketed 0 0 rest)
      else tagText? bracketed more code rest
    else if n < 0x80 ∨ 0xc0 ≤ n then none
    else
      let code := 64 * code + (n - 0x80)
      if pending = 1 then precedeChar (Char.ofNat code) (tagText? bracketed 0 0 rest)
      else tagText? bracketed (pending - 1) code rest
  | [] => if pending = 0 then some ([], []) else none
  | c :: rest =>
    if pending ≠ 0 ∨ c = '%' then none
    else if isTagChar bracketed c then precedeChar c (tagText? bracketed 0 0 rest)
    else some ([], c :: rest)

/-- The text of a tag that is not empty. -/
def fullTagText? (bracketed : Bool) (cs : List Char) : Option (List Char × List Char) :=
  match tagText? bracketed 0 0 cs with
  | some ([], _) => none
  | r => r

/-- The handle and the suffix of a tag after its first mark. -/
def tagParts? (cs : List Char) : Option ((String × String) × List Char) :=
  match cs with
  | '<' :: rest =>
    match fullTagText? true rest with
    | some (suffix, '>' :: rest) => some (("", String.ofList suffix), rest)
    | _ => none
  | cs =>
    let word := cs.takeWhile isWord
    match cs.dropWhile isWord with
    | '!' :: rest =>
      (fullTagText? false rest).map fun (suffix, rest) =>
        ((String.ofList ('!' :: word ++ ['!']), String.ofList suffix), rest)
    | rest =>
      (tagText? false 0 0 rest).map fun (more, rest) =>
        match word ++ more with
        | [] => (("", "!"), rest)
        | suffix => (("!", String.ofList suffix), rest)

/-- A tag after its first mark, which is followed by a blank, or by a comma in a flow. -/
def tag? (flow : Bool) (cs : List Char) : Option ((String × String) × List Char) := do
  let (parts, rest) ← tagParts? cs
  if endsWord rest || (flow && rest.head? == some ',') then some (parts, rest) else none

/-- What a directive says. -/
inductive Directive
  | version (major minor : Nat)
  | handle (handle text : String)

/-- A part of a version: at most nine digits. -/
def versionPart? (cs : List Char) : Option (Nat × List Char) :=
  let digits := cs.takeWhile Char.isDigit
  if digits.length ≤ 9 then
    (Text.natural? digits).map fun n => (n, cs.dropWhile Char.isDigit)
  else none

/-- The handle that a directive gives a text. -/
def handle? (cs : List Char) : Option (String × List Char) :=
  match cs with
  | '!' :: rest =>
    let word := rest.takeWhile isWord
    match rest.dropWhile isWord with
    | '!' :: rest => some (String.ofList ('!' :: word ++ ['!']), rest)
    | rest => if word.isEmpty then some ("!", rest) else none
  | _ => none

/-- What a directive of some name says. -/
def directiveValue? (name : String) (cs : List Char) : Option (Directive × List Char) :=
  match name with
  | "YAML" => do
    let (major, rest) ← versionPart? (skipBlanks cs)
    match rest with
    | '.' :: rest => (versionPart? rest).map fun (minor, rest) => (.version major minor, rest)
    | _ => none
  | "TAG" => do
    let (handle, rest) ← handle? (skipBlanks cs)
    if endsWord rest && !endsLine rest then
      let (text, rest) ← fullTagText? true (skipBlanks rest)
      if endsWord rest then some (.handle handle (String.ofList text), rest) else none
    else none
  | _ => none

/-- A directive with its line, after its first mark. -/
def directive? (cs : List Char) : Option (Directive × List Char) := do
  let rest := cs.dropWhile isWord
  if endsWord rest then
    let (d, rest) ← directiveValue? (String.ofList (cs.takeWhile isWord)) rest
    let rest ← endOfLine? rest
    some (d, rest)
  else none

end PropertyGraph.Yaml
