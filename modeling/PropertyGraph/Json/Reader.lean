import PropertyGraph.Json.Document
import PropertyGraph.Text.Numeral

/-!
# Reading JSON text

The grammar of JSON, read from a list of characters.  Each function takes the text and
returns what it read with the text that is left.  The functions that call each other carry
a count of calls still allowed; twice the length of the text is more than they can use,
because between any two calls for a value a character is consumed.
-/

namespace PropertyGraph.Json

/-- The blanks of JSON. -/
def isSpace (c : Char) : Bool := c == ' ' || c == '\n' || c == '\t' || c == '\r'

/-- The text after its leading blanks. -/
def skip (cs : List Char) : List Char := cs.dropWhile isSpace

/-- Whether a character is an ASCII digit. -/
def isAsciiDigit (c : Char) : Bool := (Text.digitValue? c).isSome

/-- The run of digits at the start of a text, and the rest. -/
def digits (cs : List Char) : List Nat × List Char :=
  ((cs.takeWhile isAsciiDigit).filterMap Text.digitValue?, cs.dropWhile isAsciiDigit)

/-- A fraction: a point with at least one digit, or nothing. -/
def fraction? : List Char → Option (List Nat × List Char)
  | '.' :: rest =>
    match digits rest with
    | ([], _) => none
    | (ds, rest) => some (ds, rest)
  | cs => some ([], cs)

/-- The digits of an exponent after its sign. -/
def exponentDigits? (down : Bool) (cs : List Char) :
    Option (Option (Bool × List Nat) × List Char) :=
  match digits cs with
  | ([], _) => none
  | (ds, rest) => some (some (down, ds), rest)

/-- An exponent with at least one digit, or nothing. -/
def exponent? : List Char → Option (Option (Bool × List Nat) × List Char)
  | 'e' :: '-' :: rest | 'E' :: '-' :: rest => exponentDigits? true rest
  | 'e' :: '+' :: rest | 'E' :: '+' :: rest => exponentDigits? false rest
  | 'e' :: rest | 'E' :: rest => exponentDigits? false rest
  | cs => some (none, cs)

/-- A number without its sign.  A zero is not followed by further digits. -/
def unsigned? (negative : Bool) (cs : List Char) : Option (Numeral × List Char) := do
  let (whole, rest) := digits cs
  match whole with
  | [] => none
  | 0 :: _ :: _ => none
  | whole =>
    let (fraction, rest) ← fraction? rest
    let (exponent, rest) ← exponent? rest
    some (⟨negative, whole, fraction, exponent⟩, rest)

/-- A number. -/
def numeral? : List Char → Option (Numeral × List Char)
  | '-' :: rest => unsigned? true rest
  | cs => unsigned? false cs

/-- What one step of a string contributes: a character, or the 16-bit unit of an escape. -/
inductive Piece
  | char (c : Char)
  | unit (n : Nat)

/-- The unit that four hexadecimal digits write. -/
def unit? (a b c d : Char) : Option Nat := do
  let a ← Text.hexValue? a
  let b ← Text.hexValue? b
  let c ← Text.hexValue? c
  let d ← Text.hexValue? d
  some (((a * 16 + b) * 16 + c) * 16 + d)

/-- The character of a one-letter escape. -/
def simpleEscape? : Char → Option Char
  | '"' => some '"'
  | '\\' => some '\\'
  | '/' => some '/'
  | 'b' => some '\x08'
  | 'f' => some '\x0c'
  | 'n' => some '\n'
  | 'r' => some '\r'
  | 't' => some '\t'
  | _ => none

/-- The pieces of a string up to its closing quote. -/
def pieces? : List Char → Option (List Piece × List Char)
  | [] => none
  | '"' :: rest => some ([], rest)
  | '\\' :: 'u' :: a :: b :: c :: d :: rest => do
    let n ← unit? a b c d
    let (ps, rest) ← pieces? rest
    some (.unit n :: ps, rest)
  | '\\' :: e :: rest => do
    let c ← simpleEscape? e
    let (ps, rest) ← pieces? rest
    some (.char c :: ps, rest)
  | c :: rest =>
    if c.toNat < 0x20 then none
    else do
      let (ps, rest) ← pieces? rest
      some (.char c :: ps, rest)

/-- The characters of a string.  A leading unit has to be followed by a trailing one, which
stands nowhere else. -/
def characters? : List Piece → Option (List Char)
  | [] => some []
  | .char c :: rest => (characters? rest).map (c :: ·)
  | .unit n :: .unit m :: rest =>
    if 0xD800 ≤ n ∧ n < 0xDC00 then
      if 0xDC00 ≤ m ∧ m < 0xE000 then
        (characters? rest).map
          (Char.ofNat (0x10000 + (n - 0xD800) * 0x400 + (m - 0xDC00)) :: ·)
      else none
    else if 0xDC00 ≤ n ∧ n < 0xE000 then none
    else (characters? (.unit m :: rest)).map (Char.ofNat n :: ·)
  | .unit n :: rest =>
    if 0xD800 ≤ n ∧ n < 0xE000 then none else (characters? rest).map (Char.ofNat n :: ·)

/-- A string after its opening quote. -/
def string? (cs : List Char) : Option (Option String × List Char) :=
  (pieces? cs).map fun (ps, rest) => ((characters? ps).map String.ofList, rest)

mutual
/-- A value, with blanks before it. -/
def value? : Nat → List Char → Option (Document × List Char)
  | 0, _ => none
  | calls + 1, cs =>
    match skip cs with
    | 'n' :: 'u' :: 'l' :: 'l' :: rest => some (.null, rest)
    | 't' :: 'r' :: 'u' :: 'e' :: rest => some (.bool true, rest)
    | 'f' :: 'a' :: 'l' :: 's' :: 'e' :: rest => some (.bool false, rest)
    | '"' :: rest => (string? rest).map fun (s, rest) => (.string s, rest)
    | '[' :: rest =>
      match skip rest with
      | ']' :: rest => some (.array [], rest)
      | rest => (items? calls rest).map fun (ds, rest) => (.array ds, rest)
    | '\x7b' :: rest =>
      match skip rest with
      | '\x7d' :: rest => some (.object [], rest)
      | rest => (members? calls rest).map fun (ms, rest) => (.object ms, rest)
    | cs => (numeral? cs).map fun (n, rest) => (.number n, rest)

/-- The items of an array up to its closing bracket; there is at least one. -/
def items? : Nat → List Char → Option (List Document × List Char)
  | 0, _ => none
  | calls + 1, cs =>
    match value? calls cs with
    | none => none
    | some (d, rest) =>
      match skip rest with
      | ']' :: rest => some ([d], rest)
      | ',' :: rest => (items? calls rest).map fun (ds, rest) => (d :: ds, rest)
      | _ => none

/-- The members of an object up to its closing brace; there is at least one. -/
def members? : Nat → List Char → Option (List (Option String × Document) × List Char)
  | 0, _ => none
  | calls + 1, cs =>
    match skip cs with
    | '"' :: rest =>
      match string? rest with
      | none => none
      | some (key, rest) =>
        match skip rest with
        | ':' :: rest =>
          match value? calls rest with
          | none => none
          | some (d, rest) =>
            match skip rest with
            | '\x7d' :: rest => some ([(key, d)], rest)
            | ',' :: rest => (members? calls rest).map fun (ms, rest) => ((key, d) :: ms, rest)
            | _ => none
        | _ => none
    | _ => none
end

/-- The document that a text holds, with nothing but blanks around it. -/
def document? (s : String) : Option Document :=
  let cs := s.toList
  match value? (2 * cs.length + 2) cs with
  | some (d, rest) => if (skip rest).isEmpty then some d else none
  | none => none

/-- The value that a text holds. -/
def parse? (s : String) : Option Json := (document? s).bind Document.value?

end PropertyGraph.Json
