import PropertyGraph.Text.PrintTable

/-!
# Quoted text

Text shown to a reader inside double quotes: what would not be visible, or would be taken
for something else, is written as an escape.
-/

namespace PropertyGraph.Text

/-- The hexadecimal digits of a number, in lower case and without leading zeros. -/
def hexDigits (n : Nat) : List Char := Nat.toDigits 16 n

/-- How one character is shown inside double quotes.  Characters that join their neighbour
and characters that do not print are shown by their code point. -/
def quotedChar (c : Char) : List Char :=
  match c with
  | '\u0000' => ['\\', '0']
  | '\t' => ['\\', 't']
  | '\r' => ['\\', 'r']
  | '\n' => ['\\', 'n']
  | '\\' => ['\\', '\\']
  | '"' => ['\\', '"']
  | c =>
    if !inSpans extendingSpans c && inSpans printableSpans c then [c]
    else ['\\', 'u', '\x7b'] ++ hexDigits c.toNat ++ ['\x7d']

/-- A text in double quotes. -/
def quoted (s : String) : String :=
  String.ofList ('"' :: s.toList.flatMap quotedChar ++ ['"'])

end PropertyGraph.Text
