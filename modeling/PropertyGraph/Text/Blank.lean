import PropertyGraph.Text.Span

/-!
# Blank characters

White space in the sense of the character database: the ASCII blanks, the two Latin-1 ones
and the spaces and separators of the general punctuation blocks.
-/

namespace PropertyGraph.Text

/-- The blank characters. -/
def blankSpans : List (Nat × Nat) := [
  (9, 13), (32, 32), (133, 133), (160, 160), (5760, 5760), (8192, 8202), (8232, 8233),
  (8239, 8239), (8287, 8287), (12288, 12288)]

/-- Whether a character is blank. -/
def isBlank (c : Char) : Bool := inSpans blankSpans c

/-- A text without the blanks at its end. -/
def trimEnd (cs : List Char) : List Char := (cs.reverse.dropWhile isBlank).reverse

/-- A text without the blanks at either end. -/
def trim (cs : List Char) : List Char := trimEnd (cs.dropWhile isBlank)

end PropertyGraph.Text
