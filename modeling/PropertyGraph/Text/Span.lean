/-!
# Code point ranges

Character classes are given by the code points they cover, as inclusive ranges, and case
mappings as stretches of letters whose images keep one distance.  Both are data of the
Unicode character database, all of version 16; this file holds only how they are read.
-/

namespace PropertyGraph.Text

/-- Whether a character lies in one of the inclusive code point ranges. -/
def inSpans (spans : List (Nat × Nat)) (c : Char) : Bool :=
  spans.any fun s => decide (s.1 ≤ c.toNat) && decide (c.toNat ≤ s.2)

/-- A stretch of code points, `step` apart, whose images keep one distance: `first` goes to
`image`, the next member to the same distance beyond `image`. -/
structure Run where
  first : Nat
  last : Nat
  step : Nat
  image : Nat

/-- The image of a code point, if it is a member of the stretch. -/
def Run.image? (r : Run) (n : Nat) : Option Nat :=
  if r.first ≤ n ∧ n ≤ r.last ∧ (n - r.first) % r.step = 0 then some (r.image + (n - r.first))
  else none

/-- The image of a code point under the first stretch that has it as a member. -/
def imageIn (runs : List Run) (n : Nat) : Option Nat :=
  runs.findSome? fun r => r.image? n

end PropertyGraph.Text
