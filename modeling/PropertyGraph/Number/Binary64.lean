/-!
# Binary floating point of 64 bits

Finite numbers `± m · 2 ^ e` with a mantissa of at most 53 bits, held exactly.  Every
operation is a ratio of natural numbers rounded once, to the nearest number and to the even
mantissa on a tie, so nothing here depends on hardware arithmetic.
-/

namespace PropertyGraph

/-- A finite binary floating-point number of 64 bits: `± mantissa · 2 ^ exponent`. -/
structure Binary64 where
  negative : Bool
  mantissa : Nat
  exponent : Int
  deriving DecidableEq, Repr

namespace Binary64

/-- The exponent of the least positive number. -/
def minExponent : Int := -1074

/-- The greatest exponent of a finite number. -/
def maxExponent : Int := 971

/-- Zero with a sign. -/
def zero (negative : Bool) : Binary64 := ⟨negative, 0, minExponent⟩

instance : Inhabited Binary64 := ⟨zero false⟩

/-- Whether the number is a zero of either sign. -/
def isZero (x : Binary64) : Bool := x.mantissa == 0

/-- Numeric equality: the two zeros are equal, all other numbers only to themselves. -/
def same (x y : Binary64) : Bool := (x.isZero && y.isZero) || decide (x = y)

instance : BEq Binary64 := ⟨same⟩

theorem same_refl (x : Binary64) : (x == x) = true := by
  show same x x = true
  simp [same]

/-- The ratio `num / den` rounded to the nearest natural number, a tie to the even one. -/
def roundDiv (num den : Nat) : Nat :=
  let q := num / den
  let r := num % den
  if 2 * r < den then q
  else if 2 * r = den then (if q % 2 = 0 then q else q + 1)
  else q + 1

/-- The ratio `num / (den · 2 ^ e)` as a pair of natural numbers. -/
def scaled (num den : Nat) (e : Int) : Nat × Nat :=
  if 0 ≤ e then (num, den * Nat.pow 2 e.toNat) else (num * Nat.pow 2 (-e).toNat, den)

/-- The number nearest to `± num / den`, or nothing when that is beyond the finite numbers. -/
def ofRatio? (negative : Bool) (num den : Nat) : Option Binary64 :=
  if num = 0 ∨ den = 0 then some (zero negative)
  else
    -- At the guess the quotient has 53 or 54 bits; one bit less is one exponent more.
    let guess : Int := (num.log2 : Int) - (den.log2 : Int) - 53
    let (n, d) := scaled num den guess
    let fitted := if n / d < Nat.pow 2 53 then guess else guess + 1
    let e := max fitted minExponent
    let (n, d) := scaled num den e
    let m := roundDiv n d
    -- Rounding up may carry into one bit more.
    let (m, e) := if m = Nat.pow 2 53 then (Nat.pow 2 52, e + 1) else (m, e)
    if maxExponent < e then none
    else if m = 0 then some (zero negative)
    else some ⟨negative, m, e⟩

/-- The number nearest to an integer, which has to lie in the finite range. -/
def ofInt (n : Int) : Binary64 :=
  (ofRatio? (decide (n < 0)) n.natAbs 1).getD (zero false)

/-- The product with a power of ten that is itself rounded first, or nothing on overflow. -/
def scaleUp? (x : Binary64) (power : Nat) : Option Binary64 := do
  let p ← ofRatio? false (Nat.pow 10 power) 1
  let (n, d) := scaled (x.mantissa * p.mantissa) 1 (-(x.exponent + p.exponent))
  ofRatio? x.negative n d

/-- The quotient by a power of ten that is itself rounded first. -/
def scaleDown? (x : Binary64) (power : Nat) : Option Binary64 := do
  let p ← ofRatio? false (Nat.pow 10 power) 1
  let (n, d) := scaled x.mantissa p.mantissa (p.exponent - x.exponent)
  ofRatio? x.negative n d

end Binary64
end PropertyGraph
