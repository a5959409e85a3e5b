import PropertyGraph.Number.Binary64

/-!
# Shortest decimal digits

The fewest decimal digits that still denote a given binary number, and of those the ones
nearest to it.  For each digit count, from one up to seventeen, the two neighbours of the
number on that decimal grid are tried: if any point of the grid lies among the reals that
round to the number, one of these two does.
-/

namespace PropertyGraph

/-- A decimal number `digits · 10 ^ exponent`. -/
structure Decimal where
  digits : Nat
  exponent : Int
  deriving DecidableEq, Repr

namespace Binary64

/-- Whether `num / den < 10 ^ p`. -/
def below (num den : Nat) (p : Int) : Bool :=
  if 0 ≤ p then decide (num < den * Nat.pow 10 p.toNat)
  else decide (num * Nat.pow 10 (-p).toNat < den)

/-- The least `p` with `num / den < 10 ^ p`, searched upwards from a lower bound. -/
def magnitudeFrom (num den : Nat) : Nat → Int → Int
  | 0, p => p
  | tries + 1, p => if below num den p then p else magnitudeFrom num den tries (p + 1)

/-- The least `p` with `num / den < 10 ^ p`. -/
def magnitude (num den : Nat) : Int :=
  let log : Int := (num.log2 : Int) - (den.log2 : Int) - 1
  magnitudeFrom num den 4 (log * 30103 / 100000)

/-- The reals that round to a number: `low / den` to `high / den` around `value / den`, the
ends included when the mantissa is even. -/
structure Interval where
  low : Nat
  value : Nat
  high : Nat
  den : Nat
  closed : Bool

/-- The reals that round to a positive number.  Below a power of two the gap is half as
wide. -/
def interval (x : Binary64) : Interval :=
  let m := x.mantissa
  let up := if 0 ≤ x.exponent then Nat.pow 2 x.exponent.toNat else 1
  let den := if 0 ≤ x.exponent then 4 else 4 * Nat.pow 2 (-x.exponent).toNat
  let gap := if m = Nat.pow 2 52 ∧ minExponent < x.exponent then 1 else 2
  ⟨(4 * m - gap) * up, 4 * m * up, (4 * m + 2) * up, den, m % 2 == 0⟩

/-- The neighbour of the number on the grid of multiples of `10 ^ unit` that rounds to it,
if there is one; of two, the nearer, and the even one on a tie. -/
def onGrid? (i : Interval) (unit : Int) : Option Nat :=
  let up := if unit < 0 then Nat.pow 10 (-unit).toNat else 1
  let den := if unit < 0 then i.den else i.den * Nat.pow 10 unit.toNat
  let value := i.value * up
  let q := value / den
  let lower := q * den
  let upper := (q + 1) * den
  let hitsLower := decide (i.low * up < lower) || (i.closed && decide (i.low * up = lower))
  let hitsUpper := decide (upper < i.high * up) || (i.closed && decide (upper = i.high * up))
  match hitsLower, hitsUpper with
  | false, false => none
  | true, false => some q
  | false, true => some (q + 1)
  | true, true =>
    if value - lower < upper - value then some q
    else if upper - value < value - lower then some (q + 1)
    else some (if q % 2 = 0 then q else q + 1)

/-- The first grid with a hit, from `count` digits on.  A hit at the power of ten above the
number is written as that power. -/
def shortestFrom (i : Interval) (top : Int) : Nat → Nat → Decimal
  | 0, count => ⟨i.value / i.den, top - count⟩
  | tries + 1, count =>
    match onGrid? i (top - count) with
    | some q => if q = Nat.pow 10 count then ⟨1, top⟩ else ⟨q, top - count⟩
    | none => shortestFrom i top tries (count + 1)

/-- The shortest decimal that denotes the magnitude of a number other than zero. -/
def shortest (x : Binary64) : Decimal :=
  let i := x.interval
  shortestFrom i (magnitude i.value i.den) 17 1

end Binary64

/-- How a floating-point number is written: in positional notation while the exponent of
its first digit lies between `lowest` and `highest`, otherwise with an exponent that shows
its sign. -/
structure FloatStyle where
  lowest : Int
  highest : Int

namespace FloatStyle

/-- The decimal digits of a natural number. -/
def digitsOf (n : Nat) : List Char := Nat.toDigits 10 n

/-- A run of zeros. -/
def zeros (n : Nat) : List Char := List.replicate n '0'

/-- A positive decimal in positional notation; a whole number keeps one zero after its
point. -/
def positional (digits : List Char) (exponent : Int) : List Char :=
  if 0 ≤ exponent then digits ++ zeros exponent.toNat ++ ['.', '0']
  else
    let places := (-exponent).toNat
    if places < digits.length then
      digits.take (digits.length - places) ++ '.' :: digits.drop (digits.length - places)
    else '0' :: '.' :: zeros (places - digits.length) ++ digits

/-- A positive decimal with an exponent: one digit before the point and no point without a
second digit. -/
def scientific (digits : List Char) (first : Int) : List Char :=
  let body := match digits with
    | [] => []
    | [d] => [d]
    | d :: rest => d :: '.' :: rest
  let sign := if first < 0 then '-' else '+'
  body ++ 'e' :: sign :: digitsOf first.natAbs

/-- The text of a floating-point number. -/
def text (style : FloatStyle) (x : Binary64) : String :=
  let sign := if x.negative then ['-'] else []
  let body :=
    if x.isZero then ['0', '.', '0']
    else
      let d := x.shortest
      let digits := digitsOf d.digits
      let first : Int := d.exponent + (digits.length : Int) - 1
      if style.lowest ≤ first ∧ first ≤ style.highest then positional digits d.exponent
      else scientific digits first
  String.ofList (sign ++ body)

end FloatStyle
end PropertyGraph
