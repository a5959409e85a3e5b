import PropertyGraph.Json.Value

/-!
# JSON documents

A document is JSON text taken apart but not yet understood: numbers are still digits,
members stand in the order of the text and may repeat a key, and an escape that denotes no
character is noted but not refused.  What a reader never looks at is therefore never judged.

`Document.value?` reads a document as a value.  It refuses numbers beyond the finite range,
escapes that denote no character, and more levels of nesting than it has room for.
-/

namespace PropertyGraph

/-- A number as it is written. -/
structure Numeral where
  negative : Bool
  whole : List Nat
  fraction : List Nat := []
  exponent : Option (Bool × List Nat) := none

/-- JSON text taken apart.  A string or key that contains an escape without a character is
`none`. -/
inductive Document
  | null
  | bool (value : Bool)
  | number (numeral : Numeral)
  | string (value : Option String)
  | array (items : List Document)
  | object (members : List (Option String × Document))
  deriving Inhabited

namespace Numeral

/-- Appends digits to a number while it stays within 64 bits, and returns the digits left
over. -/
def fit (n : Nat) : List Nat → Nat × List Nat
  | [] => (n, [])
  | d :: rest => if 10 * n + d < Nat.pow 2 64 then fit (10 * n + d) rest else (n, d :: rest)

/-- The number that digits write. -/
def digitsValue (digits : List Nat) : Nat := digits.foldl (fun n d => 10 * n + d) 0

/-- The greatest power of ten that is a finite number. -/
def maxPower : Nat := 308

/-- Divides by the greatest power of ten as often as told, or until nothing is left. -/
def shrink : Nat → Binary64 → Option Binary64
  | 0, x => some x
  | times + 1, x =>
    if x.isZero then some x
    else do shrink times (← x.scaleDown? maxPower)

/-- A significand times a power of ten.  The significand is rounded first and the power is
applied in steps of at most `maxPower`, each of them rounded. -/
def scale (significand : Nat) (power : Int) : Option Binary64 :=
  let x := Binary64.ofInt significand
  if 0 ≤ power then
    if power ≤ maxPower then x.scaleUp? power.toNat
    else if x.isZero then some x else none
  else
    let places := (-power).toNat
    let steps := (places - 1) / maxPower
    (shrink steps x).bind fun y => y.scaleDown? (places - steps * maxPower)

/-- Whether the number is written without a point and without an exponent. -/
def isIntegral (n : Numeral) : Bool := n.fraction.isEmpty && n.exponent.isNone

/-- The greatest exponent that is still read digit by digit. -/
def maxExponent : Nat := Nat.pow 2 31 - 1

/-- The floating-point number that a numeral denotes.  Digits of the significand beyond
64 bits only shift it. -/
def toBinary64? (n : Numeral) : Option Binary64 :=
  let (lead, dropped) := fit 0 n.whole
  let (significand, unread) := fit lead n.fraction
  -- A digit left out before the point counts ten, one read after it a tenth.
  let shift : Int := (dropped.length : Int) - ((n.fraction.length : Int) - (unread.length : Int))
  let magnitude? := match n.exponent with
    | none => scale significand shift
    | some (down, digits) =>
      let e := digitsValue digits
      if maxExponent < e then
        if significand = 0 ∨ down then some (Binary64.zero false) else none
      else scale significand (if down then shift - (e : Int) else shift + (e : Int))
  magnitude?.map fun x => { x with negative := n.negative }

/-- The number that a numeral denotes: an integer when it is written as one and fits 64 bits
with or without a sign, otherwise a floating-point number.  A negative zero has no integer
form. -/
def value? (n : Numeral) : Option Json :=
  let (whole, dropped) := fit 0 n.whole
  if n.isIntegral && dropped.isEmpty then
    if !n.negative then some (.integer whole)
    else if whole = 0 then some (.float (Binary64.zero true))
    else if whole ≤ Nat.pow 2 63 then some (.integer (-(whole : Int)))
    else some (.float (Binary64.ofInt (-(whole : Int))))
  else n.toBinary64?.map .float

end Numeral

namespace Document

/-- How many levels of arrays and objects a value may have. -/
def maxDepth : Nat := 127

mutual
/-- The value of a document that may have `room` levels of arrays and objects. -/
def valueWithin? (room : Nat) : Document → Option Json
  | .null => some .null
  | .bool b => some (.bool b)
  | .number n => n.value?
  | .string s => s.map .string
  | .array items =>
    match room with
    | 0 => none
    | room + 1 => (itemsWithin? room items).map .array
  | .object members =>
    match room with
    | 0 => none
    | room + 1 => (membersWithin? room members).map fun ms => .object (Dict.collect ms)

/-- The values of the items of an array. -/
def itemsWithin? (room : Nat) : List Document → Option (List Json)
  | [] => some []
  | d :: rest =>
    match valueWithin? room d, itemsWithin? room rest with
    | some v, some vs => some (v :: vs)
    | _, _ => none

/-- The members of an object, in the order of the text. -/
def membersWithin? (room : Nat) : List (Option String × Document) → Option (List (String × Json))
  | [] => some []
  | (k, d) :: rest =>
    match k, valueWithin? room d, membersWithin? room rest with
    | some k, some v, some ms => some ((k, v) :: ms)
    | _, _, _ => none
end

/-- The value of a document.  Of members with one key the last counts. -/
def value? (d : Document) : Option Json := valueWithin? maxDepth d

end Document
end PropertyGraph
