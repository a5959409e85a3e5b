import PropertyGraph.Number.Binary64
import PropertyGraph.Text.Numeral
import PropertyGraph.Toml.Text

/-!
# Numbers, dates and times of TOML

Each function reads what stands at the start of a text and returns the rest.  Underscores may
separate digits and do not count.  A decimal number has no leading zeros.
-/

namespace PropertyGraph.Toml

/-- The digits at the start of a text; an underscore is part of them between two digits. -/
def digitRun (isDigit : Char → Bool) : List Char → List Char × List Char
  | [] => ([], [])
  | '_' :: c :: rest =>
    if isDigit c then before c (digitRun isDigit rest) else ([], '_' :: c :: rest)
  | c :: rest => if isDigit c then before c (digitRun isDigit rest) else ([], c :: rest)

/-- A run of at least one digit, which does not begin with an underscore. -/
def digits? (isDigit : Char → Bool) (cs : List Char) : Option (List Char × List Char) :=
  match cs with
  | '_' :: _ => none
  | cs =>
    match digitRun isDigit cs with
    | ([], _) => none
    | run => some run

/-- Whether a number has a minus sign, and the text after its sign. -/
def sign : List Char → Bool × List Char
  | '-' :: rest => (true, rest)
  | '+' :: rest => (false, rest)
  | cs => (false, cs)

/-- The digits of a decimal number: a zero, or digits that begin with another one. -/
def decimal? (cs : List Char) : Option (List Char × List Char) :=
  match cs with
  | '0' :: rest => some (['0'], rest)
  | cs => digits? Char.isDigit cs

/-- The number that digits of a base write. -/
def valueIn (base : Nat) (digits : List Char) : Nat :=
  (digits.filterMap Text.hexValue?).foldl (fun n d => base * n + d) 0

/-- An integer of 64 bits with a sign. -/
def integerWithin? (n : Int) : Option Int :=
  if Text.int64Min ≤ n ∧ n ≤ Text.int64Max then some n else none

/-- Whether a character is a digit of a base. -/
def isDigitOf (base : Nat) (c : Char) : Bool :=
  match Text.hexValue? c with
  | some d => decide (d < base)
  | none => false

/-- The digits of a base after the letters that announce it. -/
def based? (base : Nat) (cs : List Char) : Option (Int × List Char) := do
  let (ds, rest) ← digits? (isDigitOf base) cs
  (integerWithin? (valueIn base ds)).map fun n => (n, rest)

/-- An integer: decimal with a sign, or in base 16, 8 or 2. -/
def integer? (cs : List Char) : Option (Int × List Char) :=
  match cs with
  | '0' :: 'x' :: rest => based? 16 rest
  | '0' :: 'o' :: rest => based? 8 rest
  | '0' :: 'b' :: rest => based? 2 rest
  | cs => do
    let (negative, rest) := sign cs
    let (ds, rest) ← decimal? rest
    let n : Int := valueIn 10 ds
    (integerWithin? (if negative then -n else n)).map fun n => (n, rest)

/-- A fraction: a point and digits.  There may be none. -/
def fraction? : List Char → Option (List Char × List Char)
  | '.' :: rest => digits? Char.isDigit rest
  | cs => some ([], cs)

/-- An exponent with its sign.  There may be none. -/
def exponent? (cs : List Char) : Option (Int × List Char) :=
  let read (rest : List Char) : Option (Int × List Char) := do
    let (negative, rest) := sign rest
    let (ds, rest) ← digits? Char.isDigit rest
    let n : Int := valueIn 10 ds
    some (if negative then -n else n, rest)
  match cs with
  | 'e' :: rest | 'E' :: rest => read rest
  | cs => some (0, cs)

/-- Whether `digits · 10 ^ power` is beyond the finite floating-point numbers.  Outside a band
around the greatest of them the number of digits decides. -/
def overflows (digits : List Char) (power : Int) : Bool :=
  let n := valueIn 10 digits
  let places := ((digits.dropWhile (· == '0')).length : Int) + power
  if n = 0 ∨ places < 300 then false
  else if 320 < places then true
  else
    let (num, den) :=
      if 0 ≤ power then (n * Nat.pow 10 power.toNat, 1) else (n, Nat.pow 10 (-power).toNat)
    (Binary64.ofRatio? false num den).isNone

/-- A floating-point number, which has a fraction, an exponent or both.  One that is too great
is refused unless it is negative. -/
def finite? (cs : List Char) : Option (List Char) := do
  let (negative, rest) := sign cs
  let (whole, afterWhole) ← decimal? rest
  let (fraction, rest) ← fraction? afterWhole
  let (exponent, rest) ← exponent? rest
  if rest.length = afterWhole.length then none
  else if !negative && overflows (whole ++ fraction) (exponent - fraction.length) then none
  else some rest

/-- The text after a floating-point number, which may also be infinite or none at all. -/
def afterFloat? (cs : List Char) : Option (List Char) :=
  match (sign cs).2 with
  | 'i' :: 'n' :: 'f' :: rest => some rest
  | 'n' :: 'a' :: 'n' :: rest => some rest
  | _ => finite? cs

/-- A floating-point number. -/
def float? (cs : List Char) : Option (String × List Char) :=
  (afterFloat? cs).map fun rest => (String.ofList (cs.take (cs.length - rest.length)), rest)

/-- A number of exactly so many digits within bounds. -/
def fixed? (count low high : Nat) (cs : List Char) : Option (Nat × List Char) :=
  let ds := cs.take count
  if ds.length = count ∧ ds.all Char.isDigit then
    let n := valueIn 10 ds
    if low ≤ n ∧ n ≤ high then some (n, cs.drop count) else none
  else none

/-- The text after a given character. -/
def after? (c : Char) : List Char → Option (List Char)
  | [] => none
  | d :: rest => if c = d then some rest else none

/-- The number of days of a month. -/
def daysIn (year month : Nat) : Nat :=
  if month = 2 then
    if year % 4 = 0 ∧ (year % 100 ≠ 0 ∨ year % 400 = 0) then 29 else 28
  else if month = 4 ∨ month = 6 ∨ month = 9 ∨ month = 11 then 30
  else 31

/-- A date: year, month and day. -/
def date? (cs : List Char) : Option (List Char × List Char) := do
  let (year, rest) ← fixed? 4 0 9999 cs
  let (month, rest) ← fixed? 2 1 12 (← after? '-' rest)
  let (_, rest) ← fixed? 2 1 (daysIn year month) (← after? '-' rest)
  some (cs.take 10, rest)

/-- A fraction of a second, of which nine digits count and zeros at the end do not. -/
def secondFraction (cs : List Char) : List Char × List Char :=
  match cs with
  | '.' :: c :: rest =>
    if c.isDigit then
      let digits := ((c :: rest).takeWhile Char.isDigit).take 9
      match (digits.reverse.dropWhile (· == '0')).reverse with
      | [] => ([], rest.dropWhile Char.isDigit)
      | digits => ('.' :: digits, rest.dropWhile Char.isDigit)
    else ([], cs)
  | _ => ([], cs)

/-- A time: hour, minute and second, which may be a leap second. -/
def time? (cs : List Char) : Option (List Char × List Char) := do
  let (_, rest) ← fixed? 2 0 23 cs
  let (_, rest) ← fixed? 2 0 59 (← after? ':' rest)
  let (_, rest) ← fixed? 2 0 60 (← after? ':' rest)
  let (fraction, rest) := secondFraction rest
  some (cs.take 8 ++ fraction, rest)

/-- The distance from universal time. -/
def zone? (cs : List Char) : Option (List Char × List Char) :=
  match cs with
  | 'Z' :: rest | 'z' :: rest => some (['Z'], rest)
  | '+' :: rest | '-' :: rest => do
    let (_, rest) ← fixed? 2 0 23 rest
    let (_, rest) ← fixed? 2 0 59 (← after? ':' rest)
    some (cs.take 6, rest)
  | _ => none

/-- A time that follows a date. -/
def timeOfDate? (cs : List Char) : Option (List Char × List Char) :=
  match cs with
  | c :: rest =>
    if c == 'T' || c == 't' || c == ' ' then do
      let (time, rest) ← time? rest
      let (zone, rest) := (zone? rest).getD ([], rest)
      some ('T' :: time ++ zone, rest)
    else none
  | [] => none

/-- A date, a time or both, in their usual form. -/
def moment? (cs : List Char) : Option (String × List Char) := do
  let (written, rest) ← match date? cs with
    | some (date, rest) =>
      let (time, rest) := (timeOfDate? rest).getD ([], rest)
      some (date ++ time, rest)
    | none => time? cs
  some (String.ofList written, rest)

end PropertyGraph.Toml
