/-!
# Decimal numerals

Whole numbers written in the ten ASCII digits.  A sign is optional and leading zeros are
allowed; blanks, separators and an empty run of digits are not.
-/

namespace PropertyGraph.Text

/-- The value of an ASCII digit. -/
def digitValue? (c : Char) : Option Nat :=
  if '0' ≤ c ∧ c ≤ '9' then some (c.toNat - '0'.toNat) else none

/-- The value of a hexadecimal digit. -/
def hexValue? (c : Char) : Option Nat :=
  if '0' ≤ c ∧ c ≤ '9' then some (c.toNat - '0'.toNat)
  else if 'a' ≤ c ∧ c ≤ 'f' then some (c.toNat - 'a'.toNat + 10)
  else if 'A' ≤ c ∧ c ≤ 'F' then some (c.toNat - 'A'.toNat + 10)
  else none

/-- The character with the code that hexadecimal digits write. -/
def hexChar? (digits : List Char) : Option Char := do
  let values ← digits.mapM hexValue?
  let n := values.foldl (fun n d => 16 * n + d) 0
  if h : n.isValidChar then some (Char.ofNatAux n h) else none

/-- Continues reading digits after a number read so far. -/
def digitsFrom? (n : Nat) : List Char → Option Nat
  | [] => some n
  | c :: rest =>
    match digitValue? c with
    | some d => digitsFrom? (10 * n + d) rest
    | none => none

/-- The number written by a non-empty run of digits. -/
def natural? : List Char → Option Nat
  | [] => none
  | cs => digitsFrom? 0 cs

/-- An unsigned number of at most `bits` bits, with an optional plus sign. -/
def unsigned? (bits : Nat) (s : String) : Option Nat :=
  let digits := match s.toList with
    | '+' :: rest => rest
    | cs => cs
  (natural? digits).filter (· < Nat.pow 2 bits)

/-- The least and the greatest signed number of 64 bits. -/
def int64Min : Int := -9223372036854775808

@[inherit_doc int64Min]
def int64Max : Int := 9223372036854775807

/-- A signed number of 64 bits, with an optional sign. -/
def signed64? (s : String) : Option Int :=
  let value := match s.toList with
    | '-' :: rest => (natural? rest).map fun n => -(n : Int)
    | '+' :: rest => (natural? rest).map fun n => (n : Int)
    | cs => (natural? cs).map fun n => (n : Int)
  value.filter fun n => int64Min ≤ n ∧ n ≤ int64Max

end PropertyGraph.Text
