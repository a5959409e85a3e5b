import Mathlib.Data.Option.Basic
import PropertyGraph.Text.Numeral

/-!
# Numbers and their decimal text

A number that is written out is read back, and so every number has one text that it is written
as.  It has more texts that it is read from, with leading zeros or a plus sign; none of these is
ever written.
-/

namespace PropertyGraph.Text

theorem digitValue?_of_isDigit {c : Char} (h : c.isDigit = true) :
    digitValue? c = some (c.toNat - '0'.toNat) := by
  simp only [Char.isDigit, ge_iff_le, Bool.and_eq_true, decide_eq_true_eq] at h
  exact if_pos h

/-- Digits are read up to their end. -/
theorem digitsFrom?_eq {cs : List Char} (h : ∀ c ∈ cs, c.isDigit = true) :
    ∀ n, digitsFrom? n cs = some (Nat.ofDigitChars 10 cs n) := by
  induction cs with
  | nil => exact fun _ => rfl
  | cons c rest ih =>
    intro n
    rw [digitsFrom?, digitValue?_of_isDigit (h c List.mem_cons_self)]
    exact ih (fun d hd => h d (List.mem_cons_of_mem c hd)) _

/-- Only digits are written. -/
theorem isDigit_of_mem_toDigits {n : Nat} {c : Char} (h : c ∈ Nat.toDigits 10 n) :
    c.isDigit = true := Nat.isDigit_of_mem_toDigits (by decide) (by decide) h

/-- A natural number is read back from its digits. -/
theorem natural?_toDigits (n : Nat) : natural? (Nat.toDigits 10 n) = some n := by
  cases hcs : Nat.toDigits 10 n with
  | nil => exact absurd hcs Nat.toDigits_ne_nil
  | cons c rest =>
    rw [natural?, ← hcs, digitsFrom?_eq fun c hc => isDigit_of_mem_toDigits hc,
      Nat.ofDigitChars_ten_toDigits]
    exact List.cons_ne_nil _ _

theorem toList_toString_natCast (n : Nat) :
    (toString (n : Int)).toList = Nat.toDigits 10 n := by
  simp [toString, Int.repr]

theorem toList_toString_negSucc (n : Nat) :
    (toString (Int.negSucc n)).toList = '-' :: Nat.toDigits 10 (n + 1) := by
  simp [toString, Int.repr]

/-- A number of 64 bits is read back from its text. -/
theorem signed64?_toString (n : Int) :
    signed64? (toString n) = if int64Min ≤ n ∧ n ≤ int64Max then some n else none := by
  unfold signed64?
  dsimp only
  cases n with
  | ofNat n =>
    rw [Int.ofNat_eq_natCast, toList_toString_natCast]
    -- A digit is no sign.
    split
    next heq => exact absurd (isDigit_of_mem_toDigits (heq ▸ List.mem_cons_self)) (by decide)
    next heq => exact absurd (isDigit_of_mem_toDigits (heq ▸ List.mem_cons_self)) (by decide)
    next => simp [natural?_toDigits, Option.filter_some]
  | negSucc n =>
    rw [toList_toString_negSucc]
    simp [natural?_toDigits, Option.filter_some, Int.negSucc_eq]

end PropertyGraph.Text
