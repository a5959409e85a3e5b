import PropertyGraph.Json.Reader
import PropertyGraph.Json.Text
import PropertyGraph.Proofs.CharacterRuns
import PropertyGraph.Proofs.DecimalText
import PropertyGraph.Proofs.ShortestDigits

/-!
# Numbers are read back

A number is written as a run of digits, with a point, or with an exponent (`Spelling`).  Its
text is taken apart into the same digits (`numeral?_text`), and the digits are a number
again.  Only the second step can fail, and only beyond the finite range:

> `scale_shortest`: the decimal of a number is in the finite range, although the digits and the
> power of ten are each rounded before they are multiplied.

Near the upper end of the range the roundings could add up to more than there is room for.
They do so for none of the four greatest numbers, and there is room enough below these.
-/

namespace PropertyGraph

namespace Numeral

open Binary64

/-! ## Significands and powers of ten -/

/-- Quotients by the greatest power of ten stay where they started. -/
theorem exists_shrink (times : Nat) : ∀ x : Binary64, x.absValue ≤ 2 ^ 65 →
    ∃ y, shrink times x = some y ∧ y.absValue ≤ 2 ^ 65 := by
  induction times with
  | zero => exact fun x hx => ⟨x, rfl, hx⟩
  | succ times ih =>
    intro x hx
    unfold shrink
    split
    next => exact ⟨x, rfl, hx⟩
    next =>
      obtain ⟨y, hy, hle⟩ := exists_scaleDown? (by decide) (le_refl maxPower) hx
      rw [hy]
      exact ih y hle

section Scale

variable {significand : Nat} {power : Int} (hsignificand : significand < 2 ^ 64)

include hsignificand

theorem absValue_significand :
    (ofInt significand).absValue ≤ significand * (1 + 1 / 2 ^ 53) ∧
      (ofInt significand).absValue ≤ 2 ^ 65 := by
  have hlimit : (significand : ℚ) < limit := by
    calc (significand : ℚ) < (2 ^ 64 : Nat) := by exact_mod_cast hsignificand
      _ < ((2 ^ 54 - 1) * 2 ^ 970 : Nat) := Nat.cast_lt.2 (by decide +kernel)
      _ = limit := limit_eq.symm
  have hle := absValue_ofInt_natCast hlimit
  refine ⟨hle, hle.trans ?_⟩
  calc (significand : ℚ) * (1 + 1 / 2 ^ 53) ≤ 2 ^ 64 * (1 + 1 / 2 ^ 53) := by
        gcongr
        exact_mod_cast hsignificand.le
    _ ≤ 2 ^ 65 := by norm_num

/-- A significand that is divided by a power of ten is a number. -/
theorem scale_of_neg (hpower : power < 0) : (scale significand power).isSome = true := by
  obtain ⟨-, hle⟩ := absValue_significand hsignificand
  unfold scale
  dsimp only
  rw [if_neg (not_le.2 hpower)]
  obtain ⟨x, hx, hxle⟩ := exists_shrink (((-power).toNat - 1) / maxPower) _ hle
  -- What the steps leave of the power is at least one, and no more than one step.
  have hmod := Nat.mod_add_div' ((-power).toNat - 1) maxPower
  have hless := Nat.mod_lt ((-power).toNat - 1) (by decide : 0 < maxPower)
  have hrest : 0 < (-power).toNat - ((-power).toNat - 1) / maxPower * maxPower := by omega
  have hstep : (-power).toNat - ((-power).toNat - 1) / maxPower * maxPower ≤ 308 := by
    unfold maxPower at hmod hless ⊢
    omega
  obtain ⟨y, hy, -⟩ := exists_scaleDown? hrest hstep hxle
  rw [hx, Option.bind_some, hy]
  rfl

omit hsignificand in
/-- Only zero goes with a power of ten that is beyond the range. -/
theorem power_le_of_lt (hne : significand ≠ 0) {k : Nat}
    (h : (significand : ℚ) * 10 ^ k * (1 + 1 / 2 ^ 53) ^ 2 < limit) : k ≤ maxPower := by
  by_contra hgt
  unfold maxPower at hgt
  have hone : (1 : ℚ) ≤ significand := by exact_mod_cast Nat.one_le_iff_ne_zero.2 hne
  have hlimit : limit < (10 : ℚ) ^ 309 := by
    calc limit = ((2 ^ 54 - 1) * 2 ^ 970 : Nat) := limit_eq
      _ < (10 ^ 309 : Nat) := Nat.cast_lt.2 (by decide +kernel)
      _ = (10 : ℚ) ^ 309 := by rw [Nat.cast_pow, Nat.cast_ofNat]
  refine absurd (h.trans hlimit) (not_lt.2 ?_)
  calc (10 : ℚ) ^ 309 ≤ 10 ^ k := pow_le_pow_right₀ (by norm_num) (by omega)
    _ = 1 * 10 ^ k * 1 := by ring
    _ ≤ significand * 10 ^ k * (1 + 1 / 2 ^ 53) ^ 2 := by
      gcongr
      norm_num

/-- A significand that is multiplied by a power of ten is a number, if the roundings of both
leave room. -/
theorem scale_of_lt (h : (significand : ℚ) * 10 ^ power * (1 + 1 / 2 ^ 53) ^ 2 < limit) :
    (scale significand power).isSome = true := by
  rcases lt_or_ge power 0 with hneg | hnonneg
  · exact scale_of_neg hsignificand hneg
  · obtain ⟨k, rfl⟩ := Int.eq_ofNat_of_zero_le hnonneg
    obtain ⟨hle, -⟩ := absValue_significand hsignificand
    rw [zpow_natCast] at h
    unfold scale
    dsimp only
    rw [if_pos hnonneg]
    split
    next hpower =>
      have hroom : (ofInt significand).absValue * (10 ^ k * (1 + 1 / 2 ^ 53)) < limit := by
        refine lt_of_le_of_lt ?_ h
        calc (ofInt significand).absValue * (10 ^ k * (1 + 1 / 2 ^ 53))
            ≤ (significand : ℚ) * (1 + 1 / 2 ^ 53) * (10 ^ k * (1 + 1 / 2 ^ 53)) := by gcongr
          _ = (significand : ℚ) * 10 ^ k * (1 + 1 / 2 ^ 53) ^ 2 := by ring
      obtain ⟨y, hy⟩ := exists_scaleUp? (Int.ofNat_le.1 hpower) hroom
      rw [Int.toNat_natCast, hy]
      rfl
    next hpower =>
      have hzero : significand = 0 := by
        by_contra hne
        exact hpower (Int.ofNat_le.2 (power_le_of_lt hne h))
      subst hzero
      rfl

end Scale

/-- Below the four greatest numbers there is room for two roundings. -/
theorem room_below {x : Binary64} (hfits : x.Fits)
    (h : x.exponent = Binary64.maxExponent → x.mantissa < 2 ^ 53 - 4) :
    ((x.mantissa : ℚ) + 1 / 2) * 2 ^ x.exponent * (1 + 1 / 2 ^ 53) ^ 2 < limit := by
  have hunit : (0 : ℚ) < 2 ^ (Binary64.maxExponent - 1) := by positivity
  have hlast := two_zpow_maxExponent
  have hless : x.exponent < Binary64.maxExponent →
      (2 : ℚ) ^ x.exponent ≤ 2 ^ (Binary64.maxExponent - 1) :=
    fun hlt => zpow_le_zpow_right₀ one_le_two (Int.le_sub_one_of_lt hlt)
  unfold limit
  generalize (2 : ℚ) ^ (Binary64.maxExponent - 1) = unit at hunit hlast hless ⊢
  -- A smaller exponent leaves half of the range free, and the last one five units.
  have hle : ((x.mantissa : ℚ) + 1 / 2) * 2 ^ x.exponent ≤ (2 ^ 54 - 9) * unit := by
    rcases hfits.highest.lt_or_eq with hlt | heq
    · have hmantissa : (x.mantissa : ℚ) + 1 ≤ 2 ^ 53 := by exact_mod_cast hfits.mantissa
      calc ((x.mantissa : ℚ) + 1 / 2) * 2 ^ x.exponent ≤ 2 ^ 53 * unit := by
            gcongr
            · linarith
            · exact hless hlt
        _ ≤ (2 ^ 54 - 9) * unit := by
            gcongr
            norm_num
    · have hmantissa : (x.mantissa : ℚ) + 5 ≤ 2 ^ 53 := by
        have hlt := h heq
        exact_mod_cast (by omega : x.mantissa + 5 ≤ 2 ^ 53)
      rw [heq, hlast, ← mul_assoc]
      gcongr
      linarith
  calc ((x.mantissa : ℚ) + 1 / 2) * 2 ^ x.exponent * (1 + 1 / 2 ^ 53) ^ 2
      ≤ (2 ^ 54 - 9) * unit * (1 + 1 / 2 ^ 53) ^ 2 := by gcongr
    _ = ((2 ^ 54 - 9) * (1 + 1 / 2 ^ 53) ^ 2) * unit := by ring
    _ < (2 ^ 54 - 1) * unit := by
      gcongr
      norm_num

/-- The decimals of the four greatest numbers are in the range as well. -/
theorem scale_shortest_greatest (negative : Bool) {m : Nat} (hlow : 2 ^ 53 - 4 ≤ m)
    (hhigh : m < 2 ^ 53) :
    (scale (shortest ⟨negative, m, Binary64.maxExponent⟩).digits
      (shortest ⟨negative, m, Binary64.maxExponent⟩).exponent).isSome = true := by
  have hfour : m = 9007199254740988 ∨ m = 9007199254740989 ∨ m = 9007199254740990 ∨
      m = 9007199254740991 := by omega
  rcases hfour with rfl | rfl | rfl | rfl <;> cases negative <;> decide +kernel

/-- **Decimals of numbers.**  The shortest decimal of a number is in the finite range. -/
theorem scale_shortest {x : Binary64} (hpos : 0 < x.mantissa) (hfits : x.Fits) :
    (scale x.shortest.digits x.shortest.exponent).isSome = true := by
  obtain ⟨-, hdigits, -, -, hle⟩ := shortest_spec hpos hfits
  have hsignificand : x.shortest.digits < 2 ^ 64 := lt_of_le_of_lt hdigits (by decide)
  -- The bound is too coarse for the four greatest numbers, whose decimals are looked at one by one.
  by_cases hgreat : x.exponent = Binary64.maxExponent ∧ 2 ^ 53 - 4 ≤ x.mantissa
  · obtain ⟨negative, m, e⟩ := x
    obtain ⟨rfl, hlow⟩ := hgreat
    exact scale_shortest_greatest negative hlow hfits.mantissa
  · refine scale_of_lt hsignificand (lt_of_le_of_lt ?_ (room_below hfits ?_))
    · gcongr
    · intro hlast
      exact not_le.1 fun hlow => hgreat ⟨hlast, hlow⟩

/-! ## Digits -/

/-- The values of a run of digits. -/
def digitValues (cs : List Char) : List Nat := cs.filterMap Text.digitValue?

/-- A run of digits. -/
def AllDigits (cs : List Char) : Prop := ∀ c ∈ cs, c.isDigit = true

theorem AllDigits.append {cs ds : List Char} (hcs : AllDigits cs) (hds : AllDigits ds) :
    AllDigits (cs ++ ds) := List.forall_mem_append.2 ⟨hcs, hds⟩

theorem allDigits_toDigits (n : Nat) : AllDigits (Nat.toDigits 10 n) :=
  fun _ hc => Text.isDigit_of_mem_toDigits hc

theorem allDigits_zeros (n : Nat) : AllDigits (FloatStyle.zeros n) := by
  intro c hc
  rw [List.eq_of_mem_replicate hc]
  decide

/-- More digits make a number no smaller. -/
theorem le_ofDigitChars (cs : List Char) (n : Nat) : n ≤ Nat.ofDigitChars 10 cs n := by
  rw [Nat.ofDigitChars_eq_ofDigitChars_zero]
  exact (Nat.le_mul_of_pos_left n (by positivity)).trans (Nat.le_add_right _ _)

/-- Digits are appended as long as the number that they write fits 64 bits. -/
theorem fit_digitValues {cs : List Char} (hcs : AllDigits cs) : ∀ n : Nat,
    Nat.ofDigitChars 10 cs n < 2 ^ 64 →
      fit n (digitValues cs) = (Nat.ofDigitChars 10 cs n, []) := by
  induction cs with
  | nil => exact fun _ _ => rfl
  | cons c rest ih =>
    intro n hlt
    have hrest : AllDigits rest := fun d hd => hcs d (List.mem_cons_of_mem c hd)
    have hvalue := Text.digitValue?_of_isDigit (hcs c List.mem_cons_self)
    rw [Nat.ofDigitChars_cons] at hlt ⊢
    have hnow : 10 * n + (c.toNat - '0'.toNat) < Nat.pow 2 64 :=
      (le_ofDigitChars rest _).trans_lt hlt
    rw [digitValues, List.filterMap_cons_some hvalue, fit, if_pos hnow]
    exact ih hrest _ hlt

theorem length_digitValues {cs : List Char} (hcs : AllDigits cs) :
    (digitValues cs).length = cs.length := by
  induction cs with
  | nil => rfl
  | cons c rest ih =>
    have hvalue := Text.digitValue?_of_isDigit (hcs c List.mem_cons_self)
    rw [digitValues, List.filterMap_cons_some hvalue, List.length_cons, List.length_cons]
    exact congrArg Nat.succ (ih fun d hd => hcs d (List.mem_cons_of_mem c hd))

/-- The number that digits write is the number of their values. -/
theorem digitsValue_digitValues {cs : List Char} (hcs : AllDigits cs) :
    digitsValue (digitValues cs) = Nat.ofDigitChars 10 cs 0 := by
  unfold digitsValue Nat.ofDigitChars
  generalize 0 = n
  induction cs generalizing n with
  | nil => rfl
  | cons c rest ih =>
    have hvalue := Text.digitValue?_of_isDigit (hcs c List.mem_cons_self)
    rw [digitValues, List.filterMap_cons_some hvalue, List.foldl_cons, List.foldl_cons]
    exact ih (fun d hd => hcs d (List.mem_cons_of_mem c hd)) _

end Numeral

/-! ## Spellings -/

/-- A number as it is spelled: its sign, the digits before and after the point, and its
exponent. -/
structure Spelling where
  negative : Bool
  whole : List Char
  fraction : List Char := []
  exponent : Option (Bool × List Char) := none

namespace Spelling

open Numeral

/-- The digits after the point, with the point unless there are none. -/
def fractionText (s : Spelling) : List Char :=
  match s.fraction with
  | [] => []
  | ds => '.' :: ds

/-- The exponent, with its sign. -/
def exponentText (s : Spelling) : List Char :=
  match s.exponent with
  | none => []
  | some (down, ds) => 'e' :: (if down then '-' else '+') :: ds

/-- The number without its sign. -/
def unsignedText (s : Spelling) : List Char := s.whole ++ s.fractionText ++ s.exponentText

/-- The whole text. -/
def text (s : Spelling) : List Char := (if s.negative then ['-'] else []) ++ s.unsignedText

/-- The values of the digits. -/
def numeral (s : Spelling) : Numeral where
  negative := s.negative
  whole := digitValues s.whole
  fraction := digitValues s.fraction
  exponent := s.exponent.map fun e => (e.1, digitValues e.2)

/-- Digits stand where digits have to be, and no zero leads others. -/
structure WellFormed (s : Spelling) : Prop where
  whole : AllDigits s.whole
  fraction : AllDigits s.fraction
  exponent : ∀ e ∈ s.exponent, AllDigits e.2 ∧ e.2 ≠ []
  leading : s.whole ≠ [] ∧ (s.whole.head? = some '0' → s.whole = ['0'])

/-- All digits as one number. -/
def significand (s : Spelling) : Nat := Nat.ofDigitChars 10 (s.whole ++ s.fraction) 0

/-- The exponent as a number. -/
def exponentValue (s : Spelling) : Int :=
  match s.exponent with
  | none => 0
  | some (down, ds) =>
    if down then -(Nat.ofDigitChars 10 ds 0 : Int) else (Nat.ofDigitChars 10 ds 0 : Int)

/-- A spelling of at most 64 bits denotes a number if its significand and power do. -/
theorem isSome_toBinary64? {s : Spelling} (h : s.WellFormed) (hfit : s.significand < 2 ^ 64)
    (hexponent : s.exponentValue.natAbs ≤ Numeral.maxExponent)
    (hscale : (scale s.significand (s.exponentValue - s.fraction.length)).isSome = true) :
    s.numeral.toBinary64?.isSome = true := by
  -- The digits are read in two runs, and nothing is dropped from either.
  have hsplit : s.significand = Nat.ofDigitChars 10 s.fraction
      (Nat.ofDigitChars 10 s.whole 0) := Nat.ofDigitChars_append 0
  rw [hsplit] at hfit hscale
  have hwhole := fit_digitValues h.whole 0 ((le_ofDigitChars _ _).trans_lt hfit)
  have hfraction := fit_digitValues h.fraction _ hfit
  have hlength := length_digitValues h.fraction
  unfold toBinary64? numeral
  dsimp only
  rw [hwhole]
  dsimp only
  rw [hfraction]
  dsimp only
  rw [Option.isSome_map, hlength, List.length_nil]
  unfold exponentValue at hexponent hscale
  cases hcase : s.exponent with
  | none =>
    rw [hcase] at hscale
    simpa using hscale
  | some e =>
    obtain ⟨down, ds⟩ := e
    have hds := (h.exponent (down, ds) hcase).1
    rw [hcase] at hexponent hscale
    dsimp only [Option.map_some]
    rw [digitsValue_digitValues hds]
    cases down with
    | true =>
      rw [if_neg (by simpa using hexponent)]
      simpa [sub_eq_add_neg, add_comm] using hscale
    | false =>
      rw [if_neg (by simpa using hexponent)]
      simpa [sub_eq_add_neg, add_comm] using hscale

end Spelling

namespace Json

open Numeral

/-! ## Texts of numbers -/

/-- What may stand after a value: the end of the text, or what separates it from the next. -/
def Ended (rest : List Char) : Prop := ∀ c ∈ rest.head?, c = ',' ∨ c = ']' ∨ c = '\x7d'

/-- No digit comes next. -/
def NoDigit (rest : List Char) : Prop := ∀ c ∈ rest.head?, c.isDigit = false

theorem Ended.noDigit {rest : List Char} (h : Ended rest) : NoDigit rest := by
  intro c hc
  rcases h c hc with rfl | rfl | rfl <;> decide

theorem isAsciiDigit_eq (c : Char) : isAsciiDigit c = c.isDigit := by
  cases h : c.isDigit with
  | true => rw [isAsciiDigit, Text.digitValue?_of_isDigit h, Option.isSome_some]
  | false =>
    have hno : ¬ ('0' ≤ c ∧ c ≤ '9') := by
      intro hc
      have hdigit : c.isDigit = true := by
        simp only [Char.isDigit, ge_iff_le, Bool.and_eq_true, decide_eq_true_eq]
        exact hc
      rw [h] at hdigit
      cases hdigit
    rw [isAsciiDigit, Text.digitValue?, if_neg hno, Option.isSome_none]

/-- A run of digits is read to its end. -/
theorem digits_append {cs rest : List Char} (hcs : AllDigits cs) (hrest : NoDigit rest) :
    digits (cs ++ rest) = (digitValues cs, rest) := by
  have hall : ∀ c ∈ cs, isAsciiDigit c = true := fun c hc => (isAsciiDigit_eq c).trans (hcs c hc)
  have hstop : Stops isAsciiDigit rest := fun c hc => (isAsciiDigit_eq c).trans (hrest c hc)
  obtain ⟨hfront, hback⟩ := span_eq_iff.2 ⟨rfl, hall, hstop⟩
  unfold digits
  rw [hfront, hback]
  rfl

/-- A run of digits that is not empty has values. -/
theorem exists_digitValues {cs : List Char} (hcs : AllDigits cs) (hne : cs ≠ []) :
    ∃ d ds, digitValues cs = d :: ds := by
  refine List.exists_cons_of_ne_nil fun hnil => hne ?_
  rw [← List.length_eq_zero_iff, ← length_digitValues hcs, hnil, List.length_nil]

/-- What comes after the digits before the point is neither a digit nor, behind the fraction,
another point. -/
theorem noDigit_exponentText (s : Spelling) {rest : List Char} (hrest : Ended rest) :
    NoDigit (s.exponentText ++ rest) ∧ (s.exponentText ++ rest).head? ≠ some '.' := by
  unfold Spelling.exponentText
  cases s.exponent with
  | none =>
    refine ⟨hrest.noDigit, fun heq => ?_⟩
    rcases hrest '.' heq with hc | hc | hc <;> cases hc
  | some e =>
    refine ⟨fun c hc => ?_, by simp⟩
    cases hc
    decide

theorem noDigit_fractionText (s : Spelling) {rest : List Char} (hrest : NoDigit rest) :
    NoDigit (s.fractionText ++ rest) := by
  unfold Spelling.fractionText
  cases s.fraction with
  | nil => exact hrest
  | cons c cs =>
    intro c hc
    cases hc
    decide

section Texts

variable {s : Spelling} (h : s.WellFormed) {rest : List Char}

include h

theorem fraction?_fractionText (hrest : NoDigit rest) (hpoint : rest.head? ≠ some '.') :
    fraction? (s.fractionText ++ rest) = some (digitValues s.fraction, rest) := by
  unfold Spelling.fractionText
  cases hfraction : s.fraction with
  | nil =>
    unfold fraction?
    split
    next rest' heq =>
      rw [List.nil_append] at heq
      rw [heq] at hpoint
      exact absurd rfl hpoint
    next => rfl
  | cons c cs =>
    have hdigits : AllDigits (c :: cs) := hfraction ▸ h.fraction
    obtain ⟨d, ds, hvalues⟩ := exists_digitValues hdigits (List.cons_ne_nil c cs)
    dsimp only
    rw [List.cons_append, fraction?, digits_append hdigits hrest, hvalues]

theorem exponent?_exponentText (hrest : Ended rest) :
    exponent? (s.exponentText ++ rest) = some (s.numeral.exponent, rest) := by
  unfold Spelling.exponentText Spelling.numeral
  dsimp only
  cases hexponent : s.exponent with
  | none =>
    have he : rest.head? ≠ some 'e' ∧ rest.head? ≠ some 'E' := by
      constructor <;> intro heq <;> rcases hrest _ heq with hc | hc | hc <;> cases hc
    dsimp only [Option.map_none]
    rw [List.nil_append]
    unfold exponent?
    split
    all_goals first | rfl | exact absurd rfl he.1 | exact absurd rfl he.2
  | some e =>
    obtain ⟨down, cs⟩ := e
    obtain ⟨hdigits, hne⟩ := h.exponent (down, cs) hexponent
    obtain ⟨d, ds, hvalues⟩ := exists_digitValues hdigits hne
    cases down <;>
      simp [exponent?, exponentDigits?, digits_append hdigits hrest.noDigit, hvalues]

/-- No zero leads the digits before the point. -/
theorem digitValues_whole_ne (d : Nat) (ds : List Nat) : digitValues s.whole ≠ 0 :: d :: ds := by
  intro heq
  cases hwhole : s.whole with
  | nil => exact h.leading.1 hwhole
  | cons c cs =>
    have hdigit : c.isDigit = true := h.whole c (by rw [hwhole]; exact List.mem_cons_self)
    have hvalue := Text.digitValue?_of_isDigit hdigit
    rw [hwhole, digitValues, List.filterMap_cons_some hvalue, List.cons.injEq] at heq
    have hzero : c = '0' := by
      simp only [Char.isDigit, ge_iff_le, Bool.and_eq_true, decide_eq_true_eq] at hdigit
      have hle : '0'.toNat ≤ c.toNat := hdigit.1
      exact Char.toNat_inj.1 (by omega)
    have hsingle := h.leading.2 (by rw [hwhole, hzero]; rfl)
    rw [hwhole, List.cons.injEq] at hsingle
    rw [hsingle.2] at heq
    cases heq.2

/-- The text of a number without its sign is taken apart into its digits. -/
theorem unsigned?_unsignedText (hrest : Ended rest) :
    unsigned? s.negative (s.unsignedText ++ rest) = some (s.numeral, rest) := by
  obtain ⟨hdigit, hpoint⟩ := noDigit_exponentText s hrest
  unfold unsigned? Spelling.unsignedText
  rw [List.append_assoc, List.append_assoc, digits_append h.whole (noDigit_fractionText s hdigit)]
  dsimp only
  split
  next heq =>
    obtain ⟨d, ds, hvalues⟩ := exists_digitValues h.whole h.leading.1
    rw [hvalues] at heq
    cases heq
  next heq => exact absurd heq (digitValues_whole_ne h _ _)
  next =>
    rw [fraction?_fractionText h hdigit hpoint]
    simp only [bind, Option.bind_some, exponent?_exponentText h hrest]
    rfl

/-- **Texts of numbers.**  The text of a number is taken apart into its digits. -/
theorem numeral?_text (hrest : Ended rest) :
    numeral? (s.text ++ rest) = some (s.numeral, rest) := by
  have hunsigned := unsigned?_unsignedText h hrest
  unfold Spelling.text
  cases hnegative : s.negative with
  | true =>
    rw [hnegative] at hunsigned
    exact hunsigned
  | false =>
    rw [hnegative] at hunsigned
    unfold numeral?
    split
    next rest' heq =>
      -- A digit is no sign.
      cases hwhole : s.whole with
      | nil => exact absurd hwhole h.leading.1
      | cons c cs =>
        simp only [Spelling.unsignedText, hwhole, List.cons_append, if_neg, List.nil_append,
          Bool.false_eq_true, not_false_eq_true, List.cons.injEq] at heq
        have hdigit : c.isDigit = true := h.whole c (by rw [hwhole]; exact List.mem_cons_self)
        rw [heq.1] at hdigit
        cases hdigit
    next => exact hunsigned

end Texts

end Json
end PropertyGraph
