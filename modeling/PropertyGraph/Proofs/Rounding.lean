import Mathlib.Algebra.Order.Field.Power
import Mathlib.Algebra.Order.Ring.Abs
import Mathlib.Data.Rat.Floor
import Mathlib.Tactic.FieldSimp
import Mathlib.Tactic.Linarith
import Mathlib.Tactic.Positivity
import Mathlib.Tactic.Ring
import PropertyGraph.Number.Binary64

/-!
# Rounding to binary numbers

A ratio is rounded by dividing natural numbers.  Here the outcome is compared with the ratio
itself, as a rational number.

> `exists_ofRatio?`: a ratio below `limit` is rounded to a number, which is off by half a unit
> of its last place at most.

The bound is given relative to the ratio, with the least positive number for the ratios that
are too small for a full mantissa; products and quotients need no more than that.
-/

namespace PropertyGraph.Binary64

/-- The rational that a number stands for, apart from its sign. -/
def absValue (x : Binary64) : ℚ := x.mantissa * 2 ^ x.exponent

/-- The least rational that is rounded beyond the finite numbers. -/
def limit : ℚ := (2 ^ 54 - 1) * 2 ^ (maxExponent - 1)

theorem absValue_nonneg (x : Binary64) : 0 ≤ x.absValue := by
  unfold absValue
  positivity

@[simp] theorem absValue_zero (negative : Bool) : (zero negative).absValue = 0 := by
  simp [absValue, zero]

/-! ## Division of natural numbers -/

/-- The pair of natural numbers is the ratio in units of a power of two. -/
theorem div_scaled (num den : Nat) (e : Int) :
    ((scaled num den e).1 : ℚ) / (scaled num den e).2 = num / den / 2 ^ e := by
  unfold scaled
  split
  next h =>
    obtain ⟨k, rfl⟩ := Int.eq_ofNat_of_zero_le h
    simp [div_div]
  next h =>
    obtain ⟨k, rfl⟩ := Int.exists_eq_neg_ofNat (le_of_not_ge h)
    simp
    ring

theorem scaled_snd_pos {den : Nat} (h : 0 < den) (num : Nat) (e : Int) :
    0 < (scaled num den e).2 := by
  unfold scaled
  split <;> simp [h]

/-- A ratio is the quotient of natural numbers and the remainder, as a share of the divisor. -/
theorem div_eq_quotient_add {den : Nat} (h : 0 < den) (num : Nat) :
    (num : ℚ) / den = (num / den : Nat) + (num % den : Nat) / den := by
  have hden : (0 : ℚ) < den := by exact_mod_cast h
  rw [div_eq_iff hden.ne', add_mul, div_mul_cancel₀ _ hden.ne']
  exact_mod_cast (Nat.div_add_mod' num den).symm

/-- With a remainder up to the half the quotient is near enough. -/
theorem abs_quotient_sub_le {num den : Nat} (h : 0 < den) (hle : 2 * (num % den) ≤ den) :
    |((num / den : Nat) : ℚ) - num / den| ≤ 1 / 2 := by
  have hden : (0 : ℚ) < den := by exact_mod_cast h
  have hnonneg : 0 ≤ ((num % den : Nat) : ℚ) / den := by positivity
  have hhalf : ((num % den : Nat) : ℚ) / den ≤ 1 / 2 := by
    have hcast : ((2 * (num % den) : Nat) : ℚ) ≤ den := by exact_mod_cast hle
    rw [div_le_iff₀ hden]
    push_cast at hcast
    linarith
  rw [div_eq_quotient_add h, abs_le]
  constructor <;> linarith

/-- With a remainder from the half on the next number is. -/
theorem abs_quotient_succ_sub_le {num den : Nat} (h : 0 < den) (hle : den ≤ 2 * (num % den)) :
    |((num / den + 1 : Nat) : ℚ) - num / den| ≤ 1 / 2 := by
  have hden : (0 : ℚ) < den := by exact_mod_cast h
  have hlt : ((num % den : Nat) : ℚ) / den < 1 := by
    rw [div_lt_one hden]
    exact_mod_cast Nat.mod_lt num h
  have hhalf : 1 / 2 ≤ ((num % den : Nat) : ℚ) / den := by
    have hcast : (den : ℚ) ≤ (2 * (num % den) : Nat) := by exact_mod_cast hle
    rw [le_div_iff₀ hden]
    push_cast at hcast
    linarith
  rw [div_eq_quotient_add h, abs_le]
  push_cast
  constructor <;> linarith

/-- Rounding a ratio to a natural number is off by a half at most. -/
theorem abs_roundDiv_sub_le {den : Nat} (h : 0 < den) (num : Nat) :
    |(roundDiv num den : ℚ) - num / den| ≤ 1 / 2 := by
  unfold roundDiv
  dsimp only
  split
  next hless => exact abs_quotient_sub_le h (by omega)
  next hless =>
    split
    next htie =>
      split
      next => exact abs_quotient_sub_le h (by omega)
      next => exact abs_quotient_succ_sub_le h (by omega)
    next => exact abs_quotient_succ_sub_le h (by omega)

/-! ## The exponent -/

/-- The exponent that is tried first makes the ratio a number of 53 or 54 bits. -/
theorem guess_bounds {num den : Nat} (hnum : 0 < num) (hden : 0 < den) :
    (2 : ℚ) ^ (52 : Int) * 2 ^ ((num.log2 : Int) - den.log2 - 53) ≤ num / den ∧
      (num : ℚ) / den < 2 ^ (54 : Int) * 2 ^ ((num.log2 : Int) - den.log2 - 53) := by
  have hpos : (0 : ℚ) < den := by exact_mod_cast hden
  have hlow : (2 : ℚ) ^ (num.log2 : Int) ≤ num := by
    rw [zpow_natCast]
    exact_mod_cast Nat.log2_self_le hnum.ne'
  have hhigh : (num : ℚ) < 2 ^ ((num.log2 : Int) + 1) := by
    rw [← Nat.cast_succ, zpow_natCast]
    exact_mod_cast Nat.lt_log2_self
  have hlow' : (2 : ℚ) ^ (den.log2 : Int) ≤ den := by
    rw [zpow_natCast]
    exact_mod_cast Nat.log2_self_le hden.ne'
  have hhigh' : (den : ℚ) < 2 ^ ((den.log2 : Int) + 1) := by
    rw [← Nat.cast_succ, zpow_natCast]
    exact_mod_cast Nat.lt_log2_self
  constructor
  · rw [← zpow_add₀ two_ne_zero, le_div_iff₀ hpos]
    calc (2 : ℚ) ^ (52 + ((num.log2 : Int) - den.log2 - 53)) * den
        ≤ 2 ^ (52 + ((num.log2 : Int) - den.log2 - 53)) * 2 ^ ((den.log2 : Int) + 1) := by
          gcongr
      _ = 2 ^ (num.log2 : Int) := by
          rw [← zpow_add₀ two_ne_zero]
          congr 1
          ring
      _ ≤ num := hlow
  · rw [← zpow_add₀ two_ne_zero, div_lt_iff₀ hpos]
    calc (num : ℚ) < 2 ^ ((num.log2 : Int) + 1) := hhigh
      _ = 2 ^ (54 + ((num.log2 : Int) - den.log2 - 53)) * 2 ^ (den.log2 : Int) := by
          rw [← zpow_add₀ two_ne_zero]
          congr 1
          ring
      _ ≤ 2 ^ (54 + ((num.log2 : Int) - den.log2 - 53)) * den := by gcongr

/-- The exponent of the number that a ratio is rounded to, unless rounding carries. -/
def unitExponent (num den : Nat) : Int :=
  let guess : Int := (num.log2 : Int) - den.log2 - 53
  let ratio := scaled num den guess
  max (if ratio.1 / ratio.2 < 2 ^ 53 then guess else guess + 1) minExponent

/-- At its exponent a ratio has 53 bits at most, and no fewer unless it is very small. -/
theorem unitExponent_bounds {num den : Nat} (hnum : 0 < num) (hden : 0 < den) :
    (num : ℚ) / den < 2 ^ (53 : Int) * 2 ^ unitExponent num den ∧
      (unitExponent num den = minExponent ∨
        (2 : ℚ) ^ (52 : Int) * 2 ^ unitExponent num den ≤ num / den) := by
  obtain ⟨hlow, hhigh⟩ := guess_bounds hnum hden
  unfold unitExponent
  dsimp only
  generalize (num.log2 : Int) - den.log2 - 53 = guess at hlow hhigh ⊢
  have hunit : (0 : ℚ) < 2 ^ guess := by positivity
  have hratio := div_scaled num den guess
  have hdpos := scaled_snd_pos hden num guess
  generalize scaled num den guess = ratio at hratio hdpos ⊢
  -- The floor decides the comparison with a whole number.
  have hfloor : ratio.1 / ratio.2 < 2 ^ 53 ↔ (num : ℚ) / den < 2 ^ (53 : Int) * 2 ^ guess := by
    rw [Nat.div_lt_iff_lt_mul hdpos, ← div_lt_iff₀ hunit, ← hratio,
      div_lt_iff₀ (by exact_mod_cast hdpos)]
    norm_cast
  have hfitted : (num : ℚ) / den <
        2 ^ (53 : Int) * 2 ^ (if ratio.1 / ratio.2 < 2 ^ 53 then guess else guess + 1) ∧
      (2 : ℚ) ^ (52 : Int) * 2 ^ (if ratio.1 / ratio.2 < 2 ^ 53 then guess else guess + 1) ≤
        num / den := by
    split
    next h => exact ⟨hfloor.1 h, hlow⟩
    next h =>
      have hge := not_lt.1 fun hlt => h (hfloor.2 hlt)
      rw [zpow_add_one₀ two_ne_zero]
      norm_num at hge hhigh ⊢
      constructor <;> linarith
  -- Very small ratios keep the least exponent, and have fewer bits there.
  generalize (if ratio.1 / ratio.2 < 2 ^ 53 then guess else guess + 1) = fitted at hfitted ⊢
  rcases le_total minExponent fitted with hle | hle
  · rw [max_eq_left hle]
    exact ⟨hfitted.1, Or.inr hfitted.2⟩
  · rw [max_eq_right hle]
    refine ⟨hfitted.1.trans_le ?_, Or.inl rfl⟩
    gcongr
    norm_num

/-! ## The rounded number -/

/-- The mantissa of a ratio at its exponent, before a carry. -/
def unitMantissa (num den : Nat) : Nat :=
  let ratio := scaled num den (unitExponent num den)
  roundDiv ratio.1 ratio.2

/-- The mantissa and the exponent of the rounded number. -/
def rounded (num den : Nat) : Nat × Int :=
  if unitMantissa num den = 2 ^ 53 then (2 ^ 52, unitExponent num den + 1)
  else (unitMantissa num den, unitExponent num den)

theorem ofRatio?_eq (negative : Bool) {num den : Nat} (hnum : 0 < num) (hden : 0 < den) :
    ofRatio? negative num den =
      let m := unitMantissa num den
      let e := unitExponent num den
      if m = 2 ^ 53 then
        if maxExponent < e + 1 then none else some ⟨negative, 2 ^ 52, e + 1⟩
      else if maxExponent < e then none
      else if m = 0 then some (zero negative)
      else some ⟨negative, m, e⟩ := by
  have hratio : ¬ (num = 0 ∨ den = 0) := by omega
  have hparts : ofRatio? negative num den =
      if maxExponent < (rounded num den).2 then none
      else if (rounded num den).1 = 0 then some (zero negative)
      else some ⟨negative, (rounded num den).1, (rounded num den).2⟩ := if_neg hratio
  rw [hparts, rounded]
  by_cases hcarry : unitMantissa num den = 2 ^ 53
  · rw [if_pos hcarry, if_pos hcarry]
    rfl
  · rw [if_neg hcarry, if_neg hcarry]

/-- Rounding keeps the sign. -/
theorem negative_of_ofRatio? {negative : Bool} {num den : Nat} {x : Binary64}
    (h : ofRatio? negative num den = some x) : x.negative = negative := by
  by_cases hzero : num = 0 ∨ den = 0
  · rw [ofRatio?, if_pos hzero] at h
    cases h
    rfl
  · rw [ofRatio?_eq negative (by omega) (by omega)] at h
    dsimp only at h
    split_ifs at h <;> cases h <;> rfl

/-- Half a unit of the last place, as a share of the ratio. -/
theorem abs_mul_sub_le {m : Nat} {e : Int} {ratio : ℚ}
    (hround : |(m : ℚ) - ratio / 2 ^ e| ≤ 1 / 2)
    (hnormal : e = minExponent ∨ (2 : ℚ) ^ (52 : Int) * 2 ^ e ≤ ratio) :
    |(m : ℚ) * 2 ^ e - ratio| ≤ max (ratio / 2 ^ 53) (2 ^ (minExponent - 1)) := by
  have hunit : (0 : ℚ) < 2 ^ e := by positivity
  have hhalf : |(m : ℚ) * 2 ^ e - ratio| ≤ 2 ^ e / 2 := by
    calc |(m : ℚ) * 2 ^ e - ratio| = |(m : ℚ) - ratio / 2 ^ e| * 2 ^ e := by
          rw [← abs_of_pos hunit, ← abs_mul, abs_of_pos hunit, sub_mul,
            div_mul_cancel₀ _ hunit.ne']
      _ ≤ 1 / 2 * 2 ^ e := by gcongr
      _ = 2 ^ e / 2 := by ring
  rcases hnormal with rfl | hnormal
  · refine le_max_of_le_right (hhalf.trans_eq ?_)
    rw [zpow_sub_one₀ two_ne_zero, div_eq_mul_inv]
  · refine le_max_of_le_left (hhalf.trans ?_)
    norm_num at hnormal ⊢
    linarith

/-- The greatest unit of a last place, by the unit that the limit is written with. -/
theorem two_zpow_maxExponent : (2 : ℚ) ^ maxExponent = 2 * 2 ^ (maxExponent - 1) := by
  rw [zpow_sub_one₀ two_ne_zero]
  ring

/-- Below the limit a mantissa of 53 bits has an exponent in the finite range. -/
theorem le_maxExponent {e : Int} {ratio : ℚ} (h : ratio < limit)
    (hnormal : e = minExponent ∨ (2 : ℚ) ^ (52 : Int) * 2 ^ e ≤ ratio) : e ≤ maxExponent := by
  by_contra hgt
  -- An exponent beyond the range is not the least one, so the mantissa has all its bits.
  have hlow := hnormal.resolve_left (by unfold minExponent; unfold maxExponent at hgt; omega)
  have hmono : (2 : ℚ) ^ (maxExponent + 1) ≤ 2 ^ e := zpow_le_zpow_right₀ one_le_two (by omega)
  rw [zpow_add_one₀ two_ne_zero, two_zpow_maxExponent] at hmono
  unfold limit at h
  have hunit : (0 : ℚ) < 2 ^ (maxExponent - 1) := by positivity
  generalize (2 : ℚ) ^ (maxExponent - 1) = unit at *
  norm_num at hlow h
  linarith

/-- Below the limit there is room for a carry. -/
theorem succ_le_maxExponent {e : Int} {ratio : ℚ} (h : ratio < limit) (hle : e ≤ maxExponent)
    (hcarry : |((2 ^ 53 : Nat) : ℚ) - ratio / 2 ^ e| ≤ 1 / 2) : e + 1 ≤ maxExponent := by
  by_contra hgt
  have he : e = maxExponent := by omega
  have hunit : (0 : ℚ) < 2 ^ (maxExponent - 1) := by positivity
  have hhigh := (abs_le.1 hcarry).2
  rw [he, two_zpow_maxExponent, sub_le_iff_le_add, ← sub_le_iff_le_add',
    le_div_iff₀ (by positivity)] at hhigh
  unfold limit at h
  generalize (2 : ℚ) ^ (maxExponent - 1) = unit at *
  norm_num at hhigh h
  linarith

/-- **Rounding.**  A ratio that is not too great is rounded to a number, off by half a unit of
its last place at most. -/
theorem exists_ofRatio? (negative : Bool) {num den : Nat} (h : (num : ℚ) / den < limit) :
    ∃ x, ofRatio? negative num den = some x ∧
      |x.absValue - num / den| ≤ max ((num : ℚ) / den / 2 ^ 53) (2 ^ (minExponent - 1)) := by
  by_cases hzero : num = 0 ∨ den = 0
  · have hratio : (num : ℚ) / den = 0 := by
      rcases hzero with rfl | rfl <;> simp
    refine ⟨zero negative, if_pos hzero, ?_⟩
    rw [hratio, absValue_zero, sub_zero, abs_zero]
    exact le_max_of_le_left (by norm_num)
  · have hnum : 0 < num := by omega
    have hden : 0 < den := by omega
    obtain ⟨-, hnormal⟩ := unitExponent_bounds hnum hden
    have hround : |(unitMantissa num den : ℚ) - num / den / 2 ^ unitExponent num den| ≤ 1 / 2 := by
      rw [← div_scaled]
      exact abs_roundDiv_sub_le (scaled_snd_pos hden num _) _
    rw [ofRatio?_eq negative hnum hden]
    dsimp only
    generalize unitExponent num den = e at *
    generalize unitMantissa num den = m at *
    have herror := abs_mul_sub_le hround hnormal
    have hexponent := le_maxExponent h hnormal
    -- A carry moves the value to the next exponent and leaves it as it is.
    by_cases hcarry : m = 2 ^ 53
    · have hroom : e + 1 ≤ maxExponent := succ_le_maxExponent h hexponent (hcarry ▸ hround)
      rw [if_pos hcarry, if_neg (not_lt.2 hroom)]
      refine ⟨_, rfl, ?_⟩
      have hvalue : absValue ⟨negative, 2 ^ 52, e + 1⟩ = m * 2 ^ e := by
        rw [absValue, hcarry, zpow_add_one₀ two_ne_zero]
        norm_num
        ring
      rwa [hvalue]
    · rw [if_neg hcarry, if_neg (not_lt.2 hexponent)]
      by_cases hm : m = 0
      · rw [if_pos hm]
        refine ⟨_, rfl, ?_⟩
        rwa [hm, Nat.cast_zero, zero_mul, ← absValue_zero negative] at herror
      · rw [if_neg hm]
        exact ⟨_, rfl, herror⟩

/-- A ratio that is no fraction of one is off by a fixed share of it at most. -/
theorem exists_ofRatio?_of_one_le (negative : Bool) {num den : Nat} (hone : 1 ≤ (num : ℚ) / den)
    (h : (num : ℚ) / den < limit) :
    ∃ x, ofRatio? negative num den = some x ∧ (num : ℚ) / den * (1 - 1 / 2 ^ 53) ≤ x.absValue ∧
      x.absValue ≤ num / den * (1 + 1 / 2 ^ 53) := by
  obtain ⟨x, hx, herror⟩ := exists_ofRatio? negative h
  have hsmall : (2 : ℚ) ^ (minExponent - 1) ≤ num / den / 2 ^ 53 := by
    calc (2 : ℚ) ^ (minExponent - 1) ≤ 2 ^ (-53 : Int) :=
          zpow_le_zpow_right₀ one_le_two (by decide)
      _ = 1 / 2 ^ 53 := by norm_num
      _ ≤ num / den / 2 ^ 53 := by gcongr
  rw [max_eq_left hsmall, abs_le] at herror
  refine ⟨x, hx, ?_, ?_⟩ <;> linarith

/-! ## Integers and powers of ten -/

theorem limit_eq : limit = ((2 ^ 54 - 1) * 2 ^ 970 : Nat) := by
  have hunit : (2 : ℚ) ^ (maxExponent - 1) = (2 ^ 970 : Nat) := by
    rw [show maxExponent - 1 = ((970 : Nat) : Int) from rfl, zpow_natCast, Nat.cast_pow,
      Nat.cast_ofNat]
  have hmantissa : (2 ^ 54 - 1 : ℚ) = (2 ^ 54 - 1 : Nat) := by norm_num
  rw [limit, hunit, hmantissa, ← Nat.cast_mul]

/-- The number nearest to a natural number is off by a fixed share of it. -/
theorem absValue_ofInt_natCast {n : Nat} (h : (n : ℚ) < limit) :
    (ofInt n).absValue ≤ n * (1 + 1 / 2 ^ 53) := by
  have hcast : ofInt n = (ofRatio? false n 1).getD (zero false) := rfl
  rw [hcast]
  rcases Nat.eq_zero_or_pos n with rfl | hpos
  · simp [ofRatio?]
  · have hratio : (n : ℚ) / (1 : Nat) = n := by simp
    have hone : (1 : ℚ) ≤ n := by exact_mod_cast hpos
    rw [← hratio] at h hone ⊢
    obtain ⟨x, hx, -, hhigh⟩ := exists_ofRatio?_of_one_le false hone h
    rwa [hx, Option.getD_some]

/-- The powers of ten in the finite range are rounded, too. -/
theorem exists_power {power : Nat} (h : power ≤ 308) :
    ∃ p, ofRatio? false (Nat.pow 10 power) 1 = some p ∧
      (10 : ℚ) ^ power * (1 - 1 / 2 ^ 53) ≤ p.absValue ∧
      p.absValue ≤ 10 ^ power * (1 + 1 / 2 ^ 53) := by
  have hratio : ((Nat.pow 10 power : Nat) : ℚ) / (1 : Nat) = 10 ^ power := by simp
  have hone : (1 : ℚ) ≤ 10 ^ power := one_le_pow₀ (by norm_num)
  have hlimit : (10 : ℚ) ^ power < limit := by
    calc (10 : ℚ) ^ power ≤ 10 ^ 308 := pow_le_pow_right₀ (by norm_num) h
      _ = ((10 ^ 308 : Nat) : ℚ) := by rw [Nat.cast_pow, Nat.cast_ofNat]
      _ < ((2 ^ 54 - 1) * 2 ^ 970 : Nat) := Nat.cast_lt.2 (by decide +kernel)
      _ = limit := limit_eq.symm
  rw [← hratio] at hone hlimit ⊢
  exact exists_ofRatio?_of_one_le false hone hlimit

/-- The product with a power of ten is a number as long as it is below the limit. -/
theorem exists_scaleUp? {x : Binary64} {power : Nat} (hpower : power ≤ 308)
    (h : x.absValue * (10 ^ power * (1 + 1 / 2 ^ 53)) < limit) :
    ∃ y, x.scaleUp? power = some y := by
  obtain ⟨p, hp, -, hhigh⟩ := exists_power hpower
  have hratio := div_scaled (x.mantissa * p.mantissa) 1 (-(x.exponent + p.exponent))
  have hproduct : ((x.mantissa * p.mantissa : Nat) : ℚ) / (1 : Nat) /
      2 ^ (-(x.exponent + p.exponent)) = x.absValue * p.absValue := by
    rw [absValue, absValue, zpow_neg, div_inv_eq_mul, zpow_add₀ two_ne_zero]
    push_cast
    ring
  have hlt : x.absValue * p.absValue < limit :=
    (mul_le_mul_of_nonneg_left hhigh x.absValue_nonneg).trans_lt h
  rw [← hproduct, ← hratio] at hlt
  obtain ⟨y, hy, -⟩ := exists_ofRatio? x.negative hlt
  exact ⟨y, by simpa only [scaleUp?, hp, bind, Option.bind_some] using hy⟩

/-- Quotients by powers of ten stay where they started. -/
theorem exists_scaleDown? {x : Binary64} {power : Nat} (hpos : 0 < power) (hpower : power ≤ 308)
    (hx : x.absValue ≤ 2 ^ 65) : ∃ y, x.scaleDown? power = some y ∧ y.absValue ≤ 2 ^ 65 := by
  obtain ⟨p, hp, hlow, -⟩ := exists_power hpower
  have hratio := div_scaled x.mantissa p.mantissa (p.exponent - x.exponent)
  have hquotient : (x.mantissa : ℚ) / p.mantissa / 2 ^ (p.exponent - x.exponent) =
      x.absValue / p.absValue := by
    rw [absValue, absValue, zpow_sub₀ two_ne_zero]
    field_simp
  have htwo : 2 ≤ p.absValue := by
    have hten : (10 : ℚ) ^ 1 ≤ 10 ^ power := pow_le_pow_right₀ (by norm_num) hpos
    norm_num at hten hlow
    linarith
  have hle : x.absValue / p.absValue ≤ 2 ^ 64 := by
    rw [div_le_iff₀ (by linarith)]
    linarith
  have hlimit : (2 : ℚ) ^ 64 < limit := by
    calc (2 : ℚ) ^ 64 = (2 ^ 64 : Nat) := by norm_num
      _ < ((2 ^ 54 - 1) * 2 ^ 970 : Nat) := Nat.cast_lt.2 (by decide +kernel)
      _ = limit := limit_eq.symm
  rw [← hquotient, ← hratio] at hle
  obtain ⟨y, hy, herror⟩ := exists_ofRatio? x.negative (hle.trans_lt hlimit)
  refine ⟨y, by simpa only [scaleDown?, hp, bind, Option.bind_some] using hy, ?_⟩
  have hsmall : (2 : ℚ) ^ (minExponent - 1) ≤ 1 := zpow_le_one_of_nonpos₀ one_le_two (by decide)
  have hshare := max_le (div_le_div_of_nonneg_right hle (by positivity : (0 : ℚ) ≤ 2 ^ 53))
    (hsmall.trans (by norm_num : (1 : ℚ) ≤ 2 ^ 64 / 2 ^ 53))
  have hdiff := (abs_le.1 (herror.trans hshare)).2
  norm_num at hdiff hle ⊢
  linarith

end PropertyGraph.Binary64
