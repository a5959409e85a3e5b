import PropertyGraph.Number.Shortest
import PropertyGraph.Proofs.Rounding

/-!
# Shortest digits

Digits are searched for on finer and finer grids of decimals, seventeen of them.  The last one
is finer than the reals that round to a number are wide, so the search does not come back empty.

> `shortest_spec`: the decimal found has at most seventeen digits, is not zero, and lies no
> more than half a unit above the number.

Two steps of the search are taken for granted in the code: that the logarithm of two is close
enough to 30103 in 100000 for the first guess of the magnitude (`magnitude_bounds`), and that
seventeen digits are enough.
-/

namespace PropertyGraph.Binary64

/-! ## Powers of two and of ten -/

/-- A power of ten is no greater than a power of two: 59 to 196 is below the logarithm. -/
theorem ten_zpow_le_two_zpow_of_nonneg {a b : Int} (hb : 0 ≤ b) (h : 196 * a ≤ 59 * b) :
    (10 : ℚ) ^ a ≤ 2 ^ b := by
  obtain ⟨n, rfl⟩ := Int.eq_ofNat_of_zero_le hb
  refine (pow_le_pow_iff_left₀ (by positivity) (by positivity) (by norm_num : 196 ≠ 0)).1 ?_
  calc ((10 : ℚ) ^ a) ^ 196 = 10 ^ (196 * a) := by
        rw [← zpow_natCast, ← zpow_mul, mul_comm]
        rfl
    _ ≤ 10 ^ (59 * (n : Int)) := zpow_le_zpow_right₀ (by norm_num) h
    _ = (10 ^ 59) ^ n := by
        rw [zpow_mul]
        norm_cast
    _ ≤ (2 ^ 196) ^ n := by
        gcongr
        norm_num
    _ = ((2 : ℚ) ^ (n : Int)) ^ 196 := by
        rw [zpow_natCast, ← pow_mul, ← pow_mul, mul_comm]

/-- A power of two is no greater than a power of ten: 28 to 93 is above the logarithm. -/
theorem two_zpow_le_ten_zpow_of_nonneg {a b : Int} (hb : 0 ≤ b) (h : 28 * b ≤ 93 * a) :
    (2 : ℚ) ^ b ≤ 10 ^ a := by
  obtain ⟨n, rfl⟩ := Int.eq_ofNat_of_zero_le hb
  refine (pow_le_pow_iff_left₀ (by positivity) (by positivity) (by norm_num : 93 ≠ 0)).1 ?_
  calc ((2 : ℚ) ^ (n : Int)) ^ 93 = (2 ^ 93) ^ n := by
        rw [zpow_natCast, ← pow_mul, ← pow_mul, mul_comm]
    _ ≤ (10 ^ 28) ^ n := by
        gcongr
        norm_num
    _ = 10 ^ (28 * (n : Int)) := by
        rw [zpow_mul]
        norm_cast
    _ ≤ 10 ^ (93 * a) := zpow_le_zpow_right₀ (by norm_num) h
    _ = ((10 : ℚ) ^ a) ^ 93 := by
        rw [← zpow_natCast, ← zpow_mul, mul_comm]
        rfl

/-- Below one, powers compare the other way round. -/
theorem ten_zpow_le_two_zpow_of_nonpos {a b : Int} (hb : b ≤ 0) (h : 93 * a ≤ 28 * b) :
    (10 : ℚ) ^ a ≤ 2 ^ b := by
  have hinv := two_zpow_le_ten_zpow_of_nonneg (a := -a) (b := -b) (by omega) (by omega)
  rw [zpow_neg, zpow_neg] at hinv
  exact (inv_le_inv₀ (by positivity) (by positivity)).1 hinv

@[inherit_doc ten_zpow_le_two_zpow_of_nonpos]
theorem two_zpow_le_ten_zpow_of_nonpos {a b : Int} (hb : b ≤ 0) (h : 59 * b ≤ 196 * a) :
    (2 : ℚ) ^ b ≤ 10 ^ a := by
  have hinv := ten_zpow_le_two_zpow_of_nonneg (a := -a) (b := -b) (by omega) (by omega)
  rw [zpow_neg, zpow_neg] at hinv
  exact (inv_le_inv₀ (by positivity) (by positivity)).1 hinv

/-! ## The magnitude -/

/-- The comparison with a power of ten is that of rationals. -/
theorem below_iff {num den : Nat} (hden : 0 < den) (p : Int) :
    below num den p = true ↔ (num : ℚ) / den < 10 ^ p := by
  have hpos : (0 : ℚ) < den := by exact_mod_cast hden
  unfold below
  rw [div_lt_iff₀ hpos]
  split
  next h =>
    obtain ⟨k, rfl⟩ := Int.eq_ofNat_of_zero_le h
    rw [decide_eq_true_iff, zpow_natCast, mul_comm]
    norm_cast
  next h =>
    obtain ⟨k, rfl⟩ := Int.exists_eq_neg_ofNat (le_of_not_ge h)
    rw [decide_eq_true_iff, zpow_neg, zpow_natCast, ← div_eq_inv_mul, lt_div_iff₀ (by positivity),
      neg_neg, Int.toNat_natCast]
    norm_cast

/-- The search for the magnitude goes up by one until it has passed the ratio. -/
theorem magnitudeFrom_bounds {num den : Nat} (hden : 0 < den) (tries : Nat) : ∀ p : Int,
    (10 : ℚ) ^ (p - 1) ≤ num / den → (num : ℚ) / den < 10 ^ (p + tries) →
      (10 : ℚ) ^ (magnitudeFrom num den tries p - 1) ≤ num / den ∧
        (num : ℚ) / den < 10 ^ magnitudeFrom num den tries p := by
  induction tries with
  | zero =>
    intro p hlow hhigh
    rw [Nat.cast_zero, add_zero] at hhigh
    exact ⟨hlow, hhigh⟩
  | succ tries ih =>
    intro p hlow hhigh
    unfold magnitudeFrom
    split
    next h => exact ⟨hlow, (below_iff hden p).1 h⟩
    next h =>
      refine ih (p + 1) ?_ ?_
      · rw [add_sub_cancel_right]
        exact not_lt.1 fun hlt => h ((below_iff hden p).2 hlt)
      · rwa [add_assoc, add_comm 1 (tries : Int)]

/-- The magnitude of a ratio in the range of the finite numbers. -/
theorem magnitude_bounds {num den : Nat} (hnum : 0 < num) (hden : 0 < den)
    (hlow : (2 : ℚ) ^ minExponent ≤ num / den) (hhigh : (num : ℚ) / den < 2 ^ (1024 : Int)) :
    (10 : ℚ) ^ (magnitude num den - 1) ≤ num / den ∧ (num : ℚ) / den < 10 ^ magnitude num den := by
  obtain ⟨hge, hlt⟩ := guess_bounds hnum hden
  rw [← zpow_add₀ two_ne_zero] at hge hlt
  unfold magnitude
  dsimp only
  generalize hlog : (num.log2 : Int) - den.log2 - 1 = log
  rw [show 52 + ((num.log2 : Int) - den.log2 - 53) = log by omega] at hge
  rw [show 54 + ((num.log2 : Int) - den.log2 - 53) = log + 2 by omega] at hlt
  have hmax : log < 1024 := (zpow_lt_zpow_iff_right₀ one_lt_two).1 (hge.trans_lt hhigh)
  have hmin : minExponent < log + 2 := (zpow_lt_zpow_iff_right₀ one_lt_two).1 (hlow.trans_lt hlt)
  unfold minExponent at hmin
  -- The search starts at the binary logarithm times log 2, rounded down, and four steps are enough.
  refine magnitudeFrom_bounds hden 4 (log * 30103 / 100000) ?_ ?_
  · refine le_trans ?_ hge
    rcases le_total 0 log with hsign | hsign
    · exact ten_zpow_le_two_zpow_of_nonneg hsign (by omega)
    · exact ten_zpow_le_two_zpow_of_nonpos hsign (by omega)
  · refine hlt.trans_le ?_
    rcases le_total 0 (log + 2) with hsign | hsign
    · exact two_zpow_le_ten_zpow_of_nonneg hsign (by omega)
    · exact two_zpow_le_ten_zpow_of_nonpos hsign (by omega)

/-! ## Grids -/

/-- The factor that a ratio gains on a grid finer than the whole numbers. -/
def gridUp (unit : Int) : Nat := if unit < 0 then Nat.pow 10 (-unit).toNat else 1

/-- The denominator of a ratio in units of a grid. -/
def gridDen (den : Nat) (unit : Int) : Nat :=
  if unit < 0 then den else den * Nat.pow 10 unit.toNat

/-- A ratio in units of a power of ten. -/
theorem div_grid (n den : Nat) (unit : Int) :
    ((n * gridUp unit : Nat) : ℚ) / gridDen den unit = n / den / 10 ^ unit := by
  unfold gridUp gridDen
  split
  next h =>
    obtain ⟨k, rfl⟩ := Int.exists_eq_neg_ofNat h.le
    simp
    ring
  next h =>
    obtain ⟨k, rfl⟩ := Int.eq_ofNat_of_zero_le (not_lt.1 h)
    simp [div_div]

theorem gridDen_pos {den : Nat} (h : 0 < den) (unit : Int) : 0 < gridDen den unit := by
  unfold gridDen
  split <;> simp [h]

section Grid

variable {den : Nat} (hden : 0 < den) (n q : Nat) (unit : Int)

include hden

theorem le_grid_iff : n * gridUp unit ≤ q * gridDen den unit ↔ (n : ℚ) / den ≤ q * 10 ^ unit := by
  have hpos : (0 : ℚ) < gridDen den unit := by exact_mod_cast gridDen_pos hden unit
  rw [← div_le_iff₀ (by positivity), ← div_grid, div_le_iff₀ hpos]
  exact_mod_cast Iff.rfl

theorem grid_le_iff : q * gridDen den unit ≤ n * gridUp unit ↔ q * 10 ^ unit ≤ (n : ℚ) / den := by
  have hpos : (0 : ℚ) < gridDen den unit := by exact_mod_cast gridDen_pos hden unit
  rw [← le_div_iff₀ (by positivity), ← div_grid, le_div_iff₀ hpos]
  exact_mod_cast Iff.rfl

end Grid

/-- Whether a point of a grid lies above the lower end of an interval, or on an end that
belongs to it. -/
def hitsLower (i : Interval) (unit : Int) (q : Nat) : Bool :=
  decide (i.low * gridUp unit < q * gridDen i.den unit) ||
    (i.closed && decide (i.low * gridUp unit = q * gridDen i.den unit))

/-- Whether a point of a grid lies below the upper end. -/
def hitsUpper (i : Interval) (unit : Int) (q : Nat) : Bool :=
  decide (q * gridDen i.den unit < i.high * gridUp unit) ||
    (i.closed && decide (q * gridDen i.den unit = i.high * gridUp unit))

theorem le_of_hitsLower {i : Interval} {unit : Int} {q : Nat} (h : hitsLower i unit q = true) :
    i.low * gridUp unit ≤ q * gridDen i.den unit := by
  simp only [hitsLower, Bool.or_eq_true, Bool.and_eq_true, decide_eq_true_iff] at h
  omega

theorem ge_of_hitsLower_eq_false {i : Interval} {unit : Int} {q : Nat}
    (h : hitsLower i unit q = false) : q * gridDen i.den unit ≤ i.low * gridUp unit := by
  simp only [hitsLower, Bool.or_eq_false_iff, decide_eq_false_iff_not] at h
  exact not_lt.1 h.1

theorem le_of_hitsUpper {i : Interval} {unit : Int} {q : Nat} (h : hitsUpper i unit q = true) :
    q * gridDen i.den unit ≤ i.high * gridUp unit := by
  simp only [hitsUpper, Bool.or_eq_true, Bool.and_eq_true, decide_eq_true_iff] at h
  omega

theorem ge_of_hitsUpper_eq_false {i : Interval} {unit : Int} {q : Nat}
    (h : hitsUpper i unit q = false) : i.high * gridUp unit ≤ q * gridDen i.den unit := by
  simp only [hitsUpper, Bool.or_eq_false_iff, decide_eq_false_iff_not] at h
  exact not_lt.1 h.1

/-- Of the two neighbours of the number the one in the interval is taken, and the nearer one
if both are in it. -/
theorem onGrid?_eq (i : Interval) (unit : Int) :
    let value := i.value * gridUp unit
    let q := value / gridDen i.den unit
    onGrid? i unit = match hitsLower i unit q, hitsUpper i unit (q + 1) with
      | false, false => none
      | true, false => some q
      | false, true => some (q + 1)
      | true, true =>
        let lower := q * gridDen i.den unit
        let upper := (q + 1) * gridDen i.den unit
        if value - lower < upper - value then some q
        else if upper - value < value - lower then some (q + 1)
        else some (if q % 2 = 0 then q else q + 1) := rfl

/-- What a search on one grid comes to: nothing, if neither neighbour of the number lies strictly
inside the interval, or a neighbour that is not outside. -/
theorem onGrid?_cases (i : Interval) (unit : Int) :
    let q := i.value * gridUp unit / gridDen i.den unit
    (onGrid? i unit = none ∧ q * gridDen i.den unit ≤ i.low * gridUp unit ∧
        i.high * gridUp unit ≤ (q + 1) * gridDen i.den unit) ∨
      (onGrid? i unit = some q ∧ i.low * gridUp unit ≤ q * gridDen i.den unit) ∨
      (onGrid? i unit = some (q + 1) ∧
        (q + 1) * gridDen i.den unit ≤ i.high * gridUp unit) := by
  rw [onGrid?_eq]
  dsimp only
  generalize i.value * gridUp unit / gridDen i.den unit = q
  cases hlower : hitsLower i unit q with
  | false =>
    cases hupper : hitsUpper i unit (q + 1) with
    | false =>
      exact Or.inl ⟨rfl, ge_of_hitsLower_eq_false hlower, ge_of_hitsUpper_eq_false hupper⟩
    | true => exact Or.inr (Or.inr ⟨rfl, le_of_hitsUpper hupper⟩)
  | true =>
    cases hupper : hitsUpper i unit (q + 1) with
    | false => exact Or.inr (Or.inl ⟨rfl, le_of_hitsLower hlower⟩)
    | true =>
      dsimp only
      split_ifs
      · exact Or.inr (Or.inl ⟨rfl, le_of_hitsLower hlower⟩)
      · exact Or.inr (Or.inr ⟨rfl, le_of_hitsUpper hupper⟩)
      · exact Or.inr (Or.inl ⟨rfl, le_of_hitsLower hlower⟩)
      · exact Or.inr (Or.inr ⟨rfl, le_of_hitsUpper hupper⟩)

/-- The rationals that an interval stands for. -/
structure Interval.Spans (i : Interval) (low value high : ℚ) : Prop where
  den_pos : 0 < i.den
  low_eq : (i.low : ℚ) / i.den = low
  value_eq : (i.value : ℚ) / i.den = value
  high_eq : (i.high : ℚ) / i.den = high
  low_le : low ≤ value
  le_high : value ≤ high

section Spans

variable {i : Interval} {low value high : ℚ} (h : i.Spans low value high) {unit : Int}

include h

/-- A point that is found on a grid lies in the interval and is a neighbour of the number. -/
theorem onGrid?_eq_some {q : Nat} (hq : onGrid? i unit = some q) :
    low ≤ q * 10 ^ unit ∧ q * 10 ^ unit ≤ high ∧ ((q : ℚ) - 1) * 10 ^ unit ≤ value := by
  have hunit : (0 : ℚ) < 10 ^ unit := by positivity
  have hcases := onGrid?_cases i unit
  have hfloor := Nat.div_mul_le_self (i.value * gridUp unit) (gridDen i.den unit)
  have hceil := (Nat.lt_mul_div_succ (i.value * gridUp unit) (gridDen_pos h.den_pos unit)).le
  rw [mul_comm (gridDen i.den unit)] at hceil
  generalize i.value * gridUp unit / gridDen i.den unit = q₀ at hcases hfloor hceil
  rw [grid_le_iff h.den_pos, h.value_eq] at hfloor
  rw [le_grid_iff h.den_pos, h.value_eq] at hceil
  rcases hcases with ⟨hnone, -⟩ | ⟨hsome, hin⟩ | ⟨hsome, hin⟩
  · rw [hnone] at hq
    cases hq
  · rw [hsome] at hq
    cases hq
    rw [le_grid_iff h.den_pos, h.low_eq] at hin
    exact ⟨hin, hfloor.trans h.le_high, by linarith⟩
  · rw [hsome] at hq
    cases hq
    rw [grid_le_iff h.den_pos, h.high_eq] at hin
    refine ⟨h.low_le.trans hceil, hin, ?_⟩
    rwa [Nat.cast_add_one, add_sub_cancel_right]

/-- A grid that is finer than the interval is wide has a point in it. -/
theorem onGrid?_isSome (hwide : (10 : ℚ) ^ unit < high - low) : (onGrid? i unit).isSome = true := by
  rcases onGrid?_cases i unit with ⟨-, hlow, hhigh⟩ | ⟨hsome, -⟩ | ⟨hsome, -⟩
  · rw [grid_le_iff h.den_pos, h.low_eq] at hlow
    rw [le_grid_iff h.den_pos, h.high_eq, Nat.cast_add_one] at hhigh
    linarith
  · rw [hsome, Option.isSome_some]
  · rw [hsome, Option.isSome_some]

end Spans

/-! ## The search -/

/-- A search that some grid ends comes to the point of the first such grid. -/
theorem shortestFrom_eq (i : Interval) (top : Int) (tries : Nat) : ∀ count : Nat,
    (∃ c, count ≤ c ∧ c < count + tries ∧ (onGrid? i (top - c)).isSome = true) →
      ∃ c q, c < count + tries ∧ onGrid? i (top - c) = some q ∧
        shortestFrom i top tries count = if q = Nat.pow 10 c then ⟨1, top⟩ else ⟨q, top - c⟩ := by
  induction tries with
  | zero =>
    rintro count ⟨c, hle, hlt, -⟩
    omega
  | succ tries ih =>
    rintro count ⟨c, hle, hlt, hsome⟩
    unfold shortestFrom
    cases hgrid : onGrid? i (top - count) with
    | some q => exact ⟨count, q, by omega, hgrid, rfl⟩
    | none =>
      have hne : c ≠ count := by
        rintro rfl
        rw [hgrid] at hsome
        cases hsome
      obtain ⟨c', q, hlt', hq, heq⟩ := ih (count + 1) ⟨c, by omega, by omega, hsome⟩
      exact ⟨c', q, by omega, hq, heq⟩

/-! ## The shortest decimal -/

/-- What 64 bits can hold: a mantissa of 53 bits and an exponent in the finite range. -/
structure Fits (x : Binary64) : Prop where
  mantissa : x.mantissa < 2 ^ 53
  lowest : minExponent ≤ x.exponent
  highest : x.exponent ≤ maxExponent

instance (x : Binary64) : Decidable x.Fits :=
  decidable_of_iff (x.mantissa < 2 ^ 53 ∧ minExponent ≤ x.exponent ∧ x.exponent ≤ maxExponent)
    ⟨fun h => ⟨h.1, h.2.1, h.2.2⟩, fun h => ⟨h.1, h.2, h.3⟩⟩

/-- A count of quarter units as a rational. -/
theorem div_quarters (n : Nat) (e : Int) :
    ((n * (if 0 ≤ e then Nat.pow 2 e.toNat else 1) : Nat) : ℚ) /
      (if 0 ≤ e then 4 else 4 * Nat.pow 2 (-e).toNat : Nat) = n / 4 * 2 ^ e := by
  split
  next h =>
    obtain ⟨k, rfl⟩ := Int.eq_ofNat_of_zero_le h
    simp
    ring
  next h =>
    obtain ⟨k, rfl⟩ := Int.exists_eq_neg_ofNat (le_of_not_ge h)
    simp [div_eq_mul_inv]
    ring

/-- The quarters of a unit below a number that still round to it. -/
def gap (x : Binary64) : Nat :=
  if x.mantissa = Nat.pow 2 52 ∧ minExponent < x.exponent then 1 else 2

theorem gap_cases (x : Binary64) : x.gap = 1 ∧ x.mantissa = 2 ^ 52 ∨ x.gap = 2 := by
  by_cases h : x.mantissa = Nat.pow 2 52 ∧ minExponent < x.exponent
  · exact Or.inl ⟨if_pos h, h.1⟩
  · exact Or.inr (if_neg h)

/-- Half a unit on either side rounds to a number; a quarter below a power of two. -/
theorem interval_spans {x : Binary64} (hpos : 0 < x.mantissa) :
    x.interval.Spans ((x.mantissa - x.gap / 4) * 2 ^ x.exponent) x.absValue
      ((x.mantissa + 1 / 2) * 2 ^ x.exponent) := by
  have hgap := x.gap_cases
  refine ⟨?_, ?_, ?_, ?_, ?_, ?_⟩
  · unfold interval
    dsimp only
    split <;> simp
  · refine (div_quarters (4 * x.mantissa - x.gap) x.exponent).trans ?_
    rw [Nat.cast_sub (by omega)]
    push_cast
    ring
  · refine (div_quarters (4 * x.mantissa) x.exponent).trans ?_
    rw [absValue]
    push_cast
    ring
  · refine (div_quarters (4 * x.mantissa + 2) x.exponent).trans ?_
    push_cast
    ring
  · unfold absValue
    gcongr
    linarith [(Nat.cast_nonneg x.gap : (0 : ℚ) ≤ x.gap)]
  · unfold absValue
    gcongr
    linarith

/-- Seventeen digits are enough: their grid is finer than the interval is wide. -/
theorem spacing_lt {x : Binary64} (hfits : x.mantissa < 2 ^ 53) {top : Int}
    (htop : (10 : ℚ) ^ (top - 1) ≤ x.absValue) :
    (10 : ℚ) ^ (top - 17) <
      (x.mantissa + 1 / 2) * 2 ^ x.exponent - (x.mantissa - x.gap / 4) * 2 ^ x.exponent := by
  have hunit : (0 : ℚ) < 2 ^ x.exponent := by positivity
  have hspacing : (10 : ℚ) ^ (top - 17) * 10 ^ 16 = 10 ^ (top - 1) := by
    rw [← zpow_natCast, ← zpow_add₀ (by norm_num)]
    congr 1
    push_cast
    ring
  have hless : (x.mantissa : ℚ) * 2 ^ x.exponent < 2 ^ 53 * 2 ^ x.exponent := by
    gcongr
    exact_mod_cast hfits
  unfold absValue at htop
  rw [← hspacing] at htop
  rw [← sub_mul]
  rcases x.gap_cases with ⟨hgap, hpower⟩ | hgap
  · rw [hpower] at htop ⊢
    rw [hgap]
    norm_num at htop ⊢
    linarith
  · rw [hgap]
    norm_num at htop hless ⊢
    linarith

/-- The numbers that 64 bits hold lie between two powers of two. -/
theorem absValue_bounds {x : Binary64} (hpos : 0 < x.mantissa) (hfits : x.Fits) :
    (2 : ℚ) ^ minExponent ≤ x.absValue ∧ x.absValue < 2 ^ (1024 : Int) := by
  have hone : (1 : ℚ) ≤ x.mantissa := by exact_mod_cast hpos
  have hmantissa : (x.mantissa : ℚ) < 2 ^ (53 : Int) := by exact_mod_cast hfits.mantissa
  unfold absValue
  constructor
  · calc (2 : ℚ) ^ minExponent ≤ 2 ^ x.exponent := zpow_le_zpow_right₀ one_le_two hfits.lowest
      _ = 1 * 2 ^ x.exponent := (one_mul _).symm
      _ ≤ x.mantissa * 2 ^ x.exponent := by gcongr
  · calc x.mantissa * 2 ^ x.exponent < (2 : ℚ) ^ (53 : Int) * 2 ^ x.exponent := by gcongr
      _ ≤ 2 ^ (53 : Int) * 2 ^ maxExponent := by
        gcongr
        · norm_num
        · exact hfits.highest
      _ = 2 ^ (1024 : Int) := (zpow_add₀ two_ne_zero 53 maxExponent).symm

/-- The magnitudes of the numbers that 64 bits hold. -/
theorem top_bounds {x : Binary64} (hpos : 0 < x.mantissa) (hfits : x.Fits) {top : Int}
    (hlow : (10 : ℚ) ^ (top - 1) ≤ x.absValue) (hhigh : x.absValue < 10 ^ top) :
    -324 < top ∧ top ≤ 309 := by
  obtain ⟨hleast, hmost⟩ := absValue_bounds hpos hfits
  have hlower : -324 < top := by
    refine (zpow_lt_zpow_iff_right₀ (by norm_num : (1 : ℚ) < 10)).1 ?_
    refine lt_of_le_of_lt ?_ (hleast.trans_lt hhigh)
    exact ten_zpow_le_two_zpow_of_nonpos (by decide) (by decide)
  have hupper : top - 1 < 309 := by
    refine (zpow_lt_zpow_iff_right₀ (by norm_num : (1 : ℚ) < 10)).1 ?_
    exact hlow.trans_lt (hmost.trans_le (two_zpow_le_ten_zpow_of_nonneg (by omega) (by omega)))
  omega

/-- A power of ten is the point with one digit and zeros after it on each finer grid. -/
theorem ten_zpow_eq_grid (top : Int) (c : Nat) : (10 : ℚ) ^ top = 10 ^ c * 10 ^ (top - c) := by
  rw [← zpow_natCast, ← zpow_add₀ (by norm_num), add_sub_cancel]

/-- A point on the grid of so many digits has no more digits, unless it is a power of ten. -/
theorem onGrid?_digits {x : Binary64} (hpos : 0 < x.mantissa) {top : Int}
    (htop : x.absValue < 10 ^ top) {c q : Nat} (hq : onGrid? x.interval (top - c) = some q) :
    0 < q ∧ q ≤ 10 ^ c ∧ (q : ℚ) * 10 ^ (top - c) ≤ (x.mantissa + 1 / 2) * 2 ^ x.exponent := by
  obtain ⟨hlow, hhigh, hnear⟩ := onGrid?_eq_some (interval_spans hpos) hq
  have hunit : (0 : ℚ) < 10 ^ (top - c) := by positivity
  refine ⟨?_, ?_, hhigh⟩
  · have hgap := x.gap_cases
    have hgap2 : (x.gap : ℚ) ≤ 2 := by exact_mod_cast (by omega : x.gap ≤ 2)
    have hone : (1 : ℚ) ≤ x.mantissa := by exact_mod_cast hpos
    have hquarter : (0 : ℚ) < x.mantissa - x.gap / 4 := by linarith
    have hpoint : (0 : ℚ) < q * 10 ^ (top - c) := (by positivity : (0 : ℚ) < _).trans_le hlow
    exact_mod_cast (mul_pos_iff_of_pos_right hunit).1 hpoint
  · rw [ten_zpow_eq_grid top c] at htop
    have hless := lt_of_mul_lt_mul_right (hnear.trans_lt htop) hunit.le
    have hcast : (q : ℚ) < (10 ^ c + 1 : Nat) := by
      push_cast
      linarith
    exact Nat.lt_succ_iff.1 (by exact_mod_cast hcast)

/-- The magnitude of a number that 64 bits hold. -/
theorem magnitude_interval_bounds {x : Binary64} (hpos : 0 < x.mantissa) (hfits : x.Fits) :
    let top := magnitude x.interval.value x.interval.den
    (10 : ℚ) ^ (top - 1) ≤ x.absValue ∧ x.absValue < 10 ^ top := by
  have hspans := interval_spans hpos
  obtain ⟨hleast, hmost⟩ := absValue_bounds hpos hfits
  rw [← hspans.value_eq] at hleast hmost ⊢
  refine magnitude_bounds (Nat.pos_of_ne_zero fun hzero => ?_) hspans.den_pos hleast hmost
  rw [hzero, Nat.cast_zero, zero_div] at hleast
  exact absurd hleast (not_le.2 (by positivity))

/-- **Shortest digits.**  The decimal of a number has at most seventeen digits, is not zero,
and lies no more than half a unit above the number. -/
theorem shortest_spec {x : Binary64} (hpos : 0 < x.mantissa) (hfits : x.Fits) :
    0 < x.shortest.digits ∧ x.shortest.digits ≤ 10 ^ 17 ∧
      -400 ≤ x.shortest.exponent ∧ x.shortest.exponent ≤ 400 ∧
      (x.shortest.digits : ℚ) * 10 ^ x.shortest.exponent ≤
        (x.mantissa + 1 / 2) * 2 ^ x.exponent := by
  have hshortest : x.shortest =
      shortestFrom x.interval (magnitude x.interval.value x.interval.den) 17 1 := rfl
  obtain ⟨hlow, hhigh⟩ := magnitude_interval_bounds hpos hfits
  rw [hshortest]
  generalize magnitude x.interval.value x.interval.den = top at hlow hhigh ⊢
  obtain ⟨hlower, hupper⟩ := top_bounds hpos hfits hlow hhigh
  -- The last grid ends the search, if no grid before it did.
  have hlast : (onGrid? x.interval (top - (17 : Nat))).isSome = true :=
    onGrid?_isSome (interval_spans hpos) (spacing_lt hfits.mantissa hlow)
  obtain ⟨c, q, hc, hq, heq⟩ :=
    shortestFrom_eq x.interval top 17 1 ⟨17, by omega, by omega, hlast⟩
  obtain ⟨hqpos, hqle, hend⟩ := onGrid?_digits hpos hhigh hq
  rw [heq]
  split
  next hpower =>
    -- A power of ten is written with one digit, and stays the same rational.
    refine ⟨Nat.one_pos, Nat.one_le_pow 17 10 (by decide), ?_, ?_, ?_⟩
    · dsimp only
      omega
    · dsimp only
      omega
    · rw [hpower, Nat.pow_eq, Nat.cast_pow, Nat.cast_ofNat, ← ten_zpow_eq_grid] at hend
      rwa [Nat.cast_one, one_mul]
  next =>
    refine ⟨hqpos, ?_, ?_, ?_, hend⟩
    · exact hqle.trans (Nat.pow_le_pow_right (by decide) (by omega))
    · dsimp only
      omega
    · dsimp only
      omega

end PropertyGraph.Binary64
