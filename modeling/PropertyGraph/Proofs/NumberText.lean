import PropertyGraph.Proofs.NumeralReading

/-!
# Spellings of numbers

The text of an integer and that of a floating-point number are spellings in the sense of
`NumeralReading.lean`, whichever notation is chosen, and what they spell is a number.

> `exists_spelling_integer` and `exists_spelling_float`: every number of 64 bits has a text
> that is read back as a number, and an integer as itself.
-/

namespace PropertyGraph

open Numeral

/-- The digits of a number do not start with a zero unless that is all there is. -/
theorem toDigits_leading (n : Nat) :
    (Nat.toDigits 10 n).head? = some '0' → Nat.toDigits 10 n = ['0'] := by
  induction n using Nat.strongRecOn with
  | ind n ih =>
    rw [Nat.toDigits_eq_if (by decide)]
    split
    next =>
      intro hhead
      rw [List.head?_cons, Option.some.injEq] at hhead
      rw [hhead]
    next hge =>
      intro hhead
      rw [List.head?_append_of_ne_nil _ Nat.toDigits_ne_nil] at hhead
      have hlead := ih (n / 10) (by omega) hhead
      have hzero : n / 10 = 0 := by
        rw [← Nat.ofDigitChars_ten_toDigits (n := n / 10), hlead]
        rfl
      omega

namespace Spelling

/-- A number with a point or an exponent is no integer. -/
theorem isSome_value? {s : Spelling} (h : s.WellFormed)
    (hpoint : s.fraction ≠ [] ∨ s.exponent ≠ none)
    (hvalue : s.numeral.toBinary64?.isSome = true) : s.numeral.value?.isSome = true := by
  have hintegral : s.numeral.isIntegral = false := by
    unfold isIntegral numeral
    rcases hpoint with hfraction | hexponent
    · obtain ⟨d, ds, hvalues⟩ := Json.exists_digitValues h.fraction hfraction
      rw [hvalues]
      rfl
    · cases hcase : s.exponent with
      | none => exact absurd hcase hexponent
      | some e => simp
  unfold Numeral.value?
  rw [hintegral]
  cases fit 0 s.numeral.whole with
  | mk whole dropped =>
    dsimp only
    rw [Bool.false_and, if_neg Bool.false_ne_true, Option.isSome_map]
    exact hvalue

/-- The spelling of an integer. -/
def ofInteger (n : Int) : Spelling := ⟨decide (n < 0), Nat.toDigits 10 n.natAbs, [], none⟩

/-- The spelling of an integer denotes it, if it fits 64 bits. -/
theorem value?_ofInteger {n : Int} (hlow : -2 ^ 63 ≤ n) (hhigh : n < 2 ^ 64) :
    (ofInteger n).numeral.value? = some (.integer n) := by
  have hwhole : fit 0 (digitValues (Nat.toDigits 10 n.natAbs)) = (n.natAbs, []) := by
    rw [fit_digitValues (allDigits_toDigits _), Nat.ofDigitChars_ten_toDigits]
    rw [Nat.ofDigitChars_ten_toDigits]
    omega
  unfold Numeral.value? isIntegral numeral ofInteger
  dsimp only
  rw [hwhole]
  by_cases hneg : n < 0
  · have hne : n.natAbs ≠ 0 := by omega
    have hfit : n.natAbs ≤ Nat.pow 2 63 := by
      show n.natAbs ≤ 2 ^ 63
      omega
    simp [hneg, hne, hfit, digitValues, abs_of_neg]
  · simp [hneg, digitValues, abs_of_nonneg (Int.not_lt.1 hneg)]

end Spelling

/-- **Integers.**  The text of an integer of 64 bits is read back. -/
theorem exists_spelling_integer {n : Int} (hlow : -2 ^ 63 ≤ n) (hhigh : n < 2 ^ 64) :
    ∃ s : Spelling, s.WellFormed ∧ (toString n).toList = s.text ∧
      s.numeral.value? = some (.integer n) := by
  have hwell : (Spelling.ofInteger n).WellFormed := by
    refine ⟨allDigits_toDigits _, ?_, ?_, Nat.toDigits_ne_nil, toDigits_leading _⟩
    · exact fun c hc => (List.not_mem_nil hc).elim
    · exact fun e he => (Option.not_mem_none e he).elim
  refine ⟨Spelling.ofInteger n, hwell, ?_, Spelling.value?_ofInteger hlow hhigh⟩
  cases n with
  | ofNat n =>
    rw [Int.ofNat_eq_natCast, Text.toList_toString_natCast]
    simp [Spelling.ofInteger, Spelling.text, Spelling.unsignedText, Spelling.fractionText,
      Spelling.exponentText]
  | negSucc n =>
    rw [Text.toList_toString_negSucc]
    simp [Spelling.ofInteger, Spelling.text, Spelling.unsignedText, Spelling.fractionText,
      Spelling.exponentText, Int.negSucc_lt_zero]

/-! ## Floating-point numbers -/

theorem ofDigitChars_zeros (k n : Nat) :
    Nat.ofDigitChars 10 (FloatStyle.zeros k) n = n * 10 ^ k := by
  induction k generalizing n with
  | zero => simp [FloatStyle.zeros, Nat.ofDigitChars]
  | succ k ih =>
    rw [FloatStyle.zeros, List.replicate_succ, Nat.ofDigitChars_cons, ← FloatStyle.zeros, ih]
    simp only [Nat.sub_self, Nat.add_zero]
    ring

/-- What the text of a number has to be: a spelling that denotes a number, in one notation or
the other. -/
def ReadBack (negative : Bool) (body : List Char) : Prop :=
  ∃ s : Spelling, s.WellFormed ∧ s.negative = negative ∧ s.unsignedText = body ∧
    s.numeral.value?.isSome = true

/-- With a point and no exponent the power is negative, so the digits need only fit. -/
theorem readBack_pointed (negative : Bool) {whole fraction : List Char} (hwhole : AllDigits whole)
    (hleading : whole ≠ [] ∧ (whole.head? = some '0' → whole = ['0']))
    (hfraction : AllDigits fraction) (hne : fraction ≠ [])
    (hfit : Nat.ofDigitChars 10 (whole ++ fraction) 0 < 2 ^ 64) :
    ReadBack negative (whole ++ '.' :: fraction) := by
  let s : Spelling := ⟨negative, whole, fraction, none⟩
  have hwell : s.WellFormed :=
    ⟨hwhole, hfraction, fun e he => (Option.not_mem_none e he).elim, hleading⟩
  have hpower : s.exponentValue - s.fraction.length < 0 := by
    have hpos : 0 < s.fraction.length := List.length_pos_iff.2 hne
    have hzero : s.exponentValue = 0 := rfl
    omega
  have hvalue : s.numeral.toBinary64?.isSome = true :=
    Spelling.isSome_toBinary64? hwell hfit (Nat.zero_le _) (scale_of_neg hfit hpower)
  refine ⟨s, hwell, rfl, ?_, Spelling.isSome_value? hwell (Or.inl hne) hvalue⟩
  cases fraction with
  | nil => exact absurd rfl hne
  | cons c cs =>
    show (whole ++ '.' :: c :: cs) ++ [] = whole ++ '.' :: c :: cs
    exact List.append_nil _

namespace Spelling

/-- The spelling with one digit before the point and an exponent. -/
def ofScientific (negative : Bool) (c : Char) (cs : List Char) (first : Int) : Spelling :=
  ⟨negative, [c], cs, some (decide (first < 0), FloatStyle.digitsOf first.natAbs)⟩

theorem wellFormed_ofScientific (negative : Bool) {c : Char} {cs : List Char}
    (hdigits : AllDigits (c :: cs)) (hne : c ≠ '0') (first : Int) :
    (ofScientific negative c cs first).WellFormed where
  whole := by
    intro d hd
    rw [List.mem_singleton.1 hd]
    exact hdigits c List.mem_cons_self
  fraction d hd := hdigits d (List.mem_cons_of_mem c hd)
  exponent := by
    intro e he
    cases he
    exact ⟨allDigits_toDigits _, Nat.toDigits_ne_nil⟩
  leading := ⟨List.cons_ne_nil c [], fun hzero => absurd (Option.some.inj hzero) hne⟩

theorem exponentValue_ofScientific (negative : Bool) (c : Char) (cs : List Char) (first : Int) :
    (ofScientific negative c cs first).exponentValue = first := by
  show (if decide (first < 0) then -(Nat.ofDigitChars 10 (Nat.toDigits 10 first.natAbs) 0 : Int)
    else (Nat.ofDigitChars 10 (Nat.toDigits 10 first.natAbs) 0 : Int)) = first
  rw [Nat.ofDigitChars_ten_toDigits]
  split
  next hneg =>
    rw [decide_eq_true_iff] at hneg
    omega
  next hnonneg =>
    rw [decide_eq_true_iff] at hnonneg
    omega

theorem unsignedText_ofScientific (negative : Bool) (c : Char) (cs : List Char) (first : Int) :
    (ofScientific negative c cs first).unsignedText = FloatStyle.scientific (c :: cs) first := by
  have hsign : (if decide (first < 0) = true then '-' else '+') =
      if first < 0 then '-' else '+' := by simp only [decide_eq_true_iff]
  cases cs with
  | nil => exact congrArg (fun sign => c :: 'e' :: sign :: _) hsign
  | cons d ds =>
    show c :: '.' :: d :: ds ++ 'e' :: (if decide (first < 0) = true then '-' else '+') :: _ = _
    rw [hsign]
    rfl

end Spelling

section Float

variable {q : Nat} (hq : 0 < q) (negative : Bool)

include hq

theorem head?_toDigits_ne : (Nat.toDigits 10 q).head? ≠ some '0' := by
  intro hhead
  have hzero : q = Nat.ofDigitChars 10 ['0'] 0 := by
    rw [← toDigits_leading q hhead, Nat.ofDigitChars_ten_toDigits]
  exact hq.ne' hzero

/-- A whole number, with one zero after the point. -/
theorem readBack_whole (k : Nat) (hfit : q * 10 ^ k * 10 < 2 ^ 64) :
    ReadBack negative (Nat.toDigits 10 q ++ FloatStyle.zeros k ++ ['.', '0']) := by
  refine readBack_pointed negative ((allDigits_toDigits q).append (allDigits_zeros k)) ?_
    (allDigits_zeros 1) (List.cons_ne_nil _ _) ?_
  · refine ⟨List.append_ne_nil_of_left_ne_nil Nat.toDigits_ne_nil _, fun hhead => ?_⟩
    rw [List.head?_append_of_ne_nil _ Nat.toDigits_ne_nil] at hhead
    exact absurd hhead (head?_toDigits_ne hq)
  · rw [Nat.ofDigitChars_append, Nat.ofDigitChars_append, Nat.ofDigitChars_ten_toDigits,
      ofDigitChars_zeros, show ['0'] = FloatStyle.zeros 1 from rfl, ofDigitChars_zeros, pow_one]
    exact hfit

/-- A number with a point among its digits. -/
theorem readBack_point {places : Nat} (hpos : 0 < places)
    (hplaces : places < (Nat.toDigits 10 q).length) (hfit : q < 2 ^ 64) :
    ReadBack negative ((Nat.toDigits 10 q).take ((Nat.toDigits 10 q).length - places) ++
      '.' :: (Nat.toDigits 10 q).drop ((Nat.toDigits 10 q).length - places)) := by
  have hdigits := allDigits_toDigits q
  have hhead := head?_toDigits_ne hq
  have hvalue := Nat.ofDigitChars_ten_toDigits (n := q)
  generalize Nat.toDigits 10 q = cs at hplaces hdigits hhead hvalue ⊢
  refine readBack_pointed negative (fun c hc => hdigits c (List.mem_of_mem_take hc)) ?_
    (fun c hc => hdigits c (List.mem_of_mem_drop hc)) ?_ ?_
  · have hlength : cs.length - places ≠ 0 := by omega
    rw [List.head?_take, if_neg hlength]
    refine ⟨fun hnil => ?_, fun hzero => absurd hzero hhead⟩
    rw [List.take_eq_nil_iff] at hnil
    rcases hnil with hnil | hnil
    · exact hlength hnil
    · rw [hnil] at hplaces
      exact absurd hplaces (Nat.not_lt_zero _)
  · rw [ne_eq, List.drop_eq_nil_iff]
    omega
  · rw [List.take_append_drop, hvalue]
    exact hfit

omit hq in
/-- A number below one. -/
theorem readBack_below (k : Nat) (hfit : q < 2 ^ 64) :
    ReadBack negative ('0' :: '.' :: FloatStyle.zeros k ++ Nat.toDigits 10 q) := by
  show ReadBack negative (['0'] ++ '.' :: (FloatStyle.zeros k ++ Nat.toDigits 10 q))
  refine readBack_pointed negative (allDigits_zeros 1) ?_
    ((allDigits_zeros k).append (allDigits_toDigits q)) ?_ ?_
  · exact ⟨List.cons_ne_nil _ _, fun _ => rfl⟩
  · exact List.append_ne_nil_of_right_ne_nil _ Nat.toDigits_ne_nil
  · rw [Nat.ofDigitChars_append, Nat.ofDigitChars_append, ofDigitChars_zeros,
      show Nat.ofDigitChars 10 ['0'] 0 = 0 from rfl, Nat.zero_mul, Nat.ofDigitChars_ten_toDigits]
    exact hfit

/-- A number with an exponent. -/
theorem readBack_scientific {first : Int} (hfit : q < 2 ^ 64)
    (hfirst : first.natAbs ≤ Numeral.maxExponent)
    (hscale : (scale q (first - ((Nat.toDigits 10 q).length - 1 : Nat))).isSome = true) :
    ReadBack negative (FloatStyle.scientific (Nat.toDigits 10 q) first) := by
  have hdigits := allDigits_toDigits q
  have hhead := head?_toDigits_ne hq
  have hvalue := Nat.ofDigitChars_ten_toDigits (n := q)
  cases hcs : Nat.toDigits 10 q with
  | nil => exact absurd hcs Nat.toDigits_ne_nil
  | cons c cs =>
    rw [hcs] at hdigits hhead hvalue hscale
    let s := Spelling.ofScientific negative c cs first
    have hwell : s.WellFormed :=
      Spelling.wellFormed_ofScientific negative hdigits (fun hc => hhead (congrArg some hc)) first
    have hexponent : s.exponentValue = first :=
      Spelling.exponentValue_ofScientific negative c cs first
    have hsignificand : s.significand = q := hvalue
    have hbinary : s.numeral.toBinary64?.isSome = true := by
      refine Spelling.isSome_toBinary64? hwell ?_ ?_ ?_
      · rwa [hsignificand]
      · rwa [hexponent]
      · rw [hsignificand, hexponent]
        exact hscale
    exact ⟨s, hwell, rfl, Spelling.unsignedText_ofScientific negative c cs first,
      Spelling.isSome_value? hwell (Or.inr nofun) hbinary⟩

end Float

section Body

variable {q : Nat} {e : Int} (hq : 0 < q) (hle : q ≤ 10 ^ 17) (negative : Bool)

include hq hle

/-- Positional notation, for numbers whose first digit is not far before the point. -/
theorem readBack_positional
    (hfirst : e + ((Nat.toDigits 10 q).length : Int) - 1 ≤ Json.floatStyle.highest) :
    ReadBack negative (FloatStyle.positional (Nat.toDigits 10 q) e) := by
  have hfit : q < 2 ^ 64 := lt_of_le_of_lt hle (by decide)
  unfold FloatStyle.positional
  split
  next hwhole =>
    refine readBack_whole hq negative e.toNat ?_
    have hlength : (Nat.toDigits 10 q).length + e.toNat ≤ 16 := by
      unfold Json.floatStyle at hfirst
      dsimp only at hfirst
      omega
    have hless : q < 10 ^ (Nat.toDigits 10 q).length :=
      (Nat.length_toDigits_le_iff (by decide) (List.length_pos_iff.2 Nat.toDigits_ne_nil)).1 le_rfl
    calc q * 10 ^ e.toNat * 10 ≤ 10 ^ (Nat.toDigits 10 q).length * 10 ^ e.toNat * 10 := by
          gcongr
      _ = 10 ^ ((Nat.toDigits 10 q).length + e.toNat) * 10 := by rw [pow_add]
      _ ≤ 10 ^ 16 * 10 := by
          gcongr
          norm_num
      _ < 2 ^ 64 := by norm_num
  next hbelow =>
    dsimp only
    split
    next hplaces => exact readBack_point hq negative (by omega) hplaces hfit
    next => exact readBack_below negative _ hfit

/-- Notation with an exponent, for decimals in the finite range. -/
theorem readBack_exponent (hlow : -400 ≤ e) (hhigh : e ≤ 400)
    (hscale : (scale q e).isSome = true) :
    ReadBack negative (FloatStyle.scientific (Nat.toDigits 10 q)
      (e + ((Nat.toDigits 10 q).length : Int) - 1)) := by
  have hpos : 0 < (Nat.toDigits 10 q).length := List.length_pos_iff.2 Nat.toDigits_ne_nil
  have hlength : (Nat.toDigits 10 q).length ≤ 18 :=
    (Nat.length_toDigits_le_iff (by decide) (by decide)).2 (lt_of_le_of_lt hle (by decide))
  refine readBack_scientific hq negative (lt_of_le_of_lt hle (by decide)) ?_ ?_
  · rw [show Numeral.maxExponent = 2147483647 from rfl]
    omega
  · rwa [show e + ((Nat.toDigits 10 q).length : Int) - 1 - ((Nat.toDigits 10 q).length - 1 : Nat) =
      e by omega]

end Body

/-- **Floating-point numbers.**  The text of a floating-point number of 64 bits is read back. -/
theorem exists_spelling_float {x : Binary64} (hfits : x.Fits) :
    ∃ s : Spelling, s.WellFormed ∧ (Json.floatStyle.text x).toList = s.text ∧
      s.numeral.value?.isSome = true := by
  have hbody : ReadBack x.negative (if x.isZero then ['0', '.', '0'] else
      let d := x.shortest
      let digits := FloatStyle.digitsOf d.digits
      let first : Int := d.exponent + (digits.length : Int) - 1
      if Json.floatStyle.lowest ≤ first ∧ first ≤ Json.floatStyle.highest then
        FloatStyle.positional digits d.exponent
      else FloatStyle.scientific digits first) := by
    split
    next =>
      exact readBack_pointed x.negative (allDigits_zeros 1) ⟨List.cons_ne_nil _ _, fun _ => rfl⟩
        (allDigits_zeros 1) (List.cons_ne_nil _ _) (by decide)
    next hzero =>
      have hpos : 0 < x.mantissa := by
        rw [Binary64.isZero, beq_iff_eq] at hzero
        exact Nat.pos_of_ne_zero hzero
      obtain ⟨hq, hle, hlow, hhigh, -⟩ := Binary64.shortest_spec hpos hfits
      dsimp only
      split
      next hstyle => exact readBack_positional hq hle x.negative hstyle.2
      next =>
        exact readBack_exponent hq hle x.negative hlow hhigh (scale_shortest hpos hfits)
  obtain ⟨s, hwell, hnegative, htext, hvalue⟩ := hbody
  refine ⟨s, hwell, ?_, hvalue⟩
  unfold FloatStyle.text Spelling.text
  rw [String.toList_ofList, hnegative, htext]

end PropertyGraph
