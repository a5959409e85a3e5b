import Mathlib.Data.List.Basic
import Mathlib.Tactic.Conv
import PropertyGraph.Text.Case

/-!
# Case of ASCII texts

The case mappings know all letters, but on ASCII texts they do what one expects: letter by letter,
between `A` to `Z` and `a` to `z` (`toList_lower`, `toList_upper`).  Two facts need the whole
table, because they are about texts of any kind:

> `isUpper_of_mem_lower`: no lower-case form contains a capital of ASCII, whatever the letters were.

> `lower_eq_self`: so an ASCII text that is a lower-case form is its own.
-/

namespace PropertyGraph.Text

/-- A text of ASCII characters. -/
def IsAscii (s : String) : Prop := ∀ c ∈ s.toList, c.toNat < 128

/-! ## Characters -/

/-- What holds of the first 128 code points holds of every ASCII character. -/
theorem forall_of_lt {P : Char → Prop} (h : ∀ n < 128, P (Char.ofNat n)) {c : Char}
    (hc : c.toNat < 128) : P c := by
  have hchar := h c.toNat hc
  rwa [Char.ofNat_toNat] at hchar

theorem lowerChar_of_lt {c : Char} : c.toNat < 128 → lowerChar c = [c.toLower] :=
  forall_of_lt (P := fun c => lowerChar c = [c.toLower]) (by decide +kernel)

theorem upperChar_of_lt {c : Char} : c.toNat < 128 → upperChar c = [c.toUpper] :=
  forall_of_lt (P := fun c => upperChar c = [c.toUpper]) (by decide +kernel)

theorem toNat_toLower_lt {c : Char} : c.toNat < 128 → c.toLower.toNat < 128 :=
  forall_of_lt (P := fun c => c.toLower.toNat < 128) (by decide +kernel)

theorem toNat_toUpper_lt {c : Char} : c.toNat < 128 → c.toUpper.toNat < 128 :=
  forall_of_lt (P := fun c => c.toUpper.toNat < 128) (by decide +kernel)

theorem isUpper_eq_false_iff (c : Char) : c.isUpper = false ↔ ¬ (65 ≤ c.toNat ∧ c.toNat ≤ 90) :=
  decide_eq_false_iff_not

theorem toLower_toUpper_of_lt {c : Char} : c.toNat < 128 → c.toUpper.toLower = c.toLower :=
  forall_of_lt (P := fun c => c.toUpper.toLower = c.toLower) (by decide +kernel)

theorem toLower_eq_self_of_lt {c : Char} : c.toNat < 128 → c.isUpper = false → c.toLower = c :=
  forall_of_lt (P := fun c => c.isUpper = false → c.toLower = c) (by decide +kernel)

/-- No code point beyond them stands for a capital of ASCII. -/
theorem isUpper_ofNat {n : Nat} (h : 90 < n) : (Char.ofNat n).isUpper = false := by
  by_cases hvalid : n.isValidChar
  · have hcode : (Char.ofNat n).toNat = n := by
      rw [show Char.ofNat n = Char.ofNatAux n hvalid from dif_pos hvalid]
      rfl
    rw [isUpper_eq_false_iff, hcode]
    omega
  · rw [show Char.ofNat n = '\x00' from dif_neg hvalid]
    rfl

/-- The lower-case form of a character contains no capital of ASCII. -/
theorem isUpper_of_mem_lowerChar {c d : Char} (h : d ∈ lowerChar c) : d.isUpper = false := by
  -- The capitals themselves are in the table, and all images lie beyond them.
  have himages : ∀ run ∈ lowerRuns, 90 < run.image := by decide +kernel
  have hcapitals : ∀ n < 91, 65 ≤ n → (imageIn lowerRuns n).isSome = true := by decide +kernel
  unfold lowerChar at h
  cases himage : imageIn lowerRuns c.toNat with
  | some n =>
    obtain ⟨run, hrun, hn⟩ := List.exists_of_findSome?_eq_some himage
    have hbeyond := himages run hrun
    rw [himage, List.mem_singleton] at h
    rw [h]
    unfold Run.image? at hn
    split at hn
    next => exact isUpper_ofNat (by have heq := Option.some.inj hn; omega)
    next => cases hn
  | none =>
    rw [himage] at h
    dsimp only at h
    split at h
    next =>
      rcases List.mem_pair.1 h with rfl | rfl
      · decide
      · decide
    next =>
      rw [List.mem_singleton.1 h, isUpper_eq_false_iff]
      rintro ⟨hlow, hhigh⟩
      have hsome := hcapitals c.toNat (by omega) hlow
      rw [himage] at hsome
      cases hsome

/-! ## Texts -/

theorem lowerAfter_of_lt : ∀ {cs : List Char}, (∀ c ∈ cs, c.toNat < 128) → ∀ before,
    lowerAfter before cs = cs.map Char.toLower
  | [], _, _ => rfl
  | c :: rest, h, before => by
    obtain ⟨hc, hrest⟩ := List.forall_mem_cons.1 h
    have hsigma : c ≠ 'Σ' := by
      rintro rfl
      exact absurd hc (by decide)
    rw [lowerAfter, if_neg hsigma, lowerChar_of_lt hc, lowerAfter_of_lt hrest]
    rfl

variable {s t : String}

theorem toList_lower (h : IsAscii s) : (lower s).toList = s.toList.map Char.toLower := by
  rw [lower, String.toList_ofList, lowerAfter_of_lt h]

theorem toList_upper (h : IsAscii s) : (upper s).toList = s.toList.map Char.toUpper := by
  have hletters : ∀ {cs : List Char}, (∀ c ∈ cs, c.toNat < 128) →
      cs.flatMap upperChar = cs.map Char.toUpper := by
    intro cs hcs
    induction cs with
    | nil => rfl
    | cons c rest ih =>
      obtain ⟨hc, hrest⟩ := List.forall_mem_cons.1 hcs
      rw [List.flatMap_cons, upperChar_of_lt hc, ih hrest]
      rfl
  rw [upper, String.toList_ofList, hletters h]

theorem IsAscii.lower (h : IsAscii s) : IsAscii (lower s) := by
  intro c hc
  rw [toList_lower h] at hc
  obtain ⟨d, hd, rfl⟩ := List.mem_map.1 hc
  exact toNat_toLower_lt (h d hd)

theorem IsAscii.upper (h : IsAscii s) : IsAscii (upper s) := by
  intro c hc
  rw [toList_upper h] at hc
  obtain ⟨d, hd, rfl⟩ := List.mem_map.1 hc
  exact toNat_toUpper_lt (h d hd)

theorem lower_upper (h : IsAscii s) : Text.lower (Text.upper s) = Text.lower s := by
  refine String.toList_injective ?_
  rw [toList_lower h.upper, toList_upper h, toList_lower h, List.map_map]
  exact List.map_congr_left fun c hc => toLower_toUpper_of_lt (h c hc)

/-- No lower-case form contains a capital of ASCII. -/
theorem isUpper_of_mem_lower {c : Char} (h : c ∈ (Text.lower s).toList) : c.isUpper = false := by
  suffices hafter : ∀ {cs before : List Char}, c ∈ lowerAfter before cs → c.isUpper = false by
    rw [Text.lower, String.toList_ofList] at h
    exact hafter h
  intro cs
  induction cs with
  | nil => exact fun hc => nomatch hc
  | cons d rest ih =>
    intro before hc
    rw [lowerAfter] at hc
    rcases List.mem_append.1 hc with hform | hrest
    · split at hform
      next =>
        split at hform
        next => rw [List.mem_singleton.1 hform]; decide
        next => rw [List.mem_singleton.1 hform]; decide
      next => exact isUpper_of_mem_lowerChar hform
    · exact ih hrest

/-- An ASCII text that is the lower-case form of some text is its own. -/
theorem lower_eq_self (h : IsAscii (Text.lower s)) : Text.lower (Text.lower s) = Text.lower s := by
  refine String.toList_injective ?_
  rw [toList_lower h]
  conv_rhs => rw [← List.map_id (Text.lower s).toList]
  exact List.map_congr_left fun c hc => toLower_eq_self_of_lt (h c hc) (isUpper_of_mem_lower hc)

end PropertyGraph.Text
