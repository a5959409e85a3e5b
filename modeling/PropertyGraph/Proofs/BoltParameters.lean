import PropertyGraph.Proofs.RemoteStoring
import PropertyGraph.Proofs.Rounding

/-!
# Parameters over Bolt

A parameter is a JSON value that travels beside a statement.  JSON has integers of 64 bits with a
sign and without one, Bolt only the former; the integers that Bolt has no room for go as
floating-point numbers, and all else goes as what it is.

What a value has inside is told by paths: steps to the items of lists and to the members of maps,
from the outside in.  Taking one step and turning a value into a parameter can be exchanged
(`part?_ofJson`), hence so can following a path (`at?_ofJson`), and it remains to look at a
single level.

> Main result (`ofJson_carries`): at every path a parameter has what the JSON value has there.
> Integers that Bolt has room for are the same integers, wherever they stand.
-/

namespace PropertyGraph

/-- A step into a value: to an item of a list, or to a member of a map. -/
inductive PathStep
  | item (position : Nat)
  | member (key : String)

/-- The way to a part of a value, from the outside in. -/
abbrev Path := List PathStep

namespace Json

/-- The part of a value that is one step away. -/
def part? : PathStep → Json → Option Json
  | .item position, .array items => items[position]?
  | .member key, .object members => members.lookup key
  | _, _ => none

/-- The part of a value at the end of a path. -/
def at? : Path → Json → Option Json
  | [], j => some j
  | step :: rest, j => (j.part? step).bind (at? rest)

end Json

namespace Bolt.Value

/-- The part of a parameter that is one step away. -/
def part? : PathStep → Value → Option Value
  | .item position, .list items => items[position]?
  | .member key, .map members => members.lookup key
  | _, _ => none

/-- The part of a parameter at the end of a path. -/
def at? : Path → Value → Option Value
  | [], v => some v
  | step :: rest, v => (v.part? step).bind (at? rest)

/-- A parameter carries a JSON value, apart from what is inside: it is of the same kind, simple
values are the same, lists are as long and maps have the same keys.  An integer that has no room is
carried by the floating-point number for it. -/
inductive Carries : Json → Value → Prop
  | null : Carries .null .null
  | boolean (b : Bool) : Carries (.bool b) (.boolean b)
  | integer {n : Int} (room : Text.int64Min ≤ n ∧ n ≤ Text.int64Max) :
    Carries (.integer n) (.integer n)
  | approximate {n : Int} (noRoom : ¬ (Text.int64Min ≤ n ∧ n ≤ Text.int64Max)) :
    Carries (.integer n) (.float (Binary64.ofInt n))
  | float (x : Binary64) : Carries (.float x) (.float x)
  | string (s : String) : Carries (.string s) (.string s)
  | list {items : List Json} {values : List Value} (length : values.length = items.length) :
    Carries (.array items) (.list values)
  | map {members : List (String × Json)} {values : List (String × Value)}
    (keys : values.map Prod.fst = members.map Prod.fst) : Carries (.object members) (.map values)

/-! ## One level -/

theorem ofItems_eq_map (items : List Json) : ofItems items = items.map ofJson := by
  induction items with
  | nil => rfl
  | cons j rest ih => rw [ofItems, ih, List.map_cons]

theorem ofMembers_eq_map (members : List (String × Json)) :
    ofMembers members = members.map fun m => (m.1, ofJson m.2) := by
  induction members with
  | nil => rfl
  | cons member rest ih => rw [ofMembers, ih, List.map_cons]

/-- A member is looked up as the parameter for the member of the object. -/
theorem lookup_ofMembers (key : String) (members : List (String × Json)) :
    (ofMembers members).lookup key = (members.lookup key).map ofJson := by
  induction members with
  | nil => rfl
  | cons member rest ih =>
    rw [ofMembers, List.lookup_cons, List.lookup_cons, ih]
    cases key == member.1 <;> rfl

/-- An integer goes as itself if there is room for it. -/
theorem ofInt_eq (n : Int) : ofInt n =
    if Text.int64Min ≤ n ∧ n ≤ Text.int64Max then .integer n else .float (Binary64.ofInt n) := by
  unfold ofInt isInteger
  simp only [decide_eq_true_eq]

/-- A parameter is of the kind of its JSON value. -/
theorem carries_ofJson (j : Json) : Carries j (ofJson j) := by
  cases j with
  | null => exact .null
  | bool b => exact .boolean b
  | float x => exact .float x
  | string s => exact .string s
  | integer n =>
    rw [ofJson, ofInt_eq]
    by_cases hroom : Text.int64Min ≤ n ∧ n ≤ Text.int64Max
    · rw [if_pos hroom]
      exact .integer hroom
    · rw [if_neg hroom]
      exact .approximate hroom
  | array items =>
    rw [ofJson, ofItems_eq_map]
    exact .list (List.length_map ofJson)
  | object members =>
    rw [ofJson, ofMembers_eq_map]
    exact .map (by rw [List.map_map]; rfl)

/-- A step into a parameter leads to the parameter for what it leads to in the JSON value. -/
theorem part?_ofJson (step : PathStep) (j : Json) :
    (ofJson j).part? step = (j.part? step).map ofJson := by
  have hinteger : ∀ n, (ofInt n).part? step = none := by
    intro n
    rw [ofInt_eq]
    split <;> cases step <;> rfl
  cases j with
  | integer n =>
    rw [ofJson, hinteger]
    cases step <;> rfl
  | array items =>
    cases step with
    | item position =>
      rw [ofJson, ofItems_eq_map]
      exact List.getElem?_map
    | member key => rfl
  | object members =>
    cases step with
    | item position => rfl
    | member key => exact lookup_ofMembers key members
  | null => cases step <;> rfl
  | bool b => cases step <;> rfl
  | float x => cases step <;> rfl
  | string s => cases step <;> rfl

/-! ## All levels -/

/-- A path into a parameter leads to the parameter for what it leads to in the JSON value. -/
theorem at?_ofJson (path : Path) (j : Json) :
    (ofJson j).at? path = (j.at? path).map ofJson := by
  induction path generalizing j with
  | nil => rfl
  | cons step rest ih =>
    rw [at?, Json.at?, part?_ofJson]
    cases j.part? step with
    | none => rfl
    | some part => exact ih part

/-- The floating-point number for an integer without a sign that Bolt has no room for is positive,
and off by less than the distance to the next such number. -/
theorem ofInt_approximates {n : Int} (hlow : Text.int64Max < n) (hhigh : n < 2 ^ 64) :
    (Binary64.ofInt n).negative = false ∧ |(Binary64.ofInt n).absValue - n| < 2 ^ 11 := by
  have hpos : 0 < n := Int.lt_trans (by decide) hlow
  obtain ⟨k, rfl⟩ := Int.eq_ofNat_of_zero_le hpos.le
  have hk : (k : ℚ) < 2 ^ 64 := by exact_mod_cast hhigh
  have hlimit : (k : ℚ) / (1 : Nat) < Binary64.limit := by
    rw [Nat.cast_one, div_one, Binary64.limit]
    calc (k : ℚ) < 2 ^ 53 * 2 ^ (11 : Int) := by linarith
      _ ≤ (2 ^ 54 - 1) * 2 ^ (Binary64.maxExponent - 1) :=
        mul_le_mul (by norm_num) (zpow_le_zpow_right₀ one_le_two (by decide)) (by norm_num)
          (by norm_num)
  obtain ⟨x, hx, herror⟩ := Binary64.exists_ofRatio? false hlimit
  have hvalue : Binary64.ofInt k = x := by
    have hcast : Binary64.ofInt k = (Binary64.ofRatio? false k 1).getD (Binary64.zero false) := rfl
    rw [hcast, hx, Option.getD_some]
  have hshare : (k : ℚ) / 2 ^ 53 < 2 ^ 11 := by
    rw [div_lt_iff₀ (by norm_num)]
    exact lt_of_lt_of_le hk (by norm_num)
  have hleast : (2 : ℚ) ^ (Binary64.minExponent - 1) < 2 ^ 11 :=
    (zpow_le_one_of_nonpos₀ one_le_two (by decide)).trans_lt (by norm_num)
  rw [Nat.cast_one, div_one] at herror
  rw [hvalue]
  exact ⟨Binary64.negative_of_ofRatio? hx, herror.trans_lt (max_lt hshare hleast)⟩

/-- **Parameters carry their values.**  For every JSON value and every path into it: the path leads
somewhere in the parameter exactly if it does in the value, and what it leads to there carries what
it leads to in the value.  So nulls, truth values and texts arrive as they are, lists in their
length and order, and maps with their keys; and an integer of 64 bits with a sign arrives as the
same integer wherever it stands.  A greater one without a sign, for which there is no integer,
arrives as a positive floating-point number near to it.  What is sent beside a statement are the
parameters for the values it was given. -/
theorem ofJson_carries (j : Json) :
    (∀ path, Option.Rel Carries (j.at? path) ((ofJson j).at? path)) ∧
    (∀ path n, j.at? path = some (.integer n) → Text.int64Min ≤ n → n ≤ Text.int64Max →
      (ofJson j).at? path = some (.integer n)) ∧
    (∀ path n, j.at? path = some (.integer n) → Text.int64Max < n → n < 2 ^ 64 →
      ∃ x : Binary64, (ofJson j).at? path = some (.float x) ∧ x.negative = false ∧
        |x.absValue - n| < 2 ^ 11) ∧
    ∀ {σ : Type} (server : Server σ) (text : String) (mode : QueryMode) (params : PropertyMap)
      (s : Session (σ × List Request)), ∃ sent, Value.map sent = ofJson (Json.ofDict params) ∧
        (Session.run server.recorded text mode params s).2.server.2 =
          s.server.2 ++ [⟨s.database, text, sent⟩] := by
  refine ⟨fun path => ?_, fun path n hpath hlow hhigh => ?_, fun path n hpath hlow hhigh => ?_,
    fun server text mode params s => ?_⟩
  · rw [at?_ofJson]
    cases j.at? path with
    | none => exact .none
    | some part => exact .some (carries_ofJson part)
  · rw [at?_ofJson, hpath, Option.map_some, ofJson, ofInt_eq, if_pos ⟨hlow, hhigh⟩]
  · refine ⟨Binary64.ofInt n, ?_, ofInt_approximates hlow hhigh⟩
    rw [at?_ofJson, hpath, Option.map_some, ofJson, ofInt_eq,
      if_neg fun hroom => Int.not_lt.2 hroom.2 hlow]
  · exact ⟨ofMembers params.entries, rfl, Session.requested_run server text mode params s⟩

/-- An order of several items, with the greatest integer of Bolt and the integer after it. -/
def sampleOrder : Json :=
  .object [("gift", .bool true), ("note", .null),
    ("prices", .array [.integer 9223372036854775807, .integer 9223372036854775808]),
    ("to", .object [("floor", .integer (-1)), ("name", .string "Tom")])]

/-- The greatest integer of Bolt arrives in its place, and so does a negative one further in. -/
theorem ofJson_carries_order :
    sampleOrder.at? [.member "prices", .item 0] = some (.integer 9223372036854775807) ∧
      Text.int64Min ≤ 9223372036854775807 ∧ 9223372036854775807 ≤ Text.int64Max ∧
      (ofJson sampleOrder).at? [.member "prices", .item 0] =
        some (.integer 9223372036854775807) ∧
      sampleOrder.at? [.member "to", .member "floor"] = some (.integer (-1)) ∧
      (ofJson sampleOrder).at? [.member "to", .member "floor"] = some (.integer (-1)) ∧
      sampleOrder.at? [.member "prices", .item 1] = some (.integer 9223372036854775808) ∧
      ∃ x : Binary64, (ofJson sampleOrder).at? [.member "prices", .item 1] = some (.float x) ∧
        x.negative = false ∧ |x.absValue - (9223372036854775808 : Int)| < 2 ^ 11 := by
  obtain ⟨-, hinteger, happroximate, -⟩ := ofJson_carries sampleOrder
  have hfirst : sampleOrder.at? [.member "prices", .item 0] =
      some (.integer 9223372036854775807) := by rfl
  have hfloor : sampleOrder.at? [.member "to", .member "floor"] = some (.integer (-1)) := by rfl
  have hsecond : sampleOrder.at? [.member "prices", .item 1] =
      some (.integer 9223372036854775808) := by rfl
  exact ⟨hfirst, by decide, by decide, hinteger _ _ hfirst (by decide) (by decide), hfloor,
    hinteger _ _ hfloor (by decide) (by decide), hsecond,
    happroximate _ _ hsecond (by decide) (by decide)⟩

/-- The integer after the greatest one of Bolt is one of 64 bits without a sign, and arrives as a
floating-point number. -/
theorem ofJson_unsigned :
    sampleOrder.at? [.member "prices", .item 1] = some (.integer 9223372036854775808) ∧
      (9223372036854775808 : Int) < 2 ^ 64 ∧
      (ofJson sampleOrder).at? [.member "prices", .item 1] =
        some (.float ⟨false, 4503599627370496, 11⟩) ∧
      ¬ ∀ path n, sampleOrder.at? path = some (.integer n) → Text.int64Min ≤ n → n < 2 ^ 64 →
        (ofJson sampleOrder).at? path = some (.integer n) := by
  have hsecond : sampleOrder.at? [.member "prices", .item 1] =
      some (.integer 9223372036854775808) := by rfl
  have hfloat : (ofJson sampleOrder).at? [.member "prices", .item 1] =
      some (.float ⟨false, 4503599627370496, 11⟩) := by
    have hnearest : Binary64.ofInt 9223372036854775808 = ⟨false, 4503599627370496, 11⟩ := by
      decide +kernel
    rw [at?_ofJson, hsecond, Option.map_some, ofJson, ofInt_eq, if_neg (by decide), hnearest]
  refine ⟨hsecond, by decide, hfloat, fun h => ?_⟩
  have hclaimed := h _ _ hsecond (by decide) (by decide)
  rw [hfloat] at hclaimed
  cases hclaimed

end Bolt.Value
end PropertyGraph
