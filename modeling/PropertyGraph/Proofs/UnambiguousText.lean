import PropertyGraph.Proofs.CharacterRuns
import PropertyGraph.Proofs.ValueText

/-!
# Texts that can be told apart

Query text is put together from the texts of labels, keys and values, without marks for where
one ends.  What keeps them apart is what may follow: a number ends before the next character
that is no digit, a string at its quote, a list at its bracket.  `Told` says this of one
element: no other one could stand in its place in any text, if what follows may follow.

Elements are put together by four constructions: pairs (`Told.pair`), runs of characters of one
kind (`told_run`), lists of which each element has a mark before it (`told_marked`) and lists in
brackets (`told_enclosed`).

> `told_text`: values without floating-point numbers can be told, where no digit follows.
-/

namespace PropertyGraph

/-- An element can be told from its text: where the text of a valid one stands in its place, and
both are followed by what may follow, it is the same element, and the same follows. -/
def Told {α : Type} (valid : α → Prop) (follows : List Char → Prop) (write : α → List Char)
    (a : α) : Prop :=
  ∀ b r s, valid b → follows r → follows s → write a ++ r = write b ++ s → a = b ∧ r = s

namespace Told

variable {α β : Type} {valid : α → Prop} {follows : List Char → Prop} {write : α → List Char}

/-- Fewer elements in fewer places can still be told. -/
theorem mono {a : α} (h : Told valid follows write a) {valid' : α → Prop}
    {follows' : List Char → Prop} (hvalid : ∀ b, valid' b → valid b)
    (hfollows : ∀ r, follows' r → follows r) : Told valid' follows' write a :=
  fun b r s hb hr hs => h b r s (hvalid b hb) (hfollows r hr) (hfollows s hs)

/-- What is written as an element that can be told can be told itself, if it alone is written
as that. -/
theorem comap {f : β → α} (hf : Function.Injective f) {b : β}
    (h : Told valid follows write (f b)) :
    Told (fun c => valid (f c)) follows (fun c => write (f c)) b := by
  intro c r s hc hr hs htext
  obtain ⟨heq, hrest⟩ := h (f c) r s hc hr hs htext
  exact ⟨hf heq, hrest⟩

/-- A mark before the text does not matter. -/
theorem after {a : α} (mark : List Char) (h : Told valid follows write a) :
    Told valid follows (fun b => mark ++ write b) a := by
  intro b r s hb hr hs htext
  rw [List.append_assoc, List.append_assoc] at htext
  exact h b r s hb hr hs (List.append_cancel_left htext)

/-- Of two elements one after the other, each can be told if the second may follow the first. -/
theorem pair {validβ : β → Prop} {followsβ : List Char → Prop} {writeβ : β → List Char} {a : α}
    {b : β} (ha : Told valid follows write a) (hb : Told validβ followsβ writeβ b)
    (hvalid : validβ b) (hnext : ∀ b r, validβ b → followsβ r → follows (writeβ b ++ r)) :
    Told (fun p : α × β => valid p.1 ∧ validβ p.2) followsβ (fun p => write p.1 ++ writeβ p.2)
      (a, b) := by
  intro p r s hp hr hs htext
  rw [List.append_assoc, List.append_assoc] at htext
  obtain ⟨hfirst, hrest⟩ := ha p.1 _ _ hp.1 (hnext b r hvalid hr) (hnext p.2 s hp.2 hs) htext
  obtain ⟨hsecond, hend⟩ := hb p.2 r s hp.2 hr hs hrest
  exact ⟨Prod.ext hfirst hsecond, hend⟩

end Told

/-! ## Runs -/

/-- A run of characters of one kind ends where another kind follows. -/
theorem told_run {p : Char → Bool} {cs : List Char} (hcs : ∀ c ∈ cs, p c = true) :
    Told (fun ds => ∀ c ∈ ds, p c = true) (Stops p) id cs := by
  intro ds r s hds hr hs htext
  rw [id, id] at htext
  have heq : cs = ds := by
    rw [← (span_eq_iff.2 ⟨rfl, hcs, hr⟩).1, htext, (span_eq_iff.2 ⟨rfl, hds, hs⟩).1]
  exact ⟨heq, List.append_cancel_left (heq ▸ htext)⟩

/-- A number that is followed by no digit can be told. -/
theorem told_natural (n : Nat) :
    Told (fun _ => True) (Stops Char.isDigit) (Nat.toDigits 10) n := by
  have hinjective : Function.Injective (Nat.toDigits 10) := by
    intro m n h
    have hread := congrArg Text.natural? h
    rw [Text.natural?_toDigits, Text.natural?_toDigits] at hread
    exact Option.some.inj hread
  exact ((told_run fun c hc => Text.isDigit_of_mem_toDigits hc).comap hinjective).mono
    (fun _ _ _ hc => Text.isDigit_of_mem_toDigits hc) fun _ h => h

theorem told_integer (n : Int) :
    Told (fun _ => True) (Stops Char.isDigit) (fun n : Int => (toString n).toList) n := by
  -- The digits of a number that is not negative do not start with a sign.
  have hsign : ∀ (m : Nat) (r s : List Char), Nat.toDigits 10 m ++ r ≠ '-' :: s := by
    intro m r s htext
    cases hdigits : Nat.toDigits 10 m with
    | nil => exact Nat.toDigits_ne_nil hdigits
    | cons c cs =>
      have hdigit : c.isDigit = true :=
        Text.isDigit_of_mem_toDigits (hdigits ▸ List.mem_cons_self)
      rw [hdigits] at htext
      rw [(List.cons.inj htext).1] at hdigit
      exact absurd hdigit (by decide)
  intro m r s _ hr hs htext
  rcases n with n | n <;> rcases m with m | m <;>
    simp only [Int.ofNat_eq_natCast, Text.toList_toString_natCast,
      Text.toList_toString_negSucc, List.cons_append, List.cons.injEq, true_and] at htext ⊢
  case ofNat.ofNat =>
    obtain ⟨rfl, hrest⟩ := told_natural n m r s trivial hr hs htext
    exact ⟨rfl, hrest⟩
  case ofNat.negSucc => exact absurd htext (hsign n r _)
  case negSucc.ofNat => exact absurd htext.symm (hsign m s _)
  case negSucc.negSucc =>
    obtain ⟨heq, hrest⟩ := told_natural (n + 1) (m + 1) r s trivial hr hs htext
    exact ⟨by rw [Nat.succ.inj heq], hrest⟩

/-! ## Lists -/

section Lists

variable {α : Type} {valid : α → Prop} {follows : List Char → Prop} {write : α → List Char}

/-- Elements with a mark before each. -/
def marked (mark : List Char) (write : α → List Char) (xs : List α) : List Char :=
  xs.flatMap fun x => mark ++ write x

/-- Elements with commas between them and a bracket at the end. -/
def enclosed (close : Char) (write : α → List Char) (xs : List α) : List Char :=
  [','].intercalate (xs.map write) ++ [close]

theorem marked_cons (mark : List Char) (write : α → List Char) (x : α) (xs : List α) :
    marked mark write (x :: xs) = mark ++ write x ++ marked mark write xs := List.flatMap_cons

/-- A list with marks between its elements is the first of them, and the others with a mark
before each. -/
theorem intercalate_map_cons (mark : List Char) (write : α → List Char) (x : α) (xs : List α) :
    mark.intercalate ((x :: xs).map write) = write x ++ marked mark write xs := by
  induction xs generalizing x with
  | nil => simp [marked]
  | cons y ys ih =>
    rw [List.map_cons, List.map_cons, List.intercalate_cons_cons, ← List.map_cons, ih y,
      marked_cons]
    simp only [List.append_assoc]

/-- What may follow an element may follow the others, where the mark may follow. -/
theorem follows_marked {mark : List Char} (hmark : ∀ t, follows (mark ++ t)) (xs : List α)
    {r : List Char} (hr : follows r) : follows (marked mark write xs ++ r) := by
  cases xs with
  | nil => exact hr
  | cons x xs =>
    rw [marked_cons, List.append_assoc, List.append_assoc]
    exact hmark _

/-- Elements with a mark before each can be told where no mark follows. -/
theorem told_marked {mark : List Char} (hmark : ∀ t, follows (mark ++ t)) {xs : List α}
    (h : ∀ x ∈ xs, Told valid follows write x) :
    Told (fun ys => ∀ y ∈ ys, valid y) (fun r => follows r ∧ ¬ mark <+: r)
      (marked mark write) xs := by
  induction xs with
  | nil =>
    intro ys r s _ hr _ htext
    cases ys with
    | nil => exact ⟨rfl, htext⟩
    | cons y ys =>
      -- A mark stands where the shorter list has ended already.
      rw [marked_cons, List.append_assoc, List.append_assoc] at htext
      exact absurd ⟨_, htext.symm⟩ hr.2
  | cons x xs ih =>
    intro ys r s hys hr hs htext
    cases ys with
    | nil =>
      rw [marked_cons, List.append_assoc, List.append_assoc] at htext
      exact absurd ⟨_, htext⟩ hs.2
    | cons y ys =>
      obtain ⟨hx, hxs⟩ := List.forall_mem_cons.1 h
      obtain ⟨hy, hys'⟩ := List.forall_mem_cons.1 hys
      simp only [marked_cons, List.append_assoc, List.append_cancel_left_eq] at htext
      obtain ⟨rfl, hrest⟩ :=
        hx y _ _ hy (follows_marked hmark xs hr.1) (follows_marked hmark ys hs.1) htext
      obtain ⟨rfl, hend⟩ := ih hxs ys r s hys' hr hs hrest
      exact ⟨rfl, hend⟩

/-- Elements with commas between them can be told up to a bracket that none of them starts
with. -/
theorem told_enclosed {close : Char} (hclose : close ≠ ',')
    (hcomma : ∀ t, follows (',' :: t)) (hbracket : ∀ t, follows (close :: t))
    (hstart : ∀ y, valid y → ∀ r s, write y ++ r ≠ close :: s) {xs : List α}
    (hvalid : ∀ x ∈ xs, valid x) (h : ∀ x ∈ xs, Told valid follows write x) :
    Told (fun ys => ∀ y ∈ ys, valid y) (fun _ => True) (enclosed close write) xs := by
  -- The first element has no mark before it, so that empty lists are told by their bracket.
  have hend : ∀ t, follows (close :: t) ∧ ¬ [','] <+: close :: t := fun t =>
    ⟨hbracket t, fun hprefix => hclose (List.cons_prefix_cons.1 hprefix).1.symm⟩
  have hmark : ∀ t, follows ([','] ++ t) := hcomma
  intro ys r s hys _ _ htext
  simp only [enclosed, List.append_assoc, List.singleton_append] at htext
  cases xs with
  | nil =>
    cases ys with
    | nil => exact ⟨rfl, (List.cons.inj htext).2⟩
    | cons y ys =>
      rw [intercalate_map_cons, List.append_assoc] at htext
      exact absurd htext.symm (hstart y (hys y List.mem_cons_self) _ _)
  | cons x xs =>
    cases ys with
    | nil =>
      rw [intercalate_map_cons, List.append_assoc] at htext
      exact absurd htext (hstart x (hvalid x List.mem_cons_self) _ _)
    | cons y ys =>
      obtain ⟨hx, hxs⟩ := List.forall_mem_cons.1 h
      obtain ⟨hy, hys'⟩ := List.forall_mem_cons.1 hys
      rw [intercalate_map_cons, intercalate_map_cons, List.append_assoc, List.append_assoc] at htext
      obtain ⟨rfl, hrest⟩ := hx y _ _ hy (follows_marked hmark xs (hbracket r))
        (follows_marked hmark ys (hbracket s)) htext
      obtain ⟨rfl, hlast⟩ := told_marked hmark hxs ys _ _ hys' (hend r) (hend s) hrest
      exact ⟨rfl, (List.cons.inj hlast).2⟩

end Lists

/-! ## Values -/

namespace Json

mutual
/-- No number in a value is a floating-point number. -/
def FloatFree : Json → Prop
  | .float _ => False
  | .array items => ItemsFloatFree items
  | .object members => MembersFloatFree members
  | _ => True

/-- No number in the items is a floating-point number. -/
def ItemsFloatFree : List Json → Prop
  | [] => True
  | v :: rest => FloatFree v ∧ ItemsFloatFree rest

/-- No number in the members is a floating-point number. -/
def MembersFloatFree : List (String × Json) → Prop
  | [] => True
  | (_, v) :: rest => FloatFree v ∧ MembersFloatFree rest
end

theorem itemsFloatFree_iff (items : List Json) :
    ItemsFloatFree items ↔ ∀ v ∈ items, FloatFree v := by
  induction items with
  | nil => simp [ItemsFloatFree]
  | cons v rest ih => rw [ItemsFloatFree, List.forall_mem_cons, ih]

theorem membersFloatFree_iff (members : List (String × Json)) :
    MembersFloatFree members ↔ ∀ m ∈ members, FloatFree m.2 := by
  induction members with
  | nil => simp [MembersFloatFree]
  | cons m rest ih => rw [MembersFloatFree, List.forall_mem_cons, ih]

/-- The text of a member of an object. -/
def memberText (m : String × Json) : List Char :=
  (stringText m.1).toList ++ ':' :: (text m.2).toList

theorem toList_text_array_eq_enclosed (items : List Json) :
    (text (.array items)).toList = '[' :: enclosed ']' (fun v => (text v).toList) items := by
  have hitems : itemTexts items = items.map text := by
    induction items with
    | nil => rfl
    | cons v rest ih => rw [itemTexts, ih, List.map_cons]
  rw [toList_text_array, hitems, joined, List.map_map, List.cons_append]
  rfl

theorem toList_text_object_eq_enclosed (members : List (String × Json)) :
    (text (.object members)).toList = '\x7b' :: enclosed '\x7d' memberText members := by
  have hmembers : (memberTexts members).map String.toList = members.map memberText := by
    induction members with
    | nil => rfl
    | cons m rest ih => rw [memberTexts, List.map_cons, ih, List.map_cons, toList_memberText]; rfl
  rw [toList_text_object, joined, hmembers, List.cons_append]
  rfl

/-- The kinds of values that differ in their first character. -/
inductive Form
  | null
  | bool
  | number
  | string
  | array
  | object
  deriving DecidableEq

/-- The kind of a value. -/
def form : Json → Form
  | .null => .null
  | .bool _ => .bool
  | .integer _ | .float _ => .number
  | .string _ => .string
  | .array _ => .array
  | .object _ => .object

theorem exists_of_form_eq_string {v : Json} (h : v.form = .string) : ∃ s, v = .string s := by
  cases v with
  | string s => exact ⟨s, rfl⟩
  | _ => cases h

/-- The kind of value that a character may be the first of. -/
def formAt? (c : Char) : Option Form :=
  if c.isDigit || c == '-' then some .number
  else match c with
    | 'n' => some .null
    | 't' | 'f' => some .bool
    | '"' => some .string
    | '[' => some .array
    | '\x7b' => some .object
    | _ => none

/-- A value has a first character, which shows what kind of value it is. -/
theorem exists_formAt?_text {v : Json} (h : FloatFree v) :
    ∃ c cs, (text v).toList = c :: cs ∧ formAt? c = some v.form := by
  cases v with
  | null => exact ⟨_, _, rfl, rfl⟩
  | bool b => cases b <;> exact ⟨_, _, rfl, rfl⟩
  | integer n =>
    cases n with
    | ofNat n =>
      cases hdigits : Nat.toDigits 10 n with
      | nil => exact absurd hdigits Nat.toDigits_ne_nil
      | cons c cs =>
        have hdigit : c.isDigit = true :=
          Text.isDigit_of_mem_toDigits (hdigits ▸ List.mem_cons_self)
        exact ⟨c, cs, (Text.toList_toString_natCast n).trans hdigits,
          if_pos (Bool.or_eq_true_iff.2 (Or.inl hdigit))⟩
    | negSucc n => exact ⟨_, _, Text.toList_toString_negSucc n, rfl⟩
  | float x => exact h.elim
  | string s =>
    obtain ⟨cs, hcs, -⟩ := string?_stringText s
    exact ⟨_, cs, hcs, rfl⟩
  | array items => exact ⟨_, _, toList_text_array_eq_enclosed items, rfl⟩
  | object members => exact ⟨_, _, toList_text_object_eq_enclosed members, rfl⟩

/-- Values with the same text, up to what follows, are of the same kind. -/
theorem form_eq_of_text {v w : Json} (hv : FloatFree v) (hw : FloatFree w) {r s : List Char}
    (htext : (text v).toList ++ r = (text w).toList ++ s) : v.form = w.form := by
  obtain ⟨c, cs, hc, hform⟩ := exists_formAt?_text hv
  obtain ⟨d, ds, hd, hform'⟩ := exists_formAt?_text hw
  rw [hc, hd] at htext
  rw [← Option.some_inj, ← hform, ← hform', (List.cons.inj htext).1]

/-- No value starts with a character that is the first of none. -/
theorem text_ne_of_formAt? {v : Json} (hv : FloatFree v) {c : Char} (hc : formAt? c = none)
    (r s : List Char) : (text v).toList ++ r ≠ c :: s := by
  obtain ⟨d, ds, hd, hform⟩ := exists_formAt?_text hv
  intro htext
  rw [hd] at htext
  rw [(List.cons.inj htext).1, hc] at hform
  cases hform

/-- A string is read up to its closing quote. -/
theorem told_stringText (s : String) :
    Told (fun _ => True) (fun _ => True) (fun s => (stringText s).toList) s := by
  intro t r r' _ _ _ htext
  obtain ⟨cs, hcs, hs⟩ := string?_stringText s
  obtain ⟨ds, hds, ht⟩ := string?_stringText t
  simp only [hcs, hds, List.cons_append, List.cons.injEq, true_and] at htext
  have hread := hs r
  rw [htext, ht r'] at hread
  simp only [Option.some.injEq, Prod.mk.injEq] at hread
  exact ⟨hread.1.symm, hread.2.symm⟩

/-- A value can be told where no digit follows. -/
abbrev ToldValue (v : Json) : Prop :=
  Told FloatFree (Stops Char.isDigit) (fun v => (text v).toList) v

/-- A member can be told if its value can. -/
theorem told_memberText {m : String × Json} (hfree : m.2.FloatFree) (h : ToldValue m.2) :
    Told (fun m : String × Json => m.2.FloatFree) (Stops Char.isDigit) memberText m :=
  ((told_stringText m.1).pair (h.after [':']) hfree fun _ _ _ _ => trivial).mono
    (fun _ hn => ⟨trivial, hn⟩) fun _ hr => hr

theorem told_array {items : List Json} (hfree : FloatFree (.array items))
    (h : ∀ v ∈ items, ToldValue v) : ToldValue (.array items) := by
  intro w r s hw hr hs htext
  have hform := form_eq_of_text hfree hw htext
  cases w with
  | array items' =>
    simp only [toList_text_array_eq_enclosed, List.cons_append, List.cons.injEq, true_and] at htext
    obtain ⟨rfl, hrest⟩ := told_enclosed (by decide) (fun _ => by simp [Stops])
      (fun _ => by simp [Stops]) (fun v hv => text_ne_of_formAt? hv (by decide))
      ((itemsFloatFree_iff items).1 hfree) h items' r s ((itemsFloatFree_iff items').1 hw)
      trivial trivial htext
    exact ⟨rfl, hrest⟩
  | _ => cases hform

theorem told_object {members : List (String × Json)} (hfree : FloatFree (.object members))
    (h : ∀ m ∈ members, ToldValue m.2) : ToldValue (.object members) := by
  have hall := (membersFloatFree_iff members).1 hfree
  have hstart : ∀ m : String × Json, m.2.FloatFree → ∀ r s, memberText m ++ r ≠ '\x7d' :: s := by
    intro m _ r s htext
    have hquote := head?_stringText m.1 (':' :: (text m.2).toList ++ r)
    rw [memberText, List.append_assoc] at htext
    rw [htext] at hquote
    exact absurd hquote (by simp)
  intro w r s hw hr hs htext
  have hform := form_eq_of_text hfree hw htext
  cases w with
  | object members' =>
    simp only [toList_text_object_eq_enclosed, List.cons_append, List.cons.injEq, true_and] at htext
    obtain ⟨rfl, hrest⟩ := told_enclosed (by decide) (fun _ => by simp [Stops])
      (fun _ => by simp [Stops]) hstart hall (fun m hm => told_memberText (hall m hm) (h m hm))
      members' r s ((membersFloatFree_iff members').1 hw) trivial trivial htext
    exact ⟨rfl, hrest⟩
  | _ => cases hform

theorem told_null : ToldValue .null := by
  intro w r s hw _ _ htext
  have hform := form_eq_of_text (v := .null) trivial hw htext
  cases w with
  | null => exact ⟨rfl, List.append_cancel_left htext⟩
  | _ => cases hform

theorem told_bool (b : Bool) : ToldValue (.bool b) := by
  intro w r s hw _ _ htext
  have hform := form_eq_of_text (v := .bool b) trivial hw htext
  cases w with
  | bool b' =>
    have hsame : b = b' := by
      cases b <;> cases b' <;> first | rfl | exact absurd (List.cons.inj htext).1 (by decide)
    subst hsame
    exact ⟨rfl, List.append_cancel_left htext⟩
  | _ => cases hform

theorem told_number (n : Int) : ToldValue (.integer n) := by
  intro w r s hw hr hs htext
  have hform := form_eq_of_text (v := .integer n) trivial hw htext
  cases w with
  | integer m =>
    obtain ⟨rfl, hrest⟩ := told_integer n m r s trivial hr hs htext
    exact ⟨rfl, hrest⟩
  | float x => exact hw.elim
  | _ => cases hform

theorem told_string (t : String) : ToldValue (.string t) := by
  intro w r s hw _ _ htext
  have hform := form_eq_of_text (v := .string t) trivial hw htext
  cases w with
  | string u =>
    obtain ⟨rfl, hrest⟩ := told_stringText t u r s trivial trivial trivial htext
    exact ⟨rfl, hrest⟩
  | _ => cases hform

-- The induction is on the value that is told; the other one follows it case by case, since the
-- first character shows that it is of the same kind.
mutual
/-- **Texts of values.**  A value without floating-point numbers can be told from its text where
no digit follows. -/
theorem told_text : ∀ v : Json, FloatFree v → ToldValue v
  | .null, _ => told_null
  | .bool b, _ => told_bool b
  | .integer n, _ => told_number n
  | .float _, h => h.elim
  | .string t, _ => told_string t
  | .array items, h => told_array h (told_text_items items h)
  | .object members, h => told_object h (told_text_members members h)

theorem told_text_items : ∀ items : List Json, ItemsFloatFree items → ∀ v ∈ items, ToldValue v
  | [], _ => fun _ hv => (List.not_mem_nil hv).elim
  | v :: rest, h => List.forall_mem_cons.2 ⟨told_text v h.1, told_text_items rest h.2⟩

theorem told_text_members : ∀ members : List (String × Json), MembersFloatFree members →
    ∀ m ∈ members, ToldValue m.2
  | [], _ => fun _ hm => (List.not_mem_nil hm).elim
  | (_, v) :: rest, h => List.forall_mem_cons.2 ⟨told_text v h.1, told_text_members rest h.2⟩
end

end Json

end PropertyGraph
