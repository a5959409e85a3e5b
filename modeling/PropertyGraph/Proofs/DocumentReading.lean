import PropertyGraph.Element.Codec
import PropertyGraph.Proofs.TypedReading
import PropertyGraph.Proofs.ValueText

/-!
# Reading documents

A value that is written as text is read as a document that has the shape of the value
(`exists_mirroring`): the same members in the same order, the same texts and integers, and a number
where a floating-point number was.  What is not certain from the shape alone is that such numbers
have kept their value and that the document is not nested too deeply.  Without such numbers and
within the levels that are read, the value is read back (`Exact.carried`).

A document that is read as the value whose shape it has also answers every single question as the
value does:

> `shows_document`: documents show the values that they mirror.

> `decode?_text`: what is read from all that shows a value is read from the text of the value.
-/

namespace PropertyGraph

mutual
/-- A document has the shape of a value. -/
def Document.Mirrors : Document → Json → Prop
  | .null, .null => True
  | .bool a, .bool b => a = b
  | .number m, .integer n => m.value? = some (.integer n)
  | .number _, .float _ => True
  | .string s, .string t => s = some t
  | .array ds, .array items => ItemsMirror ds items
  | .object ms, .object members => MembersMirror ms members
  | _, _ => False

/-- Documents have the shapes of the items of an array. -/
def Document.ItemsMirror : List Document → List Json → Prop
  | [], [] => True
  | d :: ds, v :: items => d.Mirrors v ∧ ItemsMirror ds items
  | _, _ => False

/-- Documents have the shapes of the members of an object, and their keys. -/
def Document.MembersMirror : List (Option String × Document) → List (String × Json) → Prop
  | [], [] => True
  | (k, d) :: ms, (key, v) :: members => k = some key ∧ d.Mirrors v ∧ MembersMirror ms members
  | _, _ => False
end

namespace Json

open Document

mutual
/-- The text of a value is read as a document of its shape. -/
theorem exists_mirroring : ∀ v : Json, Within64 v →
    ∃ d : Document, Reads (text v).toList d ∧ d.Mirrors v
  | .null, _ => ⟨.null, reads_null, trivial⟩
  | .bool b, _ => ⟨.bool b, reads_bool b, rfl⟩
  | .string s, _ => ⟨.string (some s), reads_string s, rfl⟩
  | .integer n, h => by
    obtain ⟨s, hwell, htext, hvalue⟩ := exists_spelling_integer h.1 h.2
    exact ⟨.number s.numeral, by rw [text, htext]; exact reads_number hwell, hvalue⟩
  | .float x, h => by
    obtain ⟨s, hwell, htext, -⟩ := exists_spelling_float h
    exact ⟨.number s.numeral, by rw [text, htext]; exact reads_number hwell, trivial⟩
  | .array items, h => by
    by_cases hne : items = []
    · rw [hne]
      exact ⟨.array [], reads_array_nil, trivial⟩
    · obtain ⟨ds, hstarts, hreads, hshape⟩ := exists_itemsMirror items hne h
      rw [toList_text_array]
      exact ⟨.array ds, reads_array hstarts hreads, hshape⟩
  | .object members, h => by
    by_cases hne : members = []
    · rw [hne]
      exact ⟨.object [], reads_object_nil, trivial⟩
    · obtain ⟨ms, hquote, hreads, hshape⟩ := exists_membersMirror members hne h
      rw [toList_text_object]
      exact ⟨.object ms, reads_object hquote hreads, hshape⟩

theorem exists_itemsMirror : ∀ items : List Json, items ≠ [] → ItemsWithin64 items →
    ∃ ds, Starts (joined (itemTexts items)) ∧ ReadsItems (joined (itemTexts items)) ds ∧
      ItemsMirror ds items
  | [], hne, _ => absurd rfl hne
  | [v], _, h => by
    obtain ⟨d, hreads, hshape⟩ := exists_mirroring v h.1
    rw [itemTexts, itemTexts, joined_singleton]
    exact ⟨[d], hreads.starts, readsItems_single hreads, hshape, trivial⟩
  | v :: w :: rest, _, h => by
    obtain ⟨d, hreads, hshape⟩ := exists_mirroring v h.1
    obtain ⟨ds, -, hrest, hshapes⟩ := exists_itemsMirror (w :: rest) (List.cons_ne_nil _ _) h.2
    rw [itemTexts, itemTexts, joined_cons_cons]
    exact ⟨d :: ds, hreads.starts.append _, readsItems_cons hreads hrest, hshape, hshapes⟩

theorem exists_membersMirror : ∀ members : List (String × Json), members ≠ [] →
    MembersWithin64 members →
    ∃ ms, (joined (memberTexts members)).head? = some '"' ∧
      ReadsMembers (joined (memberTexts members)) ms ∧ MembersMirror ms members
  | [], hne, _ => absurd rfl hne
  | [(key, v)], _, h => by
    obtain ⟨d, hreads, hshape⟩ := exists_mirroring v h.1
    rw [memberTexts, memberTexts, joined_singleton, toList_memberText]
    exact ⟨_, head?_stringText key _, readsMembers_single key hreads, rfl, hshape, trivial⟩
  | (key, v) :: (other, w) :: rest, _, h => by
    obtain ⟨d, hreads, hshape⟩ := exists_mirroring v h.1
    obtain ⟨ms, -, hrest, hshapes⟩ :=
      exists_membersMirror ((other, w) :: rest) (List.cons_ne_nil _ _) h.2
    rw [memberTexts, memberTexts, joined_cons_cons, toList_memberText]
    refine ⟨_, ?_, readsMembers_cons key hreads hrest, rfl, hshape, hshapes⟩
    rw [List.append_assoc]
    exact head?_stringText key _
end

/-- A value that is certain to be read back, with so many levels of nesting left: it has no
floating-point numbers, and its objects are in the order of their keys. -/
inductive Exact : Nat → Json → Prop
  | null {room : Nat} : Exact room .null
  | bool {room : Nat} (b : Bool) : Exact room (.bool b)
  | string {room : Nat} (s : String) : Exact room (.string s)
  | integer {room : Nat} {n : Int} (low : -2 ^ 63 ≤ n) (high : n < 2 ^ 64) : Exact room (.integer n)
  | array {room : Nat} {items : List Json} (inner : ∀ v ∈ items, Exact room v) :
      Exact (room + 1) (.array items)
  | object {room : Nat} {members : List (String × Json)} (ascending : Ascending members)
      (inner : ∀ m ∈ members, Exact room m.2) : Exact (room + 1) (.object members)

/-- A value that text can carry: its numbers are those of 64 bits, and it is read back from its
text. -/
structure Carried (v : Json) : Prop where
  numbers : Within64 v
  readBack : parse? v.text = some v

theorem itemsWithin64_iff {items : List Json} :
    ItemsWithin64 items ↔ ∀ v ∈ items, Within64 v := by
  induction items with
  | nil => simp [ItemsWithin64]
  | cons v rest ih => rw [ItemsWithin64, ih, List.forall_mem_cons]

theorem membersWithin64_iff {members : List (String × Json)} :
    MembersWithin64 members ↔ ∀ m ∈ members, Within64 m.2 := by
  induction members with
  | nil => simp [MembersWithin64]
  | cons m rest ih => rw [MembersWithin64, ih, List.forall_mem_cons]

theorem Exact.within64 {room : Nat} {v : Json} (h : Exact room v) : Within64 v := by
  induction h with
  | null => trivial
  | bool => trivial
  | string => trivial
  | integer low high => exact ⟨low, high⟩
  | array _ ih => exact itemsWithin64_iff.2 ih
  | object _ _ ih => exact membersWithin64_iff.2 ih

theorem itemsWithin?_of_mirror {room : Nat} : ∀ {ds : List Document} {items : List Json},
    (∀ v ∈ items, ∀ d : Document, d.Mirrors v → d.valueWithin? room = some v) →
      ItemsMirror ds items → itemsWithin? room ds = some items
  | [], [], _, _ => rfl
  | d :: ds, v :: items, hread, ⟨hd, hds⟩ => by
    rw [List.forall_mem_cons] at hread
    rw [itemsWithin?, hread.1 d hd, itemsWithin?_of_mirror hread.2 hds]

theorem membersWithin?_of_mirror {room : Nat} : ∀ {ms : List (Option String × Document)}
    {members : List (String × Json)},
    (∀ m ∈ members, ∀ d : Document, d.Mirrors m.2 → d.valueWithin? room = some m.2) →
      MembersMirror ms members → membersWithin? room ms = some members
  | [], [], _, _ => rfl
  | (_, d) :: ms, (key, v) :: members, hread, ⟨rfl, hd, hms⟩ => by
    rw [List.forall_mem_cons] at hread
    have hvalue : valueWithin? room d = some v := hread.1 d hd
    unfold membersWithin?
    rw [hvalue, membersWithin?_of_mirror hread.2 hms]

/-- A document of the shape of an exact value is read as this value. -/
theorem Exact.valueWithin?_of_mirrors {room : Nat} {v : Json} (h : Exact room v) :
    ∀ d : Document, d.Mirrors v → d.valueWithin? room = some v := by
  induction h with
  | null =>
    intro d hd
    cases d <;> first | rfl | exact hd.elim
  | bool b =>
    intro d hd
    cases d with
    | bool a => rw [show a = b from hd]; rfl
    | _ => exact hd.elim
  | string s =>
    intro d hd
    cases d with
    | string o => rw [show o = some s from hd]; rfl
    | _ => exact hd.elim
  | integer low high =>
    intro d hd
    cases d with
    | number m => exact hd
    | _ => exact hd.elim
  | array _ ih =>
    intro d hd
    cases d with
    | array ds => rw [valueWithin?, itemsWithin?_of_mirror ih hd, Option.map_some]
    | _ => exact hd.elim
  | object ascending _ ih =>
    intro d hd
    cases d with
    | object ms =>
      rw [valueWithin?, membersWithin?_of_mirror ih hd, Option.map_some,
        Dict.collect_of_ascending ascending]
    | _ => exact hd.elim

/-- **Exact values.**  What has no floating-point numbers is carried by its text. -/
theorem Exact.carried {v : Json} (h : Exact maxDepth v) : Carried v := by
  obtain ⟨d, hreads, hshape⟩ := exists_mirroring v h.within64
  refine ⟨h.within64, ?_⟩
  rw [parse?, document?_of_reads hreads, Option.bind_some]
  exact h.valueWithin?_of_mirrors d hshape

end Json

namespace Nested

open Document

/-- A document shows the value whose shape it has and as which it is read. -/
def Holds (t : Nested) (v : Json) : Prop :=
  t.document.Mirrors v ∧ t.document.valueWithin? t.room = some v

/-- Items are read one by one. -/
theorem exists_of_itemsWithin?_cons {room : Nat} {d : Document} {ds : List Document}
    {values : List Json} (h : itemsWithin? room (d :: ds) = some values) :
    ∃ v vs, valueWithin? room d = some v ∧ itemsWithin? room ds = some vs ∧ values = v :: vs := by
  unfold itemsWithin? at h
  split at h
  case _ v vs hv hvs => exact ⟨v, vs, hv, hvs, (Option.some.inj h).symm⟩
  case _ => cases h

/-- Members are read one by one. -/
theorem exists_of_membersWithin?_cons {room : Nat} {key : String} {d : Document}
    {ms : List (Option String × Document)} {values : List (String × Json)}
    (h : membersWithin? room ((some key, d) :: ms) = some values) :
    ∃ v vs, valueWithin? room d = some v ∧ membersWithin? room ms = some vs ∧
      values = (key, v) :: vs := by
  unfold membersWithin? at h
  split at h
  case _ v vs hkey hv hvs =>
    obtain rfl := Option.some.inj hkey
    exact ⟨v, vs, hv, hvs, (Option.some.inj h).symm⟩
  case _ => cases h

/-- The items of an array that is read show its values, one level further in. -/
theorem forall₂_items {room : Nat} : ∀ {ds : List Document} {items : List Json},
    ItemsMirror ds items → itemsWithin? room ds = some items →
      List.Forall₂ Holds (ds.map fun d => ⟨room, d⟩) items
  | [], [], _, _ => .nil
  | d :: ds, v :: items, ⟨hd, hds⟩, hvalues => by
    obtain ⟨w, ws, hvalue, hrest, heq⟩ := exists_of_itemsWithin?_cons hvalues
    obtain ⟨rfl, rfl⟩ := List.cons.inj heq
    exact .cons ⟨hd, hvalue⟩ (forall₂_items hds hrest)

/-- The members of an object are read under the keys that it has. -/
theorem keys_membersWithin? {room : Nat} : ∀ {ms : List (Option String × Document)}
    {members values : List (String × Json)}, MembersMirror ms members →
      membersWithin? room ms = some values → values.map Prod.fst = members.map Prod.fst
  | [], [], _, _, hvalues => by
    obtain rfl := Option.some.inj hvalues
    rfl
  | (_, d) :: ms, (key, v) :: members, _, ⟨rfl, _, hms⟩, hvalues => by
    obtain ⟨w, ws, -, hrest, rfl⟩ := exists_of_membersWithin?_cons hvalues
    rw [List.map_cons, List.map_cons, keys_membersWithin? hms hrest]

/-- The members of an object that is read show its values, one level further in. -/
theorem exists_members {room : Nat} : ∀ {ms : List (Option String × Document)}
    {members : List (String × Json)}, MembersMirror ms members →
      membersWithin? room ms = some members →
      ∃ ts : List (String × Nested),
        (ms.mapM fun m => m.1.map fun k => (k, (⟨room, m.2⟩ : Nested))) = some ts ∧
        List.Forall₂ (fun a b => a.1 = b.1 ∧ Holds a.2 b.2) ts members
  | [], [], _, _ => ⟨[], rfl, .nil⟩
  | (_, d) :: ms, (key, v) :: members, ⟨rfl, hd, hms⟩, hvalues => by
    obtain ⟨w, ws, hvalue, hrest, heq⟩ := exists_of_membersWithin?_cons hvalues
    obtain ⟨hentry, rfl⟩ := List.cons.inj heq
    obtain ⟨-, rfl⟩ := Prod.mk.inj hentry
    obtain ⟨ts, hts, hall⟩ := exists_members hms hrest
    exact ⟨(key, ⟨room, d⟩) :: ts, by simp [List.mapM_cons, hts], .cons ⟨rfl, hd, hvalue⟩ hall⟩

/-- A level of nesting is left where an array is read, and its items are read with it. -/
theorem Holds.exists_array {t : Nested} {items : List Json} (h : Holds t (.array items)) :
    ∃ room ds, t = ⟨room + 1, .array ds⟩ ∧ ItemsMirror ds items ∧
      itemsWithin? room ds = some items := by
  obtain ⟨room, document⟩ := t
  obtain ⟨hshape, hvalue⟩ := h
  cases document with
  | array ds =>
    cases room with
    | zero => cases hvalue
    | succ room =>
      obtain ⟨vs, hvs, heq⟩ := Option.map_eq_some_iff.1 hvalue
      obtain rfl := Json.array.inj heq
      exact ⟨room, ds, rfl, hshape, hvs⟩
  | _ => exact hshape.elim

/-- A level of nesting is left where an object is read, and its members are read with it.  They
are in the order of their keys already, so that none is moved or lost. -/
theorem Holds.exists_object {t : Nested} {members : List (String × Json)}
    (h : Holds t (.object members)) :
    ∃ room ms, t = ⟨room + 1, .object ms⟩ ∧ MembersMirror ms members ∧
      membersWithin? room ms = some members := by
  obtain ⟨room, document⟩ := t
  obtain ⟨hshape, hvalue⟩ := h
  cases document with
  | object ms =>
    cases room with
    | zero => cases hvalue
    | succ room =>
      obtain ⟨values, hvalues, heq⟩ := Option.map_eq_some_iff.1 hvalue
      have hcollect : Dict.collect values = members := Json.object.inj heq
      have hkeys := keys_membersWithin? hshape hvalues
      have hascending : Ascending values := by
        have hmembers : Ascending members := hcollect ▸ Dict.collect_ascending values
        rw [Ascending, ← List.pairwise_map (R := (· < ·))] at hmembers ⊢
        rwa [hkeys]
      have hsame : Dict.collect values = values := Dict.collect_of_ascending hascending
      exact ⟨room, ms, rfl, hshape, by rw [hvalues, ← hcollect, hsame]⟩
  | _ => exact hshape.elim

/-- A text is shown by a document that is this text. -/
theorem Holds.eq_string {t : Nested} {s : String} (h : Holds t (.string s)) :
    t.document = .string (some s) := by
  obtain ⟨room, document⟩ := t
  obtain ⟨hshape, -⟩ := h
  cases document with
  | string o =>
    obtain rfl : o = some s := hshape
    rfl
  | _ => exact hshape.elim

/-- An integer is shown by a numeral that denotes it. -/
theorem Holds.exists_number {t : Nested} {n : Int} (h : Holds t (.integer n)) :
    ∃ numeral, t.document = .number numeral ∧ numeral.value? = some (.integer n) := by
  obtain ⟨room, document⟩ := t
  obtain ⟨hshape, -⟩ := h
  cases document with
  | number numeral => exact ⟨numeral, rfl, hshape⟩
  | _ => exact hshape.elim

/-- **Documents.**  A document that is read as a value answers every question as the value. -/
theorem shows_document : Shows source Holds where
  null? := by
    rintro ⟨room, document⟩ j ⟨hshape, -⟩
    cases document <;> cases j <;> first | rfl | exact hshape.elim
  text? := by
    intro t s h
    simp only [source, h.eq_string]
  choice? := by
    intro t s h
    simp only [source, h.eq_string]
  natural? := by
    intro t n bits h
    obtain ⟨numeral, hnumber, hvalue⟩ := h.exists_number
    simp only [source, hnumber, hvalue]
  items? := by
    intro t items h
    obtain ⟨room, ds, rfl, hshape, hvalues⟩ := h.exists_array
    exact ⟨_, rfl, forall₂_items hshape hvalues⟩
  members? := by
    intro t members h
    obtain ⟨room, ms, rfl, hshape, hvalues⟩ := h.exists_object
    obtain ⟨ts, hts, hall⟩ := exists_members hshape hvalues
    exact ⟨ts, hts, congrArg (Option.map Fields.named) hts, hall⟩
  value? := fun h => h.2

/-- **Texts.**  What is read from all that shows a value is read from the text of the value. -/
theorem decode?_text {α : Type} {read : Nested → Option α} {v : Json} {x : α} (h : v.Carried)
    (hread : ∀ t, Holds t v → read t = some x) : Json.decode? read v.text = some x := by
  obtain ⟨d, hreads, hshape⟩ := Json.exists_mirroring v h.numbers
  have hdocument := Json.document?_of_reads hreads
  have hvalue : d.value? = some v := by
    have hback := h.readBack
    rwa [Json.parse?, hdocument, Option.bind_some] at hback
  rw [Json.decode?, hdocument, Option.bind_some]
  exact hread _ ⟨hshape, hvalue⟩

end Nested
end PropertyGraph
