import PropertyGraph.Proofs.NumberText

/-!
# Values are read back

The text of a value is taken apart into a document with the same shape.  Strings come back
character by character (`string?_stringText`), numbers as `NumberText.lean` says, and arrays
and objects level by level.

> `readToDepth`: the text of a value is read as a document, and this has a value within so many
> levels of nesting exactly if the value that was written has no more.

So the reader is the only one to count levels: writing goes to any depth.
-/

namespace PropertyGraph.Json

/-! ## Strings -/

/-- What a character contributes to its string: itself, or a unit if it is written as one. -/
def pieceOf (c : Char) : Piece :=
  match c with
  | '\x08' | '\x0c' | '\n' | '\r' | '\t' => .char c
  | c => if c.toNat < 0x20 then .unit c.toNat else .char c

/-- An escape of one letter is read as its character. -/
theorem pieces?_simple {e c : Char} (he : e ≠ 'u') (hc : simpleEscape? e = some c)
    (rest : List Char) :
    pieces? ('\\' :: e :: rest) = (pieces? rest).map fun p => (.char c :: p.1, p.2) := by
  rw [pieces?]
  · rw [hc]
    cases pieces? rest <;> rfl
  · exact fun _ _ _ _ _ hu _ => he hu

/-- The unit of a control character is written with four digits. -/
theorem unit?_control : ∀ n < 0x20,
    unit? '0' '0' (Nat.digitChar (n / 16)) (Nat.digitChar (n % 16)) = some n := by
  decide

/-- A character is read back as what it contributes. -/
theorem pieces?_escapeChar (c : Char) (rest : List Char) :
    pieces? (escapeChar c ++ rest) =
      (pieces? rest).map fun p => (pieceOf c :: p.1, p.2) := by
  unfold escapeChar
  split
  next => exact pieces?_simple (by decide) rfl rest
  next => exact pieces?_simple (by decide) rfl rest
  next => exact pieces?_simple (by decide) rfl rest
  next => exact pieces?_simple (by decide) rfl rest
  next => exact pieces?_simple (by decide) rfl rest
  next => exact pieces?_simple (by decide) rfl rest
  next => exact pieces?_simple (by decide) rfl rest
  next hquote hslash hb hf hn hr ht =>
    have hpiece : pieceOf c = if c.toNat < 0x20 then .unit c.toNat else .char c := by
      unfold pieceOf
      split <;> first | contradiction | rfl
    rw [hpiece]
    split
    next hcontrol =>
      show pieces? ('\\' :: 'u' :: '0' :: '0' :: Nat.digitChar (c.toNat / 16) ::
        Nat.digitChar (c.toNat % 16) :: rest) = _
      rw [pieces?, unit?_control c.toNat hcontrol]
      cases pieces? rest <;> rfl
    next hplain =>
      rw [List.singleton_append, pieces?, if_neg hplain]
      · cases pieces? rest <;> rfl
      · exact hquote
      · exact fun _ _ _ _ _ heq _ => hslash heq
      · exact fun _ _ heq _ => hslash heq

/-- The pieces of a written string. -/
theorem pieces?_flatMap (cs rest : List Char) :
    pieces? (cs.flatMap escapeChar ++ '"' :: rest) = some (cs.map pieceOf, rest) := by
  induction cs with
  | nil => rfl
  | cons c cs ih =>
    rw [List.flatMap_cons, List.append_assoc, pieces?_escapeChar, ih]
    rfl

/-- A piece that comes from a character is read as it, whatever follows. -/
theorem characters?_pieceOf (c : Char) (ps : List Piece) :
    characters? (pieceOf c :: ps) = (characters? ps).map (c :: ·) := by
  have hpiece : pieceOf c = .char c ∨ pieceOf c = .unit c.toNat ∧ c.toNat < 0x20 := by
    unfold pieceOf
    split <;> try exact Or.inl rfl
    split
    next h => exact Or.inr ⟨rfl, h⟩
    next => exact Or.inl rfl
  rcases hpiece with hchar | ⟨hunit, hless⟩
  · rw [hchar, characters?]
  · rw [hunit]
    have hlead : ¬ (0xD800 ≤ c.toNat ∧ c.toNat < 0xDC00) := by omega
    have htrail : ¬ (0xDC00 ≤ c.toNat ∧ c.toNat < 0xE000) := by omega
    have hboth : ¬ (0xD800 ≤ c.toNat ∧ c.toNat < 0xE000) := by omega
    have hchar : Char.ofNat c.toNat = c := Char.ofNat_toNat c
    have halone : ∀ ps, (if 0xD800 ≤ c.toNat ∧ c.toNat < 0xE000 then none
        else (characters? ps).map (Char.ofNat c.toNat :: ·)) = (characters? ps).map (c :: ·) := by
      intro ps
      rw [if_neg hboth, hchar]
    cases ps with
    | nil => exact halone []
    | cons p ps =>
      cases p with
      | char d => exact halone (.char d :: ps)
      | unit m => rw [characters?, if_neg hlead, if_neg htrail, hchar]

theorem characters?_map_pieceOf (cs : List Char) : characters? (cs.map pieceOf) = some cs := by
  induction cs with
  | nil => rfl
  | cons c cs ih =>
    rw [List.map_cons, characters?_pieceOf, ih]
    rfl

/-- **Strings.**  A string is read back from its text. -/
theorem string?_stringText (s : String) :
    ∃ cs, (stringText s).toList = '"' :: cs ∧
      ∀ rest, string? (cs ++ rest) = some (some s, rest) := by
  refine ⟨s.toList.flatMap escapeChar ++ ['"'], ?_, fun rest => ?_⟩
  · simp [stringText]
  · rw [List.append_assoc, List.singleton_append, string?, pieces?_flatMap]
    simp [characters?_map_pieceOf]

/-! ## Depth -/

mutual
/-- The levels of arrays and objects in a value. -/
def depth : Json → Nat
  | .array items => itemsDepth items + 1
  | .object members => membersDepth members + 1
  | _ => 0

/-- The levels in the deepest item. -/
def itemsDepth : List Json → Nat
  | [] => 0
  | v :: rest => max (depth v) (itemsDepth rest)

/-- The levels in the deepest member. -/
def membersDepth : List (String × Json) → Nat
  | [] => 0
  | (_, v) :: rest => max (depth v) (membersDepth rest)
end

mutual
/-- The numbers in a value are those that 64 bits can hold. -/
def Within64 : Json → Prop
  | .integer n => -2 ^ 63 ≤ n ∧ n < 2 ^ 64
  | .float x => x.Fits
  | .array items => ItemsWithin64 items
  | .object members => MembersWithin64 members
  | _ => True

@[inherit_doc Within64]
def ItemsWithin64 : List Json → Prop
  | [] => True
  | v :: rest => Within64 v ∧ ItemsWithin64 rest

@[inherit_doc Within64]
def MembersWithin64 : List (String × Json) → Prop
  | [] => True
  | (_, v) :: rest => Within64 v ∧ MembersWithin64 rest
end

/-! ## Values -/

/-- Texts with commas between them. -/
def joined (texts : List String) : List Char := [','].intercalate (texts.map String.toList)

/-- The text starts a value: it is not blank, and no bracket closes there. -/
def Starts (cs : List Char) : Prop := ∃ c rest, cs = c :: rest ∧ isSpace c = false ∧ c ≠ ']'

theorem Starts.append {cs : List Char} (h : Starts cs) (rest : List Char) :
    Starts (cs ++ rest) := by
  obtain ⟨c, tail, rfl, hc⟩ := h
  exact ⟨c, tail ++ rest, rfl, hc⟩

/-- The text is read as the document, whatever ends it, with as many calls as it is long. -/
structure Reads (cs : List Char) (d : Document) : Prop where
  starts : Starts cs
  value : ∀ calls rest, cs.length ≤ calls → Ended rest → value? calls (cs ++ rest) = some (d, rest)

/-- The text is read as the items of an array, up to its end. -/
def ReadsItems (cs : List Char) (ds : List Document) : Prop := ∀ calls rest, cs.length < calls →
  items? calls (cs ++ ']' :: rest) = some (ds, rest)

/-- The text is read as the members of an object, up to its end. -/
def ReadsMembers (cs : List Char) (ms : List (Option String × Document)) : Prop :=
  ∀ calls rest, cs.length < calls → members? calls (cs ++ '\x7d' :: rest) = some (ms, rest)

theorem skip_cons {c : Char} (h : isSpace c = false) (cs : List Char) : skip (c :: cs) = c :: cs :=
  List.dropWhile_cons_of_neg (by rw [h]; exact Bool.false_ne_true)

theorem ended_cons {c : Char} (h : c = ',' ∨ c = ']' ∨ c = '\x7d') (rest : List Char) :
    Ended (c :: rest) := by
  intro d hd
  cases hd
  exact h

/-- There is one call left for a text that is no longer than the calls. -/
theorem Reads.of_starts {cs : List Char} {d : Document} (hstarts : Starts cs)
    (h : ∀ calls rest, cs.length ≤ calls + 1 → Ended rest →
      value? (calls + 1) (cs ++ rest) = some (d, rest)) : Reads cs d := by
  refine ⟨hstarts, fun calls rest hcalls hrest => ?_⟩
  cases calls with
  | zero =>
    obtain ⟨c, tail, rfl, -⟩ := hstarts
    exact absurd hcalls (Nat.not_succ_le_zero _)
  | succ calls => exact h calls rest hcalls hrest

theorem reads_null : Reads (text .null).toList .null :=
  .of_starts ⟨'n', _, rfl, rfl, by decide⟩ fun _ _ _ _ => rfl

theorem reads_bool (b : Bool) : Reads (text (.bool b)).toList (.bool b) := by
  cases b with
  | true => exact .of_starts ⟨'t', _, rfl, rfl, by decide⟩ fun _ _ _ _ => rfl
  | false => exact .of_starts ⟨'f', _, rfl, rfl, by decide⟩ fun _ _ _ _ => rfl

theorem reads_string (s : String) : Reads (text (.string s)).toList (.string (some s)) := by
  obtain ⟨cs, htext, hread⟩ := string?_stringText s
  refine .of_starts ⟨'"', cs, htext, rfl, by decide⟩ fun calls rest _ _ => ?_
  rw [text, htext, List.cons_append, value?, skip_cons rfl]
  show (string? (cs ++ rest)).map (fun p => (Document.string p.1, p.2)) = _
  rw [hread]
  rfl

/-- The first character of a number is its sign or a digit. -/
theorem exists_head_text {s : Spelling} (h : s.WellFormed) :
    ∃ c cs, s.text = c :: cs ∧ (c = '-' ∨ c.isDigit = true) := by
  unfold Spelling.text Spelling.unsignedText
  cases hwhole : s.whole with
  | nil => exact absurd hwhole h.leading.1
  | cons c cs =>
    cases s.negative with
    | true => exact ⟨'-', _, rfl, Or.inl rfl⟩
    | false =>
      exact ⟨c, _, rfl, Or.inr (h.whole c (by rw [hwhole]; exact List.mem_cons_self))⟩

theorem reads_number {s : Spelling} (h : s.WellFormed) : Reads s.text (.number s.numeral) := by
  obtain ⟨c, cs, htext, hc⟩ := exists_head_text h
  have hne : ∀ d, d ≠ '-' → d.isDigit = false → c ≠ d := by
    rintro d hsign hdigit rfl
    rcases hc with hc | hc
    · exact hsign hc
    · rw [hdigit] at hc
      cases hc
  have hspace : isSpace c = false := by
    have hblank := hne ' ' (by decide) (by decide)
    have hline := hne '\n' (by decide) (by decide)
    have htab := hne '\t' (by decide) (by decide)
    have hreturn := hne '\r' (by decide) (by decide)
    simp [isSpace, hblank, hline, htab, hreturn]
  refine .of_starts ⟨c, cs, htext, hspace, hne _ (by decide) (by decide)⟩
    fun calls rest _ hrest => ?_
  have hread := numeral?_text h hrest
  rw [htext, List.cons_append] at hread ⊢
  rw [value?, skip_cons hspace]
  -- No other value starts with a sign or a digit.
  split
  next heq => exact absurd (List.cons.inj heq).1 (hne _ (by decide) (by decide))
  next heq => exact absurd (List.cons.inj heq).1 (hne _ (by decide) (by decide))
  next heq => exact absurd (List.cons.inj heq).1 (hne _ (by decide) (by decide))
  next heq => exact absurd (List.cons.inj heq).1 (hne _ (by decide) (by decide))
  next heq => exact absurd (List.cons.inj heq).1 (hne _ (by decide) (by decide))
  next heq => exact absurd (List.cons.inj heq).1 (hne _ (by decide) (by decide))
  next => rw [hread, Option.map_some]

/-! ## Arrays and objects -/

section Lists

variable {cs cs' : List Char} {d : Document} {ds : List Document}

theorem readsItems_single (h : Reads cs d) : ReadsItems cs [d] := by
  intro calls rest hcalls
  cases calls with
  | zero => exact absurd hcalls (Nat.not_lt_zero _)
  | succ calls =>
    have hvalue := h.value calls (']' :: rest) (Nat.le_of_lt_succ hcalls)
      (ended_cons (Or.inr (Or.inl rfl)) rest)
    rw [items?, hvalue]
    dsimp only
    rw [skip_cons rfl]
    rfl

theorem readsItems_cons (h : Reads cs d) (hrest : ReadsItems cs' ds) :
    ReadsItems (cs ++ ',' :: cs') (d :: ds) := by
  intro calls rest hcalls
  rw [List.length_append, List.length_cons] at hcalls
  cases calls with
  | zero => exact absurd hcalls (Nat.not_lt_zero _)
  | succ calls =>
    have hvalue := h.value calls (',' :: (cs' ++ ']' :: rest)) (by omega)
      (ended_cons (Or.inl rfl) _)
    have hitems := hrest calls rest (by omega)
    rw [List.append_assoc, List.cons_append, items?, hvalue]
    dsimp only
    rw [skip_cons rfl]
    show (items? calls (cs' ++ ']' :: rest)).map (fun p => (d :: p.1, p.2)) = _
    rw [hitems, Option.map_some]

/-- Behind an opening bracket there is a closing one, or items. -/
theorem value?_array (calls : Nat) (rest : List Char) :
    value? (calls + 1) ('[' :: rest) =
      match skip rest with
      | ']' :: rest => some (.array [], rest)
      | rest => (items? calls rest).map fun p => (.array p.1, p.2) := by
  rw [value?, skip_cons rfl]
  rfl

theorem reads_array (hstarts : Starts cs) (h : ReadsItems cs ds) :
    Reads ('[' :: cs ++ [']']) (.array ds) := by
  refine .of_starts ⟨'[', _, rfl, rfl, by decide⟩ fun calls rest hcalls _ => ?_
  rw [List.length_append, List.length_cons, List.length_singleton] at hcalls
  have hitems := h calls rest (by omega)
  obtain ⟨c, tail, rfl, hspace, hbracket⟩ := hstarts
  rw [List.cons_append, List.cons_append, List.append_assoc, List.singleton_append, value?_array]
  rw [List.cons_append] at hitems ⊢
  rw [skip_cons hspace]
  split
  next heq => exact absurd (List.cons.inj heq).1 hbracket
  next => rw [hitems, Option.map_some]

theorem reads_array_nil : Reads ['[', ']'] (.array []) :=
  .of_starts ⟨'[', _, rfl, rfl, by decide⟩ fun _ _ _ _ => rfl

/-- A member is read after its key and a colon. -/
theorem members?_member (key : String) (h : Reads cs d) {calls : Nat} {rest : List Char}
    (hcalls : cs.length ≤ calls) (hrest : Ended rest) :
    members? (calls + 1) ((stringText key).toList ++ ':' :: cs ++ rest) =
      match skip rest with
      | '\x7d' :: rest => some ([(some key, d)], rest)
      | ',' :: rest => (members? calls rest).map fun p => ((some key, d) :: p.1, p.2)
      | _ => none := by
  obtain ⟨ks, htext, hread⟩ := string?_stringText key
  have hvalue := h.value calls rest hcalls hrest
  rw [htext, members?, List.append_assoc, List.cons_append, skip_cons rfl]
  split
  next heq =>
    cases heq
    rw [hread]
    dsimp only
    rw [List.cons_append, skip_cons rfl]
    split
    next heq =>
      cases heq
      rewrite [hvalue]
      rfl
    next hcolon => exact absurd rfl (hcolon _)
  next hquote => exact absurd rfl (hquote _)

theorem readsMembers_single (key : String) (h : Reads cs d) :
    ReadsMembers ((stringText key).toList ++ ':' :: cs) [(some key, d)] := by
  intro calls rest hcalls
  rw [List.length_append, List.length_cons] at hcalls
  cases calls with
  | zero => exact absurd hcalls (Nat.not_lt_zero _)
  | succ calls =>
    rw [members?_member key h (by omega) (ended_cons (Or.inr (Or.inr rfl)) rest), skip_cons rfl]
    rfl

theorem readsMembers_cons (key : String) (h : Reads cs d)
    {ms : List (Option String × Document)} (hrest : ReadsMembers cs' ms) :
    ReadsMembers ((stringText key).toList ++ ':' :: cs ++ ',' :: cs') ((some key, d) :: ms) := by
  intro calls rest hcalls
  rw [List.length_append, List.length_append, List.length_cons, List.length_cons] at hcalls
  cases calls with
  | zero => exact absurd hcalls (Nat.not_lt_zero _)
  | succ calls =>
    have hmembers := hrest calls rest (by omega)
    rw [List.append_assoc, List.cons_append,
      members?_member key h (by omega) (ended_cons (Or.inl rfl) _), skip_cons rfl]
    show (members? calls (cs' ++ '\x7d' :: rest)).map
      (fun p => ((some key, d) :: p.1, p.2)) = _
    rw [hmembers, Option.map_some]

/-- The text of an object starts with the quote of a key. -/
theorem reads_object {ms : List (Option String × Document)} (hquote : cs.head? = some '"')
    (h : ReadsMembers cs ms) : Reads ('\x7b' :: cs ++ ['\x7d']) (.object ms) := by
  refine .of_starts ⟨'\x7b', _, rfl, rfl, by decide⟩ fun calls rest hcalls _ => ?_
  rw [List.length_append, List.length_cons, List.length_singleton] at hcalls
  have hmembers := h calls rest (by omega)
  obtain ⟨tail, rfl⟩ := List.head?_eq_some_iff.1 hquote
  rw [List.cons_append, List.cons_append, List.append_assoc, List.singleton_append, value?,
    skip_cons rfl]
  rw [List.cons_append] at hmembers
  show (members? calls ('"' :: (tail ++ '\x7d' :: rest))).map
    (fun p => (Document.object p.1, p.2)) = _
  rw [hmembers, Option.map_some]

theorem reads_object_nil : Reads ['\x7b', '\x7d'] (.object []) :=
  .of_starts ⟨'\x7b', _, rfl, rfl, by decide⟩ fun _ _ _ _ => rfl

end Lists

/-! ## Whole values -/

section Depth

open Document

theorem isSome_valueWithin?_array (ds : List Document) {n : Nat}
    (h : ∀ room, (itemsWithin? room ds).isSome = true ↔ n ≤ room) (room : Nat) :
    (valueWithin? room (.array ds)).isSome = true ↔ n + 1 ≤ room := by
  cases room with
  | zero => simp [valueWithin?]
  | succ room => rw [valueWithin?, Option.isSome_map, h, Nat.succ_le_succ_iff]

theorem isSome_valueWithin?_object (ms : List (Option String × Document)) {n : Nat}
    (h : ∀ room, (membersWithin? room ms).isSome = true ↔ n ≤ room) (room : Nat) :
    (valueWithin? room (.object ms)).isSome = true ↔ n + 1 ≤ room := by
  cases room with
  | zero => simp [valueWithin?]
  | succ room => rw [valueWithin?, Option.isSome_map, h, Nat.succ_le_succ_iff]

theorem isSome_itemsWithin?_cons (room : Nat) (d : Document) (ds : List Document) :
    (itemsWithin? room (d :: ds)).isSome = true ↔
      (valueWithin? room d).isSome = true ∧ (itemsWithin? room ds).isSome = true := by
  rw [itemsWithin?]
  cases valueWithin? room d <;> cases itemsWithin? room ds <;> simp

theorem isSome_membersWithin?_cons (room : Nat) (key : String) (d : Document)
    (ms : List (Option String × Document)) :
    (membersWithin? room ((some key, d) :: ms)).isSome = true ↔
      (valueWithin? room d).isSome = true ∧ (membersWithin? room ms).isSome = true := by
  cases hvalue : valueWithin? room d <;> cases hmembers : membersWithin? room ms <;>
    simp [membersWithin?, hvalue, hmembers]

end Depth

/-- The text of a value is read as a document, which has a value within so many levels exactly if
the value that was written has no more. -/
def ReadToDepth (v : Json) : Prop := ∃ d, Reads (text v).toList d ∧
  ∀ room, (d.valueWithin? room).isSome = true ↔ depth v ≤ room

theorem toList_text_array (items : List Json) :
    (text (.array items)).toList = '[' :: joined (itemTexts items) ++ [']'] := by
  rw [text, String.toList_append, String.toList_append, String.toList_intercalate]
  rfl

theorem toList_text_object (members : List (String × Json)) :
    (text (.object members)).toList = '\x7b' :: joined (memberTexts members) ++ ['\x7d'] := by
  rw [text, String.toList_append, String.toList_append, String.toList_intercalate]
  rfl

theorem joined_singleton (t : String) : joined [t] = t.toList := by
  simp [joined, List.intercalate]

theorem joined_cons_cons (t u : String) (ts : List String) :
    joined (t :: u :: ts) = t.toList ++ ',' :: joined (u :: ts) := by
  unfold joined
  rw [List.map_cons, List.map_cons, List.intercalate_cons_cons, List.append_assoc]
  rfl

theorem readToDepth_number {v : Json} {s : Spelling} (hwell : s.WellFormed)
    (htext : (text v).toList = s.text) (hvalue : s.numeral.value?.isSome = true)
    (hdepth : depth v = 0) : ReadToDepth v := by
  refine ⟨.number s.numeral, htext ▸ reads_number hwell, fun room => ?_⟩
  simp [Document.valueWithin?, hdepth, hvalue]

/-- What the text of the items of an array is read as. -/
def ItemsReadToDepth (items : List Json) : Prop :=
  ∃ ds, Starts (joined (itemTexts items)) ∧ ReadsItems (joined (itemTexts items)) ds ∧
    ∀ room, (Document.itemsWithin? room ds).isSome = true ↔ itemsDepth items ≤ room

theorem itemsReadToDepth_single {v : Json} (h : ReadToDepth v) : ItemsReadToDepth [v] := by
  obtain ⟨d, hreads, hdepth⟩ := h
  unfold ItemsReadToDepth
  rw [itemTexts, itemTexts, joined_singleton]
  refine ⟨[d], hreads.starts, readsItems_single hreads, fun room => ?_⟩
  rw [isSome_itemsWithin?_cons, hdepth]
  simp [Document.itemsWithin?, itemsDepth]

theorem itemsReadToDepth_cons {v w : Json} {rest : List Json} (h : ReadToDepth v)
    (hrest : ItemsReadToDepth (w :: rest)) : ItemsReadToDepth (v :: w :: rest) := by
  obtain ⟨d, hreads, hdepth⟩ := h
  obtain ⟨ds, -, hreadsRest, hdepthRest⟩ := hrest
  unfold ItemsReadToDepth
  rw [itemTexts, itemTexts, joined_cons_cons]
  refine ⟨d :: ds, hreads.starts.append _, readsItems_cons hreads hreadsRest, fun room => ?_⟩
  rw [isSome_itemsWithin?_cons, hdepth, hdepthRest]
  exact max_le_iff.symm

theorem readToDepth_array {items : List Json} (h : items ≠ [] → ItemsReadToDepth items) :
    ReadToDepth (.array items) := by
  cases items with
  | nil =>
    refine ⟨_, reads_array_nil, isSome_valueWithin?_array [] fun room => ?_⟩
    simp [Document.itemsWithin?, itemsDepth]
  | cons v rest =>
    obtain ⟨ds, hstarts, hreads, hdepth⟩ := h (List.cons_ne_nil v rest)
    unfold ReadToDepth
    rw [toList_text_array]
    exact ⟨_, reads_array hstarts hreads, isSome_valueWithin?_array ds hdepth⟩

/-- What the text of the members of an object is read as. -/
def MembersReadToDepth (members : List (String × Json)) : Prop :=
  ∃ ms, (joined (memberTexts members)).head? = some '"' ∧
    ReadsMembers (joined (memberTexts members)) ms ∧
    ∀ room, (Document.membersWithin? room ms).isSome = true ↔ membersDepth members ≤ room

theorem toList_memberText (key : String) (v : Json) :
    (stringText key ++ ":" ++ text v).toList =
      (stringText key).toList ++ ':' :: (text v).toList := by
  rw [String.toList_append, String.toList_append, List.append_assoc]
  rfl

theorem head?_stringText (key : String) (cs : List Char) :
    ((stringText key).toList ++ cs).head? = some '"' := by
  obtain ⟨ks, htext, -⟩ := string?_stringText key
  rw [htext]
  rfl

theorem membersReadToDepth_single {v : Json} (key : String) (h : ReadToDepth v) :
    MembersReadToDepth [(key, v)] := by
  obtain ⟨d, hreads, hdepth⟩ := h
  unfold MembersReadToDepth
  rw [memberTexts, memberTexts, joined_singleton, toList_memberText]
  refine ⟨_, head?_stringText key _, readsMembers_single key hreads, fun room => ?_⟩
  rw [isSome_membersWithin?_cons, hdepth]
  simp [Document.membersWithin?, membersDepth]

theorem membersReadToDepth_cons {v : Json} (key : String) {m : String × Json}
    {rest : List (String × Json)} (h : ReadToDepth v) (hrest : MembersReadToDepth (m :: rest)) :
    MembersReadToDepth ((key, v) :: m :: rest) := by
  obtain ⟨d, hreads, hdepth⟩ := h
  obtain ⟨ms, -, hreadsRest, hdepthRest⟩ := hrest
  obtain ⟨other, w⟩ := m
  unfold MembersReadToDepth
  rw [memberTexts, memberTexts, joined_cons_cons, toList_memberText]
  refine ⟨_, ?_, readsMembers_cons key hreads hreadsRest, fun room => ?_⟩
  · rw [List.append_assoc]
    exact head?_stringText key _
  · rw [isSome_membersWithin?_cons, hdepth, hdepthRest]
    exact max_le_iff.symm

/-- The text of an object is read as an object. -/
theorem exists_reads_object {members : List (String × Json)}
    (h : members ≠ [] → MembersReadToDepth members) :
    ∃ ms, Reads (text (.object members)).toList (.object ms) ∧
      ∀ room, (Document.membersWithin? room ms).isSome = true ↔ membersDepth members ≤ room := by
  cases members with
  | nil =>
    refine ⟨[], reads_object_nil, fun room => ?_⟩
    simp [Document.membersWithin?, membersDepth]
  | cons m rest =>
    obtain ⟨ms, hquote, hreads, hdepth⟩ := h (List.cons_ne_nil m rest)
    rw [toList_text_object]
    exact ⟨ms, reads_object hquote hreads, hdepth⟩

theorem readToDepth_object {members : List (String × Json)}
    (h : members ≠ [] → MembersReadToDepth members) : ReadToDepth (.object members) := by
  obtain ⟨ms, hreads, hdepth⟩ := exists_reads_object h
  exact ⟨_, hreads, isSome_valueWithin?_object ms hdepth⟩

mutual
/-- **Texts of values.**  The text of a value is read to the depth that the value has. -/
theorem readToDepth : ∀ v : Json, Within64 v → ReadToDepth v
  | .null, _ => ⟨_, reads_null, fun room => by simp [Document.valueWithin?, depth]⟩
  | .bool b, _ => ⟨_, reads_bool b, fun room => by simp [Document.valueWithin?, depth]⟩
  | .string s, _ => ⟨_, reads_string s, fun room => by simp [Document.valueWithin?, depth]⟩
  | .integer n, h => by
    obtain ⟨s, hwell, htext, hvalue⟩ := exists_spelling_integer h.1 h.2
    exact readToDepth_number hwell htext (Option.isSome_of_eq_some hvalue) rfl
  | .float x, h => by
    obtain ⟨s, hwell, htext, hvalue⟩ := exists_spelling_float h
    exact readToDepth_number hwell htext hvalue rfl
  | .array items, h => readToDepth_array fun hne => itemsReadToDepth items hne h
  | .object members, h => readToDepth_object fun hne => membersReadToDepth members hne h

theorem itemsReadToDepth : ∀ items : List Json, items ≠ [] → ItemsWithin64 items →
    ItemsReadToDepth items
  | [], hne, _ => absurd rfl hne
  | [v], _, h => itemsReadToDepth_single (readToDepth v h.1)
  | v :: w :: rest, _, h => itemsReadToDepth_cons (readToDepth v h.1)
      (itemsReadToDepth (w :: rest) (List.cons_ne_nil _ _) h.2)

theorem membersReadToDepth : ∀ members : List (String × Json), members ≠ [] →
    MembersWithin64 members → MembersReadToDepth members
  | [], hne, _ => absurd rfl hne
  | [(key, v)], _, h => membersReadToDepth_single key (readToDepth v h.1)
  | (key, v) :: m :: rest, _, h => membersReadToDepth_cons key (readToDepth v h.1)
      (membersReadToDepth (m :: rest) (List.cons_ne_nil _ _) h.2)
end

/-- A text that is read as a document holds it. -/
theorem document?_of_reads {s : String} {d : Document} (h : Reads s.toList d) :
    document? s = some d := by
  have hvalue := h.value (2 * s.toList.length + 2) [] (by omega) (fun c hc => nomatch hc)
  rw [List.append_nil] at hvalue
  unfold document?
  dsimp only
  rw [hvalue]
  rfl

end PropertyGraph.Json
