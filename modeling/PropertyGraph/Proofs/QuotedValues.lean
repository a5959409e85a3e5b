import PropertyGraph.Proofs.DictLookup
import PropertyGraph.Proofs.FragmentText

/-!
# Values in quotes

A string value stands in query text between single quotes.  The reader of such a literal
(`unquote?`) takes the character after a backslash as it is and stops at the first quote that no
backslash stands before.  Escaping doubles every backslash and then puts one before every quote;
the two passes do not disturb each other, since the second adds no quote and the first has left
none of its own (`toList_escape_eq_passes`).  So what is read is the string, whatever it is made
of, and the reader stops where the value ends.

Two views of the fragments come from that.  Seen from one string value, the fragment has a literal
at its place, which denotes it and ends before what follows (`HoldsLiteral`).  Seen as a whole, the
literals of the fragment are its string values, in their order and no others, and the fragment
leaves no literal open for the text behind it (`HasLiterals`).  The latter asks that the names
around the values have no quotes in them, as these are written as they are.

> Main result (`strings_quoted`): both of them, for every selector and every predicate.
-/

namespace PropertyGraph.Query

/-! ## Escaping -/

/-- The first pass: every backslash is doubled. -/
def doubleBackslash (c : Char) : List Char := if c = '\\' then ['\\', '\\'] else [c]

/-- The second pass: a backslash is put before every quote. -/
def markQuote (c : Char) : List Char := if c = '\'' then ['\\', '\''] else [c]

/-- Escaping a character at once is escaping it in two passes. -/
theorem escapeChar_eq_passes (c : Char) :
    escapeChar c = (doubleBackslash c).flatMap markQuote := by
  unfold escapeChar doubleBackslash
  by_cases hslash : c = '\\'
  · rw [if_pos hslash, if_pos hslash]
    rfl
  · rw [if_neg hslash, if_neg hslash, List.flatMap_singleton]
    rfl

/-- Escaping is to double the backslashes and then to mark the quotes. -/
theorem toList_escape_eq_passes (s : String) :
    (escape s).toList = (s.toList.flatMap doubleBackslash).flatMap markQuote := by
  rw [escape, String.toList_ofList, List.flatMap_assoc]
  exact List.flatMap_congr fun c _ => escapeChar_eq_passes c

/-- An escaped text is read up to the quote that closes it. -/
theorem unquote?_escape (s : String) (rest : List Char) :
    unquote? ((escape s).toList ++ '\'' :: rest) = some (s.toList, rest) := by
  rw [escape, String.toList_ofList]
  exact unquote?_flatMap s.toList rest

/-! ## One literal -/

/-- A text has a literal behind its head: there a quote opens, and what is read from it is the
string, up to the tail. -/
def HoldsLiteral (text head : List Char) (s : String) (tail : List Char) : Prop :=
  ∃ body, text = head ++ '\'' :: body ∧ unquote? body = some (s.toList, tail)

theorem holdsLiteral_literal (head : List Char) (s : String) (tail : List Char) :
    HoldsLiteral (head ++ ((literal s).toList ++ tail)) head s tail := by
  refine ⟨s.toList.flatMap escapeChar ++ '\'' :: tail, ?_, unquote?_flatMap s.toList tail⟩
  simp [toList_literal]

/-- The elements before some element, with a mark behind each. -/
def ahead {α : Type} (mark : List Char) (write : α → List Char) (xs : List α) : List Char :=
  xs.flatMap fun x => write x ++ mark

/-- A list that is written with marks between its elements, seen from one of them. -/
theorem intercalate_split {α : Type} (mark : List Char) (write : α → List Char) (before : List α)
    (x : α) (after : List α) : mark.intercalate ((before ++ x :: after).map write) =
      ahead mark write before ++ (write x ++ marked mark write after) := by
  induction before with
  | nil => exact intercalate_map_cons mark write x after
  | cons y rest ih =>
    obtain ⟨z, zs, hz⟩ : ∃ z zs, rest ++ x :: after = z :: zs := by
      cases rest with
      | nil => exact ⟨x, after, rfl⟩
      | cons z zs => exact ⟨z, zs ++ x :: after, rfl⟩
    rw [hz] at ih
    rw [List.cons_append, hz, List.map_cons, List.map_cons, List.intercalate_cons_cons,
      ← List.map_cons, ih, ahead, ahead, List.flatMap_cons]
    simp only [List.append_assoc]

/-- The text of one entry of a selector. -/
def selectorText (e : String × Json) : List Char := (selectorEntry e.1 e.2).toList

/-- The text of one conjunct. -/
def conjunctText (name : String) (e : String × Json) : List Char := (conjunct name e.1 e.2).toList

theorem toList_selectorOf_of_ne {entries : List (String × Json)} (h : entries ≠ []) :
    (selectorOf entries).toList =
      '\x7b' :: ([','].intercalate (entries.map selectorText) ++ ['\x7d']) := by
  rw [toList_selectorOf, if_neg h, enclosed]
  exact congrArg (fun texts => '\x7b' :: ([','].intercalate texts ++ ['\x7d']))
    (List.map_congr_left fun e _ => (toList_selectorEntry e).symm)

theorem toList_predicateOf_eq (name : String) (filters : List (String × Json)) :
    (predicateOf name filters).toList =
      conjunction.intercalate (filters.map (conjunctText name)) := by
  rw [predicateOf, String.toList_intercalate, conjuncts, List.map_map]
  rfl

section OneValue

variable (before after : List (String × Json)) (key s : String)

/-- A selector has a literal at the place of each string value. -/
theorem holdsLiteral_selectorOf :
    HoldsLiteral (selectorOf (before ++ (key, .string s) :: after)).toList
      ('\x7b' :: (ahead [','] selectorText before ++ (key.toList ++ [':']))) s
      (marked [','] selectorText after ++ ['\x7d']) := by
  have hne : before ++ (key, .string s) :: after ≠ [] :=
    List.append_ne_nil_of_right_ne_nil _ (List.cons_ne_nil _ _)
  have htext : (selectorOf (before ++ (key, .string s) :: after)).toList =
      '\x7b' :: (ahead [','] selectorText before ++ (key.toList ++ [':'])) ++
        ((literal s).toList ++ (marked [','] selectorText after ++ ['\x7d'])) := by
    rw [toList_selectorOf_of_ne hne, intercalate_split]
    simp [selectorText, selectorEntry]
  rw [htext]
  exact holdsLiteral_literal _ s _

/-- A predicate has a literal at the place of each string value. -/
theorem holdsLiteral_predicateOf (name : String) :
    HoldsLiteral (predicateOf name (before ++ (key, .string s) :: after)).toList
      (ahead conjunction (conjunctText name) before ++
        (name.toList ++ '.' :: (key.toList ++ ['=']))) s
      (marked conjunction (conjunctText name) after) := by
  have htext : (predicateOf name (before ++ (key, .string s) :: after)).toList =
      (ahead conjunction (conjunctText name) before ++
        (name.toList ++ '.' :: (key.toList ++ ['=']))) ++
        ((literal s).toList ++ marked conjunction (conjunctText name) after) := by
    rw [toList_predicateOf_eq, intercalate_split]
    simp [conjunctText, conjunct]
  rw [htext]
  exact holdsLiteral_literal _ s _

end OneValue

/-! ## All literals -/

/-- What is read of a literal and its closing quote is gone from the text. -/
theorem length_lt_of_unquote? : ∀ {cs s rest : List Char}, unquote? cs = some (s, rest) →
    rest.length < cs.length := by
  intro cs
  fun_induction unquote? cs with
  | case1 => intro s rest h; cases h
  | case2 rest =>
    intro s rest' h
    cases h
    exact Nat.lt_succ_self _
  | case3 c rest ih =>
    intro s rest' h
    obtain ⟨⟨s', t⟩, hread, heq⟩ := Option.map_eq_some_iff.1 h
    cases heq
    have := ih hread
    simp only [List.length_cons]
    omega
  | case4 c rest _ _ ih =>
    intro s rest' h
    obtain ⟨⟨s', t⟩, hread, heq⟩ := Option.map_eq_some_iff.1 h
    cases heq
    have := ih hread
    simp only [List.length_cons]
    omega

/-- The literals of a text, from left to right; what stands outside of them is passed over.  A
literal that is not closed makes the text unreadable. -/
def literals? : List Char → Option (List String)
  | [] => some []
  | c :: rest =>
    if c = '\'' then
      match h : unquote? rest with
      | none => none
      | some (s, after) =>
        have : after.length < rest.length := length_lt_of_unquote? h
        (literals? after).map (String.ofList s :: ·)
    else literals? rest
termination_by cs => cs.length

/-- A text holds literals and leaves none open: whatever follows, it is read after these. -/
def HasLiterals (text : List Char) (found : List String) : Prop :=
  ∀ rest, literals? (text ++ rest) = (literals? rest).map (found ++ ·)

namespace HasLiterals

variable {text text' : List Char} {found found' : List String}

theorem append (h : HasLiterals text found) (h' : HasLiterals text' found') :
    HasLiterals (text ++ text') (found ++ found') := by
  intro rest
  rw [List.append_assoc, h, h', Option.map_map]
  exact congrArg (Option.map · _) (funext fun more => (List.append_assoc found found' more).symm)

theorem flatMap {α : Type} {xs : List α} {write : α → List Char} {values : α → List String}
    (h : ∀ x ∈ xs, HasLiterals (write x) (values x)) :
    HasLiterals (xs.flatMap write) (xs.flatMap values) := by
  induction xs with
  | nil => exact fun rest => Option.map_id'.symm
  | cons x xs ih =>
    obtain ⟨hx, hxs⟩ := List.forall_mem_cons.1 h
    exact hx.append (ih hxs)

/-- A text without quotes has no literal. -/
theorem of_not_mem (h : '\'' ∉ text) : HasLiterals text [] := by
  intro rest
  induction text with
  | nil => exact Option.map_id'.symm
  | cons c cs ih =>
    rw [List.mem_cons, not_or] at h
    obtain ⟨hc, hcs⟩ := h
    rw [List.cons_append, literals?, if_neg (Ne.symm hc), ih hcs]

/-- A text in quotes is one literal. -/
theorem literal (s : String) : HasLiterals (Query.literal s).toList [s] := by
  intro rest
  have hread := unquote?_flatMap s.toList rest
  rw [toList_literal, List.append_assoc, List.cons_append, List.singleton_append, literals?,
    if_pos rfl]
  split
  next hnone => cases hnone.symm.trans hread
  next s' after hsome =>
    cases hsome.symm.trans hread
    rw [String.ofList_toList]
    rfl

end HasLiterals

/-- The string that a value is, if it is one. -/
def stringOf : Json → List String
  | .string s => [s]
  | _ => []

/-- The string values of entries, in their order. -/
def stringsOf (entries : List (String × Json)) : List String :=
  entries.flatMap fun e => stringOf e.2

/-- No quote is written for an entry but those of its string value. -/
def QuotesValuesOnly (e : String × Json) : Prop :=
  '\'' ∉ e.1.toList ∧ (e.2.form ≠ .string → '\'' ∉ e.2.text.toList)

/-- A key, a mark and a value have no literal but the value. -/
theorem hasLiterals_entryText {mark gap : List Char} (hmark : '\'' ∉ mark) (hgap : '\'' ∉ gap)
    {e : String × Json} (h : QuotesValuesOnly e) :
    HasLiterals (entryText mark gap e) (stringOf e.2) := by
  obtain ⟨key, v⟩ := e
  have hvalue : HasLiterals (valueText gap v) (stringOf v) := by
    by_cases hform : v.form = .string
    · obtain ⟨s, rfl⟩ := Json.exists_of_form_eq_string hform
      exact .literal s
    · have hnone : stringOf v = [] := by
        cases v with
        | string s => exact absurd rfl hform
        | _ => rfl
      rw [valueText_of_form_ne hform, hnone]
      exact (HasLiterals.of_not_mem hgap).append (.of_not_mem (h.2 hform))
  exact (HasLiterals.of_not_mem h.1).append ((HasLiterals.of_not_mem hmark).append hvalue)

/-- Elements with marks between them have the literals of the elements. -/
theorem hasLiterals_intercalate {α : Type} {mark : List Char} (hmark : '\'' ∉ mark)
    {write : α → List Char} {values : α → List String} {xs : List α}
    (h : ∀ x ∈ xs, HasLiterals (write x) (values x)) :
    HasLiterals (mark.intercalate (xs.map write)) (xs.flatMap values) := by
  cases xs with
  | nil => exact .of_not_mem List.not_mem_nil
  | cons x xs =>
    obtain ⟨hx, hxs⟩ := List.forall_mem_cons.1 h
    rw [intercalate_map_cons]
    exact hx.append (HasLiterals.flatMap fun y hy =>
      (HasLiterals.of_not_mem hmark).append (hxs y hy))

theorem hasLiterals_selectorOf {entries : List (String × Json)}
    (h : ∀ e ∈ entries, QuotesValuesOnly e) :
    HasLiterals (selectorOf entries).toList (stringsOf entries) := by
  by_cases hempty : entries = []
  · rw [toList_selectorOf, if_pos hempty, stringsOf, hempty]
    exact .of_not_mem List.not_mem_nil
  · have hbrace : '\'' ∉ ['\x7b'] := by decide
    have hentries : HasLiterals ([','].intercalate (entries.map selectorText))
        (stringsOf entries) := by
      refine hasLiterals_intercalate (by decide) fun e he => ?_
      rw [selectorText, toList_selectorEntry]
      exact hasLiterals_entryText (by decide) (by decide) (h e he)
    rw [toList_selectorOf_of_ne hempty, ← List.append_nil (stringsOf entries)]
    exact (HasLiterals.of_not_mem hbrace).append (hentries.append (.of_not_mem (by decide)))

theorem hasLiterals_predicateOf {name : String} {filters : List (String × Json)}
    (hname : '\'' ∉ name.toList) (h : ∀ e ∈ filters, QuotesValuesOnly e) :
    HasLiterals (predicateOf name filters).toList (stringsOf filters) := by
  rw [toList_predicateOf_eq]
  refine hasLiterals_intercalate (by decide) fun e he => ?_
  rw [conjunctText, toList_conjunct]
  exact (HasLiterals.of_not_mem hname).append ((HasLiterals.of_not_mem (by decide)).append
    (hasLiterals_entryText (by decide) (by decide) (h e he)))

/-- **String values stay in their quotes.**  An escaped string is read back as it was, up to its
closing quote and no further, whatever follows; escaping it is to double its backslashes and then
to mark its quotes.  In whatever order the entries of a map are written, each string value of the
map stands in the selector and in the predicates of the map, between what is written for its key
and for the entries before and after it, as one literal that denotes it.  Where no quotes are
written but those of string values, the literals of a selector or a predicate are these values in
their order, whatever text it stands before. -/
theorem strings_quoted :
    (∀ s rest, unquote? ((escape s).toList ++ '\'' :: rest) = some (s.toList, rest)) ∧
    (∀ s, (escape s).toList = (s.toList.flatMap doubleBackslash).flatMap markQuote) ∧
    (∀ properties : PropertyMap, ∀ entries, entries.Perm properties.entries → ∀ key s,
      properties.get? key = some (.string s) ↔
        ∃ before after, entries = before ++ (key, .string s) :: after) ∧
    (∀ before key s after,
      HoldsLiteral (selectorOf (before ++ (key, .string s) :: after)).toList
        ('\x7b' :: (ahead [','] selectorText before ++ (key.toList ++ [':']))) s
        (marked [','] selectorText after ++ ['\x7d']) ∧
      ∀ name, HoldsLiteral (predicateOf name (before ++ (key, .string s) :: after)).toList
        (ahead conjunction (conjunctText name) before ++
          (name.toList ++ '.' :: (key.toList ++ ['=']))) s
        (marked conjunction (conjunctText name) after)) ∧
    ∀ entries : List (String × Json), (∀ e ∈ entries, QuotesValuesOnly e) →
      (∀ rest, literals? ((selectorOf entries).toList ++ rest) =
        (literals? rest).map (stringsOf entries ++ ·)) ∧
      ∀ name, '\'' ∉ name.toList → ∀ rest,
        literals? ((predicateOf name entries).toList ++ rest) =
          (literals? rest).map (stringsOf entries ++ ·) := by
  refine ⟨unquote?_escape, toList_escape_eq_passes, ?_, ?_, ?_⟩
  · intro properties entries order key s
    rw [← properties.mem_entries_iff, ← order.mem_iff, List.mem_iff_append]
  · intro before key s after
    exact ⟨holdsLiteral_selectorOf before after key s,
      holdsLiteral_predicateOf before after key s⟩
  · intro entries h
    exact ⟨hasLiterals_selectorOf h, fun _ hname => hasLiterals_predicateOf hname h⟩

/-- A name with a quote in it and a backslash at its end. -/
def quotedName : PropertyMap :=
  Dict.ofList [("age", .integer 5), ("name", .string "O'Brien \\")]

/-- The name is the only literal of its selector, and ends before the brace. -/
theorem strings_quoted_name :
    quotedName.entries = [("age", .integer 5)] ++ ("name", .string "O'Brien \\") :: [] ∧
      selector quotedName = "\x7bage: 5,name:'O\\'Brien \\\\'\x7d" ∧
      HoldsLiteral (selector quotedName).toList "\x7bage: 5,name:".toList "O'Brien \\" ['\x7d'] ∧
      (∀ e ∈ quotedName.entries, QuotesValuesOnly e) ∧ '\'' ∉ "v".toList ∧
      ∀ rest, literals? ((predicate "v" quotedName).toList ++ rest) =
        (literals? rest).map (["O'Brien \\"] ++ ·) := by
  have hentries : quotedName.entries =
      [("age", .integer 5)] ++ ("name", .string "O'Brien \\") :: [] := by rfl
  have honly : ∀ e ∈ quotedName.entries, QuotesValuesOnly e := by
    rw [hentries, List.forall_mem_append, List.forall_mem_singleton, List.forall_mem_singleton]
    exact ⟨⟨by decide, fun _ => by decide⟩, by decide, fun h => absurd rfl h⟩
  have hname : '\'' ∉ "v".toList := by decide
  obtain ⟨-, -, -, hone, hall⟩ := strings_quoted
  obtain ⟨hselector, -⟩ := hone [("age", .integer 5)] "name" "O'Brien \\" []
  obtain ⟨-, hpredicate⟩ := hall quotedName.entries honly
  exact ⟨hentries, by decide +kernel, hselector, honly, hname, hpredicate "v" hname⟩

end PropertyGraph.Query
