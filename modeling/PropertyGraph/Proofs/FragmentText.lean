import PropertyGraph.Proofs.UnambiguousText
import PropertyGraph.Query.Fragment

/-!
# Fragments of query text can be told apart

The fragments that query text is put together from, each with what may follow it.  A literal
ends at its closing quote, since every quote inside is written with a backslash
(`unquote?_flatMap`).  An entry is a key, a mark and a value; the mark is no character of a key,
and only literals start with a quote.  A selector ends at its brace, labels at the bracket of
their site (`told_siteText`), and a clause at what the query returns (`told_clauseText`).

> `toList_whereClauseOf`: the groups of a clause do not show in its text, only their filters do.

Keys and labels are written as they are.  They can be told where they are identifiers; values
may be anything but floating-point numbers.
-/

namespace PropertyGraph.Query

/-! ## Literals -/

/-- Reads a text up to the quote that closes it; a backslash takes the next character as it is. -/
def unquote? : List Char → Option (List Char × List Char)
  | [] => none
  | '\'' :: rest => some ([], rest)
  | '\\' :: c :: rest => (unquote? rest).map fun p => (c :: p.1, p.2)
  | c :: rest => (unquote? rest).map fun p => (c :: p.1, p.2)

/-- A character is read as itself, however it is written. -/
theorem unquote?_escapeChar (c : Char) (rest : List Char) :
    unquote? (escapeChar c ++ rest) = (unquote? rest).map fun p => (c :: p.1, p.2) := by
  unfold escapeChar
  split
  next h => rw [h]; rfl
  next hslash =>
    split
    next h => rw [h]; rfl
    next hquote =>
      rw [List.singleton_append, unquote?]
      · exact hquote
      · exact fun _ _ h _ => hslash h

theorem unquote?_flatMap (cs rest : List Char) :
    unquote? (cs.flatMap escapeChar ++ '\'' :: rest) = some (cs, rest) := by
  induction cs with
  | nil => rfl
  | cons c cs ih =>
    rw [List.flatMap_cons, List.append_assoc, unquote?_escapeChar, ih]
    rfl

theorem toList_literal (s : String) :
    (literal s).toList = '\'' :: s.toList.flatMap escapeChar ++ ['\''] := by
  simp [literal, escape]

/-- **Literals.**  A text in single quotes is read up to its closing quote. -/
theorem told_literal (s : String) :
    Told (fun _ => True) (fun _ => True) (fun s => (literal s).toList) s := by
  intro t r r' _ _ _ htext
  simp only [toList_literal, List.cons_append, List.append_assoc, List.cons.injEq, true_and,
    List.nil_append] at htext
  have hread := congrArg unquote? htext
  rw [unquote?_flatMap, unquote?_flatMap, Option.some.injEq, Prod.mk.injEq] at hread
  exact ⟨String.toList_injective hread.1, hread.2⟩

/-! ## Identifiers -/

/-- Whether a character may stand in an identifier. -/
def isWordChar (c : Char) : Bool := c.isAlpha || c.isDigit || c == '_'

/-- A text that may stand in query text as a label or a key: letters, digits and underscores, of
which the first is no digit. -/
def IsIdentifier (s : String) : Prop :=
  s ≠ "" ∧ (∀ c ∈ s.toList, isWordChar c = true) ∧ ∀ c ∈ s.toList.head?, c.isDigit = false

theorem told_identifier {s : String} (h : IsIdentifier s) :
    Told IsIdentifier (Stops isWordChar) String.toList s :=
  ((told_run h.2.1).comap fun _ _ => String.toList_injective).mono (fun _ ht => ht.2.1)
    fun _ hr => hr

/-! ## Entries -/

/-- A value inside query text: a literal, or a gap and the text of the value. -/
def valueText (gap : List Char) : Json → List Char
  | .string s => (literal s).toList
  | v => gap ++ v.text.toList

theorem valueText_of_form_ne {gap : List Char} {v : Json} (h : v.form ≠ .string) :
    valueText gap v = gap ++ v.text.toList := by
  cases v with
  | string s => exact absurd rfl h
  | _ => rfl

/-- What is no literal does not start with a quote. -/
theorem valueText_ne_quote {gap : List Char} (hgap : gap.head? ≠ some '\'') {v : Json}
    (hfree : v.FloatFree) (h : v.form ≠ .string) (r s : List Char) :
    valueText gap v ++ r ≠ '\'' :: s := by
  rw [valueText_of_form_ne h]
  cases gap with
  | nil => exact Json.text_ne_of_formAt? hfree (by decide) r s
  | cons c gap => exact fun htext => hgap (congrArg some (List.cons.inj htext).1)

/-- A value can be told where no digit follows, since only literals start with a quote. -/
theorem told_valueText {gap : List Char} (hgap : gap.head? ≠ some '\'') {v : Json}
    (hfree : v.FloatFree) : Told Json.FloatFree (Stops Char.isDigit) (valueText gap) v := by
  intro w r s hw hr hs htext
  by_cases hv : v.form = .string
  · obtain ⟨t, rfl⟩ := Json.exists_of_form_eq_string hv
    by_cases hw' : w.form = .string
    · obtain ⟨u, rfl⟩ := Json.exists_of_form_eq_string hw'
      obtain ⟨rfl, hrest⟩ := told_literal t u r s trivial trivial trivial htext
      exact ⟨rfl, hrest⟩
    · rw [valueText, toList_literal] at htext
      exact absurd htext.symm (valueText_ne_quote hgap hw hw' s _)
  · by_cases hw' : w.form = .string
    · obtain ⟨u, rfl⟩ := Json.exists_of_form_eq_string hw'
      rw [valueText, toList_literal] at htext
      exact absurd htext (valueText_ne_quote hgap hfree hv r _)
    · rw [valueText_of_form_ne hv, valueText_of_form_ne hw'] at htext
      exact (Json.told_text v hfree).after gap w r s hw hr hs htext

/-- An entry that may stand in query text. -/
def PlainEntry (e : String × Json) : Prop := IsIdentifier e.1 ∧ e.2.FloatFree

/-- The text of a key, a mark and a value. -/
def entryText (mark gap : List Char) (e : String × Json) : List Char :=
  e.1.toList ++ (mark ++ valueText gap e.2)

theorem told_entryText {mark gap : List Char} (hmark : ∀ t, Stops isWordChar (mark ++ t))
    (hgap : gap.head? ≠ some '\'') {e : String × Json} (h : PlainEntry e) :
    Told PlainEntry (Stops Char.isDigit) (entryText mark gap) e :=
  (told_identifier h.1).pair ((told_valueText hgap h.2).after mark) h.2 fun v r _ _ => by
    rw [List.append_assoc]
    exact hmark _

theorem toList_selectorEntry (e : String × Json) :
    (selectorEntry e.1 e.2).toList = entryText [':'] [' '] e := by
  obtain ⟨key, v⟩ := e
  cases v <;> simp [selectorEntry, entryText, valueText]

/-! ## Selectors -/

/-- A map whose entries may stand in query text. -/
def PlainMap (properties : PropertyMap) : Prop := ∀ e ∈ properties.entries, PlainEntry e

theorem toList_selectorOf (entries : List (String × Json)) :
    (selectorOf entries).toList =
      if entries = [] then [] else '\x7b' :: enclosed '\x7d' (entryText [':'] [' ']) entries := by
  unfold selectorOf
  by_cases hempty : entries = []
  · rw [if_pos hempty, if_pos (List.isEmpty_iff.2 hempty)]
    rfl
  · rw [if_neg hempty, if_neg (by simpa using hempty)]
    have htexts : (entries.map fun e => selectorEntry e.1 e.2).map String.toList =
        entries.map (entryText [':'] [' ']) := by
      rw [List.map_map]
      exact List.map_congr_left fun e _ => toList_selectorEntry e
    simp only [String.toList_append, String.toList_intercalate, htexts, enclosed]
    rfl

theorem toList_selector (properties : PropertyMap) :
    (selector properties).toList =
      if properties.entries = [] then []
      else '\x7b' :: enclosed '\x7d' (entryText [':'] [' ']) properties.entries :=
  toList_selectorOf properties.entries

/-- A selector can be told where no brace follows. -/
theorem told_selector {properties : PropertyMap} (h : PlainMap properties) :
    Told PlainMap (fun r => r.head? ≠ some '\x7b') (fun p => (selector p).toList) properties := by
  have hstart : ∀ e, PlainEntry e → ∀ r s, entryText [':'] [' '] e ++ r ≠ '\x7d' :: s := by
    intro e he r s htext
    obtain ⟨hne, hword, -⟩ := he.1
    cases hkey : e.1.toList with
    | nil => exact hne (String.toList_eq_nil_iff.1 hkey)
    | cons c cs =>
      have hc : isWordChar c = true := hword c (hkey ▸ List.mem_cons_self)
      rw [entryText, hkey] at htext
      rw [(List.cons.inj htext).1] at hc
      exact absurd hc (by decide)
  intro other r s hother hr hs htext
  simp only [toList_selector] at htext
  by_cases hempty : properties.entries = [] <;> by_cases hempty' : other.entries = []
  · rw [if_pos hempty, if_pos hempty'] at htext
    exact ⟨Dict.ext (hempty.trans hempty'.symm), htext⟩
  · -- The brace of one selector stands where the other one is missing.
    rw [if_pos hempty, if_neg hempty'] at htext
    exact absurd (congrArg List.head? htext) hr
  · rw [if_neg hempty, if_pos hempty'] at htext
    exact absurd (congrArg List.head? htext.symm) hs
  · rw [if_neg hempty, if_neg hempty'] at htext
    obtain ⟨heq, hrest⟩ := told_enclosed (by decide) (fun _ => by simp [Stops])
      (fun _ => by simp [Stops]) hstart h
      (fun e he => told_entryText (fun _ => by simp [Stops, isWordChar]) (by decide) (h e he))
      other.entries r s hother trivial trivial (List.cons.inj htext).2
    exact ⟨Dict.ext heq, hrest⟩

/-! ## Labels -/

theorem toList_labelSuffix (labels : List String) :
    (labelSuffix labels).toList = marked [':'] String.toList labels := by
  induction labels with
  | nil => rfl
  | cons l rest ih =>
    rw [marked_cons, ← ih]
    simp [labelSuffix]

theorem told_labelSuffix {labels : List String} (h : ∀ l ∈ labels, IsIdentifier l) :
    Told (fun ls => ∀ l ∈ ls, IsIdentifier l) (fun r => Stops isWordChar r ∧ ¬ [':'] <+: r)
      (marked [':'] String.toList) labels :=
  told_marked (fun _ => by simp [Stops, isWordChar]) fun l hl => told_identifier (h l hl)

/-- The labels and the selector of a site of a pattern. -/
def siteText (site : List String × PropertyMap) : List Char :=
  marked [':'] String.toList site.1 ++ (selector site.2).toList

/-- Labels and a selector that may stand in query text. -/
def PlainSite (site : List String × PropertyMap) : Prop :=
  (∀ l ∈ site.1, IsIdentifier l) ∧ PlainMap site.2

/-- A site of a pattern ends here. -/
def Closes (rest : List Char) : Prop := ∃ c t, rest = c :: t ∧ (c = ')' ∨ c = ']')

/-- Labels and selector can be told up to the bracket that closes their site. -/
theorem told_siteText {site : List String × PropertyMap} (h : PlainSite site) :
    Told PlainSite Closes siteText site := by
  have hselector : Told PlainMap Closes (fun p => (selector p).toList) site.2 := by
    refine (told_selector h.2).mono (fun _ hp => hp) ?_
    rintro r ⟨c, t, rfl, rfl | rfl⟩ <;> simp
  refine (told_labelSuffix h.1).pair hselector h.2 ?_
  rintro properties r - ⟨c, t, rfl, hc⟩
  rw [toList_selector]
  split
  next => rcases hc with rfl | rfl <;> simp [Stops, isWordChar]
  next => simp [Stops, isWordChar]

/-! ## Filters -/

/-- A filter of a variable. -/
abbrev Filter := String × (String × Json)

/-- The filters of groups, one after the other. -/
def filtersOf (groups : List Group) : List Filter :=
  groups.flatMap fun g => g.2.map fun e => (g.1, e)

/-- The text of a conjunct. -/
def filterText (f : Filter) : List Char := f.1.toList ++ (['.'] ++ entryText ['='] [] f.2)

/-- What stands between two conjuncts. -/
def conjunction : List Char := " AND ".toList

/-- The text of a clause: nothing without any filter. -/
def clauseText : List Filter → List Char
  | [] => []
  | f :: rest => " WHERE ".toList ++ (filterText f ++ marked conjunction filterText rest)

theorem clauseText_nil : clauseText [] = [] := rfl

theorem clauseText_cons (f : Filter) (rest : List Filter) : clauseText (f :: rest) =
    " WHERE ".toList ++ (filterText f ++ marked conjunction filterText rest) := rfl

theorem toList_conjunct (name : String) (e : String × Json) :
    (conjunct name e.1 e.2).toList = filterText (name, e) := by
  obtain ⟨key, v⟩ := e
  cases v <;> simp [conjunct, filterText, entryText, valueText]

theorem marked_append {α : Type} (mark : List Char) (write : α → List Char) (xs ys : List α) :
    marked mark write (xs ++ ys) = marked mark write xs ++ marked mark write ys :=
  List.flatMap_append

/-- The conjuncts of one variable, with a mark before each but the first. -/
theorem toList_predicateOf (name : String) (e : String × Json) (rest : List (String × Json)) :
    (predicateOf name (e :: rest)).toList =
      filterText (name, e) ++ marked conjunction filterText (rest.map fun e => (name, e)) := by
  have hconjuncts : (conjuncts name (e :: rest)).map String.toList =
      ((e :: rest).map fun e => (name, e)).map filterText := by
    rw [conjuncts, List.map_map, List.map_map]
    exact List.map_congr_left fun e _ => toList_conjunct name e
  rw [predicateOf, String.toList_intercalate, hconjuncts, List.map_cons, intercalate_map_cons]
  rfl

section Groups

variable (g : Group) (groups : List Group)

theorem filtersOf_cons :
    filtersOf (g :: groups) = g.2.map (fun e => (g.1, e)) ++ filtersOf groups :=
  List.flatMap_cons

/-- Groups without filters contribute none. -/
theorem filtersOf_filter :
    filtersOf (groups.filter fun g => !g.2.isEmpty) = filtersOf groups := by
  induction groups with
  | nil => rfl
  | cons g rest ih =>
    by_cases hempty : g.2 = []
    · rw [List.filter_cons_of_neg (by simp [hempty]), ih, filtersOf_cons, hempty]
      rfl
    · rw [List.filter_cons_of_pos (by simpa using hempty), filtersOf_cons, ih, filtersOf_cons]

variable {groups}

/-- Groups with filters, with a mark before each, are their filters with a mark before each. -/
theorem marked_predicateOf (h : ∀ g ∈ groups, g.2 ≠ []) :
    marked conjunction (fun g => (predicateOf g.1 g.2).toList) groups =
      marked conjunction filterText (filtersOf groups) := by
  induction groups with
  | nil => rfl
  | cons g rest ih =>
    obtain ⟨hne, hrest⟩ := List.forall_mem_cons.1 h
    obtain ⟨e, es, hentries⟩ := List.exists_cons_of_ne_nil hne
    rw [marked_cons, hentries, toList_predicateOf, ih hrest, filtersOf_cons, hentries,
      List.map_cons, marked_append, marked_cons]
    simp only [List.append_assoc]

variable (groups)

/-- The clause of some groups is that of all their filters. -/
theorem toList_whereClauseOf :
    (whereClauseOf groups).toList = clauseText (filtersOf groups) := by
  have hne : ∀ g ∈ groups.filter fun g => !g.2.isEmpty, g.2 ≠ [] := by
    intro g hg hempty
    have hkept := (List.mem_filter.1 hg).2
    simp [hempty] at hkept
  -- Only groups with filters are joined, and each of these has a first one to join them at.
  rw [← filtersOf_filter, whereClauseOf]
  cases hgroups : groups.filter fun g => !g.2.isEmpty with
  | nil => rfl
  | cons g rest =>
    rw [hgroups] at hne
    obtain ⟨hfirst, hrest⟩ := List.forall_mem_cons.1 hne
    obtain ⟨e, es, hentries⟩ := List.exists_cons_of_ne_nil hfirst
    have hfilters : filtersOf (g :: rest) =
        (g.1, e) :: (es.map (fun e => (g.1, e)) ++ filtersOf rest) := by
      rw [filtersOf_cons, hentries]
      rfl
    have hjoined := intercalate_map_cons conjunction
      (fun g : Group => (predicateOf g.1 g.2).toList) g rest
    rw [marked_predicateOf hrest, hentries, toList_predicateOf, List.append_assoc,
      ← marked_append] at hjoined
    rw [hfilters, clauseText_cons, ← hjoined]
    simp only [List.map_cons, String.toList_append, String.toList_intercalate, List.map_map]
    rfl

/-- The filters under one name are those of the groups with that name. -/
theorem entries_filtersOf (name : String) :
    ((filtersOf groups).filter fun f => f.1 == name).map Prod.snd =
      groups.flatMap fun g => if g.1 = name then g.2 else [] := by
  induction groups with
  | nil => rfl
  | cons g rest ih =>
    rw [filtersOf_cons, List.filter_append, List.map_append, ih, List.flatMap_cons]
    by_cases hname : g.1 = name
    · rw [if_pos hname, List.filter_map, List.map_map]
      simp [Function.comp_def, hname]
    · rw [if_neg hname, List.filter_map, List.map_map]
      simp [Function.comp_def, hname]

end Groups

/-- A filter that may stand in query text. -/
def PlainFilter (f : Filter) : Prop := IsIdentifier f.1 ∧ PlainEntry f.2

theorem told_filterText {f : Filter} (h : PlainFilter f) :
    Told PlainFilter (Stops Char.isDigit) filterText f :=
  (told_identifier h.1).pair
    ((told_entryText (fun _ => by simp [Stops, isWordChar]) (by decide) h.2).after ['.']) h.2
    fun _ _ _ _ => by simp [Stops, isWordChar]

/-- The query goes on with what it returns. -/
def Returns (rest : List Char) : Prop := " return ".toList <+: rest

theorem Returns.follows {rest : List Char} (h : Returns rest) :
    Stops Char.isDigit rest ∧ ¬ conjunction <+: rest := by
  obtain ⟨t, rfl⟩ := h
  exact ⟨by simp [Stops], by simp [conjunction]⟩

theorem not_returns_where (t : List Char) : ¬ Returns (" WHERE ".toList ++ t) := by
  simp [Returns]

/-- A clause can be told up to what the query returns. -/
theorem told_clauseText {filters : List Filter} (h : ∀ f ∈ filters, PlainFilter f) :
    Told (fun fs => ∀ f ∈ fs, PlainFilter f) Returns clauseText filters := by
  intro others r s hothers hr hs htext
  cases filters with
  | nil =>
    cases others with
    | nil => exact ⟨rfl, htext⟩
    | cons o others =>
      -- A clause does not start like what the query returns.
      rw [clauseText_nil, clauseText_cons, List.nil_append, List.append_assoc] at htext
      exact absurd (htext ▸ hr) (not_returns_where _)
  | cons f filters =>
    cases others with
    | nil =>
      rw [clauseText_nil, clauseText_cons, List.nil_append, List.append_assoc] at htext
      exact absurd (htext ▸ hs) (not_returns_where _)
    | cons o others =>
      obtain ⟨hf, hfilters⟩ := List.forall_mem_cons.1 h
      obtain ⟨ho, hothers'⟩ := List.forall_mem_cons.1 hothers
      have hmark : ∀ t, Stops Char.isDigit (conjunction ++ t) := by
        intro t
        simp [Stops, conjunction]
      simp only [clauseText_cons, List.append_assoc, List.append_cancel_left_eq] at htext
      obtain ⟨rfl, hrest⟩ := told_filterText hf o _ _ ho
        (follows_marked hmark filters hr.follows.1) (follows_marked hmark others hs.follows.1) htext
      obtain ⟨rfl, hend⟩ := told_marked hmark (fun f hf => told_filterText (hfilters f hf)) others
        r s hothers' hr.follows hs.follows hrest
      exact ⟨rfl, hend⟩

end PropertyGraph.Query
