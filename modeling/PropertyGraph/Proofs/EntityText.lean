import PropertyGraph.Proofs.ReopeningDepth
import PropertyGraph.Proofs.StoredDirection
import PropertyGraph.Proofs.UnambiguousText

/-!
# The text of elements

An element comes from AgensGraph as one text: a label, identifiers in brackets and an object.
The reader takes it apart from the start.  A label ends at the first bracket, an identifier at
the next one, and what is left has to stand in braces, whatever stands between them.  Each of
these steps is undone by putting its parts together again (`label?_eq_some_iff`,
`bracketed?_eq_some_iff`, `braced?_eq_some_iff`), and so an element is read exactly from the text
that its parts make, with blanks around it.

> Main result (`entityText_exact`): the text of a vertex and the text of an edge are read as what
> they say, nothing else is read, a text can be taken apart in one way only, and none is the text
> of a vertex and of an edge.
-/

namespace PropertyGraph

/-! ## Blanks around a text -/

namespace Text

/-- A text that neither starts nor ends with a blank is what remains of it with blanks around. -/
theorem trim_eq {before cs after : List Char} (hbefore : ∀ c ∈ before, isBlank c = true)
    (hafter : ∀ c ∈ after, isBlank c = true) (hne : cs ≠ []) (hstart : Stops isBlank cs)
    (hend : Stops isBlank cs.reverse) : trim (before ++ cs ++ after) = cs := by
  obtain ⟨c, rest, rfl⟩ := List.exists_cons_of_ne_nil hne
  have hfirst : Stops isBlank (c :: rest ++ after) := hstart
  have hdropped : (before ++ (c :: rest ++ after)).dropWhile isBlank = c :: rest ++ after :=
    (span_eq_iff.2 ⟨rfl, hbefore, hfirst⟩).2
  have hreversed : (after.reverse ++ (c :: rest).reverse).dropWhile isBlank = (c :: rest).reverse :=
    (span_eq_iff.2 ⟨rfl, fun d hd => hafter d (List.mem_reverse.1 hd), hend⟩).2
  rw [trim, List.append_assoc, hdropped, trimEnd, List.reverse_append, hreversed,
    List.reverse_reverse]

/-- What is left without its blanks does not start with one. -/
theorem stops_isBlank_trim (cs : List Char) : Stops isBlank (trim cs) := by
  have hdropped : Stops isBlank (cs.dropWhile isBlank) := (span_eq_iff.1 ⟨rfl, rfl⟩).2.2
  -- What is cut off at the end leaves the start as it is.
  have hprefix : trim cs <+: cs.dropWhile isBlank := by
    have hsuffix := List.dropWhile_suffix (l := (cs.dropWhile isBlank).reverse) isBlank
    rwa [← List.reverse_prefix, List.reverse_reverse] at hsuffix
  obtain ⟨rest, hrest⟩ := hprefix
  rw [← hrest] at hdropped
  exact hdropped.left

end Text

/-! ## Objects -/

/-- A number is not read as an object. -/
theorem Numeral.value?_ne_object (n : Numeral) (members : List (String × Json)) :
    n.value? ≠ some (.object members) := by
  unfold Numeral.value?
  cases Numeral.fit 0 n.whole with
  | mk whole dropped =>
    dsimp only
    split_ifs <;> simp

/-- Only an object is read as one. -/
theorem Document.value?_ne_object {d : Document} (hd : ∀ ms, d ≠ .object ms)
    (members : List (String × Json)) : d.value? ≠ some (.object members) := by
  unfold value? maxDepth
  cases d with
  | null => simp [valueWithin?]
  | bool b => simp [valueWithin?]
  | number n =>
    unfold valueWithin?
    exact n.value?_ne_object members
  | string s => cases s <;> simp [valueWithin?]
  | array items =>
    unfold valueWithin?
    cases itemsWithin? 126 items <;> simp
  | object ms => exact absurd rfl (hd ms)

/-- Properties are read from the texts that say an object. -/
theorem Json.decode?_properties_iff {s : String} {properties : PropertyMap} :
    Json.decode? Nested.source.properties? s = some properties ↔
      Json.parse? s = some (Json.ofDict properties) := by
  unfold Json.decode? Json.parse?
  cases Json.document? s with
  | none => simp
  | some document =>
    rw [Option.bind_some, Option.bind_some]
    have hother : Nested.source.properties? ⟨Document.maxDepth, document⟩ = none →
        (∀ ms, document ≠ .object ms) →
        (Nested.source.properties? ⟨Document.maxDepth, document⟩ = some properties ↔
          document.value? = some (Json.ofDict properties)) := by
      intro hnone hdocument
      rw [hnone]
      exact iff_of_false (Option.some_ne_none _).symm (Document.value?_ne_object hdocument _)
    cases document with
    | object members =>
      have hvalue : (Document.object members).value? =
          (Document.membersWithin? 126 members).map fun ms => .object (Dict.collect ms) := by
        unfold Document.value? Document.valueWithin?
        rfl
      have hproperties : Nested.source.properties? ⟨Document.maxDepth, .object members⟩ =
          (Document.membersWithin? 126 members).map Dict.ofList :=
        Embedded.properties?_object 126 members
      rw [hvalue, hproperties]
      cases Document.membersWithin? 126 members with
      | none => simp
      | some ms =>
        rw [Option.map_some, Option.map_some, Option.some_inj, Option.some_inj, Json.ofDict,
          Json.object.injEq, Dict.ext_iff]
        rfl
    | _ => exact hother rfl fun ms => by simp

namespace Agens

/-! ## The parts of a text -/

/-- A label is not empty, holds no bracket and does not start with a blank. -/
structure IsLabel (s : String) : Prop where
  nonempty : s ≠ ""
  unbracketed : ∀ c ∈ s.toList, c ≠ '[' ∧ c ≠ ']'
  start : Stops Text.isBlank s.toList

/-- A number is a run of decimal digits that is not empty. -/
def IsNumber (cs : List Char) : Prop := cs ≠ [] ∧ ∀ c ∈ cs, Text.isDigit c = true

/-- A graph identifier is made of two numbers with a point between them. -/
def IsGraphId (s : String) : Prop :=
  ∃ whole place, s.toList = whole ++ '.' :: place ∧ IsNumber whole ∧ IsNumber place

/-- A text in braces starts with the one and ends with the other. -/
def IsBraced (s : String) : Prop :=
  s.toList.head? = some '\x7b' ∧ s.toList.getLast? = some '\x7d'

/-- The text of an object stands in braces and says the members of the object. -/
structure IsObjectText (s : String) (said : PropertyMap) : Prop where
  braced : IsBraced s
  meaning : Json.parse? s = some (Json.ofDict said)

theorem isNumber_iff (cs : List Char) : isNumber cs = true ↔ IsNumber cs := by
  unfold isNumber IsNumber
  rw [Bool.and_eq_true, List.all_eq_true]
  simp

theorem isBracket_eq_false_iff (c : Char) : isBracket c = false ↔ c ≠ '[' ∧ c ≠ ']' := by
  unfold isBracket
  rw [Bool.or_eq_false_iff, beq_eq_false_iff_ne, beq_eq_false_iff_ne]

/-- A label is what stands before the first bracket. -/
theorem label?_eq_some_iff {cs rest : List Char} {label : String} :
    label? cs = some (label, rest) ↔ cs = label.toList ++ rest ∧ label ≠ "" ∧
      (∀ c ∈ label.toList, c ≠ '[' ∧ c ≠ ']') ∧ Stops (!isBracket ·) rest := by
  have hsplit : label? cs = some (label, rest) ↔
      (cs.takeWhile (!isBracket ·) = label.toList ∧ cs.dropWhile (!isBracket ·) = rest) ∧
        label ≠ "" := by
    unfold label?
    cases htake : cs.takeWhile (!isBracket ·) with
    | nil =>
      refine iff_of_false nofun ?_
      rintro ⟨⟨hnil, -⟩, hne⟩
      exact hne (String.toList_eq_nil_iff.1 hnil.symm)
    | cons c front =>
      rw [Option.some_inj, Prod.mk.injEq]
      constructor
      · rintro ⟨rfl, rfl⟩
        exact ⟨⟨String.toList_ofList.symm, rfl⟩, by simp⟩
      · rintro ⟨⟨hlabel, rfl⟩, -⟩
        rw [hlabel, String.ofList_toList]
        exact ⟨rfl, rfl⟩
  have hfront : (∀ c ∈ label.toList, (!isBracket c) = true) ↔
      ∀ c ∈ label.toList, c ≠ '[' ∧ c ≠ ']' := by
    simp only [Bool.not_eq_true', isBracket_eq_false_iff]
  rw [hsplit, span_eq_iff, hfront]
  tauto

/-- What stands in brackets holds no bracket itself. -/
theorem bracketed?_eq_some_iff {cs inner rest : List Char} :
    bracketed? cs = some (inner, rest) ↔
      cs = '[' :: (inner ++ ']' :: rest) ∧ ∀ c ∈ inner, c ≠ '[' ∧ c ≠ ']' := by
  have hsplit : ∀ r, bracketed? ('[' :: r) = some (inner, rest) ↔
      r.takeWhile (!isBracket ·) = inner ∧ r.dropWhile (!isBracket ·) = ']' :: rest := by
    intro r
    simp only [bracketed?]
    split
    next after hafter => simp [hafter]
    next hnone => exact iff_of_false nofun fun h => hnone _ h.2
  have hstops : Stops (!isBracket ·) (']' :: rest) := stops_cons rfl rest
  by_cases hcs : ∃ r, cs = '[' :: r
  · obtain ⟨r, rfl⟩ := hcs
    rw [hsplit, span_eq_iff, List.cons_inj_right]
    simp only [Bool.not_eq_true', isBracket_eq_false_iff, hstops, and_true]
  · refine iff_of_false (fun h => ?_) fun h => hcs ⟨_, h.1⟩
    unfold bracketed? at h
    split at h
    next r => exact hcs ⟨r, rfl⟩
    next => cases h

/-- A graph identifier is read from its own text. -/
theorem graphId?_eq_some_iff {cs : List Char} {id : Identifier} :
    graphId? cs = some id ↔ cs = id.text.toList ∧ IsGraphId id.text := by
  have hpoint : ∀ c, Text.isDigit c = true → (c != '.') = true := by
    intro c hc
    rw [bne_iff_ne]
    rintro rfl
    exact absurd hc (by decide)
  have hsplit : graphId? cs = some id ↔ ∃ whole place,
      (cs.takeWhile (· != '.') = whole ∧ cs.dropWhile (· != '.') = '.' :: place) ∧
        IsNumber whole ∧ IsNumber place ∧ cs = id.text.toList := by
    unfold graphId?
    split
    next place hplace =>
      by_cases hnumbers : (isNumber (cs.takeWhile (· != '.')) && isNumber place) = true
      · rw [if_pos hnumbers, Option.some_inj]
        rw [Bool.and_eq_true, isNumber_iff, isNumber_iff] at hnumbers
        constructor
        · rintro rfl
          exact ⟨_, place, ⟨rfl, hplace⟩, hnumbers.1, hnumbers.2, String.toList_ofList.symm⟩
        · rintro ⟨-, -, -, -, -, hid⟩
          rw [hid, String.ofList_toList]
      · rw [if_neg hnumbers]
        refine iff_of_false nofun ?_
        rintro ⟨whole, place', ⟨rfl, hplace'⟩, hwhole, hnumber, -⟩
        cases hplace.symm.trans hplace'
        rw [← isNumber_iff] at hwhole hnumber
        exact hnumbers (Bool.and_eq_true_iff.2 ⟨hwhole, hnumber⟩)
    next hnone =>
      refine iff_of_false nofun ?_
      rintro ⟨-, place, ⟨-, hplace⟩, -⟩
      exact hnone place hplace
  rw [hsplit]
  constructor
  · rintro ⟨whole, place, hspan, hwhole, hplace, hid⟩
    exact ⟨hid, whole, place, hid ▸ (span_eq_iff.1 hspan).1, hwhole, hplace⟩
  · rintro ⟨hid, whole, place, htext, hwhole, hplace⟩
    exact ⟨whole, place, span_eq_iff.2 ⟨hid.trans htext, fun c hc => hpoint c (hwhole.2 c hc),
      stops_cons rfl place⟩, hwhole, hplace, hid⟩

/-- Every character of a graph identifier is a digit or the point. -/
theorem IsGraphId.mem {s : String} (h : IsGraphId s) :
    ∀ c ∈ s.toList, Text.isDigit c = true ∨ c = '.' := by
  intro c hc
  obtain ⟨whole, place, htext, hwhole, hplace⟩ := h
  rw [htext, List.mem_append, List.mem_cons] at hc
  rcases hc with hc | hc | hc
  · exact Or.inl (hwhole.2 c hc)
  · exact Or.inr hc
  · exact Or.inl (hplace.2 c hc)

theorem IsGraphId.ne_of_mem {s : String} (h : IsGraphId s) {d : Char}
    (hdigit : Text.isDigit d = false) (hpoint : d ≠ '.') : ∀ c ∈ s.toList, c ≠ d := by
  rintro c hc rfl
  rcases h.mem c hc with hc | hc
  · exact absurd (hc.symm.trans hdigit) Bool.noConfusion
  · exact hpoint hc

theorem IsGraphId.unbracketed {s : String} (h : IsGraphId s) :
    ∀ c ∈ s.toList, c ≠ '[' ∧ c ≠ ']' := fun c hc =>
  ⟨h.ne_of_mem (by decide) (by decide) c hc, h.ne_of_mem (by decide) (by decide) c hc⟩

/-- Two graph identifiers are read from their texts with a comma between these. -/
theorem graphIds?_eq_some_iff {cs : List Char} {start finish : Identifier} :
    graphIds? cs = some (start, finish) ↔ cs = start.text.toList ++ ',' :: finish.text.toList ∧
      IsGraphId start.text ∧ IsGraphId finish.text := by
  have hspan : cs = start.text.toList ++ ',' :: finish.text.toList → IsGraphId start.text →
      cs.takeWhile (· != ',') = start.text.toList ∧
        cs.dropWhile (· != ',') = ',' :: finish.text.toList :=
    fun hcs hstart => span_eq_iff.2 ⟨hcs,
      fun c hc => bne_iff_ne.2 (hstart.ne_of_mem (by decide) (by decide) c hc), stops_cons rfl _⟩
  unfold graphIds?
  split
  next second hsecond =>
    constructor
    · intro h
      obtain ⟨i, hi, h⟩ := Option.bind_eq_some_iff.1 h
      obtain ⟨j, hj, h⟩ := Option.bind_eq_some_iff.1 h
      cases h
      rw [graphId?_eq_some_iff] at hi hj
      refine ⟨?_, hi.2, hj.2⟩
      rw [← hi.1, ← hj.1, ← hsecond, List.takeWhile_append_dropWhile]
    · rintro ⟨hcs, hstart, hfinish⟩
      obtain ⟨hfront, hrest⟩ := hspan hcs hstart
      cases hsecond.symm.trans hrest
      rw [hfront, graphId?_eq_some_iff.2 ⟨rfl, hstart⟩, graphId?_eq_some_iff.2 ⟨rfl, hfinish⟩]
      rfl
  next hnone =>
    refine iff_of_false nofun ?_
    rintro ⟨hcs, hstart, -⟩
    exact hnone _ (hspan hcs hstart).2

/-- Properties stand in braces, whatever stands between these. -/
theorem braced?_eq_some_iff {cs : List Char} {s : String} :
    braced? cs = some s ↔ cs = s.toList ∧ IsBraced s := by
  unfold braced? IsBraced
  split
  next h =>
    rw [Option.some_inj]
    constructor
    · rintro rfl
      rw [String.toList_ofList]
      exact ⟨rfl, h⟩
    · rintro ⟨rfl, -⟩
      exact String.ofList_toList
  next h =>
    refine iff_of_false nofun ?_
    rintro ⟨rfl, hbraced⟩
    exact h hbraced

/-- The start of the text of an element: a label and an identifier in brackets. -/
def labelled? (cs : List Char) : Option (String × Identifier × List Char) := do
  let (label, rest) ← label? cs
  let (id, rest) ← bracketed? rest
  let id ← graphId? id
  some (label, id, rest)

theorem labelled?_eq_some_iff {cs rest : List Char} {label : String} {id : Identifier} :
    labelled? cs = some (label, id, rest) ↔
      cs = label.toList ++ '[' :: (id.text.toList ++ ']' :: rest) ∧ label ≠ "" ∧
        (∀ c ∈ label.toList, c ≠ '[' ∧ c ≠ ']') ∧ IsGraphId id.text := by
  constructor
  · intro h
    obtain ⟨⟨label, rest⟩, hlabel, h⟩ := Option.bind_eq_some_iff.1 h
    obtain ⟨⟨inner, rest⟩, hinner, h⟩ := Option.bind_eq_some_iff.1 h
    obtain ⟨id, hid, h⟩ := Option.bind_eq_some_iff.1 h
    cases h
    obtain ⟨hcs, hnonempty, hunbracketed, -⟩ := label?_eq_some_iff.1 hlabel
    obtain ⟨hrest, -⟩ := bracketed?_eq_some_iff.1 hinner
    obtain ⟨hid, hgraphId⟩ := graphId?_eq_some_iff.1 hid
    exact ⟨by rw [hcs, hrest, hid], hnonempty, hunbracketed, hgraphId⟩
  · rintro ⟨hcs, hnonempty, hunbracketed, hgraphId⟩
    have hlabel : label? cs = some (label, '[' :: (id.text.toList ++ ']' :: rest)) :=
      label?_eq_some_iff.2 ⟨hcs, hnonempty, hunbracketed, stops_cons rfl _⟩
    have hinner : bracketed? ('[' :: (id.text.toList ++ ']' :: rest)) =
        some (id.text.toList, rest) := bracketed?_eq_some_iff.2 ⟨rfl, hgraphId.unbracketed⟩
    have hid : graphId? id.text.toList = some id := graphId?_eq_some_iff.2 ⟨rfl, hgraphId⟩
    simp only [labelled?, bind, Option.bind_some, hlabel, hinner, hid]

/-! ## Vertices -/

/-- A vertex is taken apart into the parts that make its text. -/
theorem vertexParts?_eq_some_iff {cs : List Char} (hcs : Stops Text.isBlank cs)
    {label properties : String} {id : Identifier} :
    vertexParts? cs = some (label, id, properties) ↔
      cs = label.toList ++ '[' :: (id.text.toList ++ ']' :: properties.toList) ∧
        IsLabel label ∧ IsGraphId id.text ∧ IsBraced properties := by
  have hsteps : vertexParts? cs = (labelled? cs).bind fun (label, id, rest) =>
      (braced? rest).bind fun properties => some (label, id, properties) := by
    simp [vertexParts?, labelled?, Option.bind_assoc]
  constructor
  · intro h
    rw [hsteps] at h
    obtain ⟨⟨_, _, rest⟩, hlabelled, h⟩ := Option.bind_eq_some_iff.1 h
    obtain ⟨_, hbraced, h⟩ := Option.bind_eq_some_iff.1 h
    cases h
    obtain ⟨hstart, hnonempty, hunbracketed, hid⟩ := labelled?_eq_some_iff.1 hlabelled
    obtain ⟨hrest, hbraced⟩ := braced?_eq_some_iff.1 hbraced
    rw [hstart] at hcs
    exact ⟨by rw [hstart, hrest], ⟨hnonempty, hunbracketed, hcs.left⟩, hid, hbraced⟩
  · rintro ⟨htext, hlabel, hid, hbraced⟩
    have hlabelled : labelled? cs = some (label, id, properties.toList) :=
      labelled?_eq_some_iff.2 ⟨htext, hlabel.nonempty, hlabel.unbracketed, hid⟩
    have hproperties : braced? properties.toList = some properties :=
      braced?_eq_some_iff.2 ⟨rfl, hbraced⟩
    simp only [hsteps, hlabelled, hproperties, Option.bind_some]

/-- The parts of the text of a vertex. -/
structure VertexText where
  label : String
  id : String
  properties : String

namespace VertexText

/-- The parts put together. -/
def text (t : VertexText) : String := t.label ++ "[" ++ t.id ++ "]" ++ t.properties

/-- The parts say a vertex with these properties. -/
structure Says (t : VertexText) (said : PropertyMap) : Prop where
  label : IsLabel t.label
  id : IsGraphId t.id
  properties : IsObjectText t.properties said

/-- The vertex that the parts say. -/
def vertex (t : VertexText) (said : PropertyMap) : Vertex :=
  { id := some ⟨t.id⟩, labels := [t.label], properties := said }

theorem toList_text (t : VertexText) :
    t.text.toList = t.label.toList ++ '[' :: (t.id.toList ++ ']' :: t.properties.toList) := by
  simp [text]

end VertexText

theorem readProperties_eq_ok_iff {s : String} {properties : PropertyMap} :
    readProperties s = .ok properties ↔ Json.parse? s = some (Json.ofDict properties) := by
  rw [← Json.decode?_properties_iff]
  unfold readProperties
  cases Json.decode? Nested.source.properties? s <;> simp

/-- **Reading a vertex.**  A vertex is read from a text exactly if, without the blanks around it,
it is made of parts that say the vertex. -/
theorem readVertex_eq_ok_iff {s : String} {v : Vertex} :
    readVertex s = .ok v ↔ ∃ (t : VertexText) (said : PropertyMap), t.Says said ∧
      Text.trim s.toList = t.text.toList ∧ v = t.vertex said := by
  have htrim := Text.stops_isBlank_trim s.toList
  constructor
  · intro h
    unfold readVertex at h
    split at h
    next => cases h
    next label id properties hread =>
      obtain ⟨htext, hlabel, hid, hbraced⟩ := (vertexParts?_eq_some_iff htrim).1 hread
      obtain ⟨said, hsaid, h⟩ := bind_eq_ok_iff.1 h
      cases h
      refine ⟨⟨label, id.text, properties⟩, said,
        ⟨hlabel, hid, hbraced, readProperties_eq_ok_iff.1 hsaid⟩, ?_, rfl⟩
      rw [htext, VertexText.toList_text]
  · rintro ⟨t, said, hsays, htext, rfl⟩
    rw [VertexText.toList_text] at htext
    exact readVertex_of_parts ((vertexParts?_eq_some_iff htrim).2 ⟨htext, hsays.label, hsays.id,
      hsays.properties.braced⟩) (readProperties_eq_ok_iff.2 hsays.properties.meaning)

/-! ## Edges -/

/-- An edge is taken apart into the parts that make its text. -/
theorem edgeParts?_eq_some_iff {cs : List Char} (hcs : Stops Text.isBlank cs)
    {edgeType properties : String} {id start finish : Identifier} :
    edgeParts? cs = some (edgeType, id, (start, finish), properties) ↔
      cs = edgeType.toList ++ '[' :: (id.text.toList ++ ']' ::
        '[' :: ((start.text.toList ++ ',' :: finish.text.toList) ++ ']' :: properties.toList)) ∧
        IsLabel edgeType ∧ IsGraphId id.text ∧ IsGraphId start.text ∧ IsGraphId finish.text ∧
        IsBraced properties := by
  have hsteps : edgeParts? cs = (labelled? cs).bind fun (edgeType, id, rest) =>
      (bracketed? rest).bind fun (ends, rest) => (graphIds? ends).bind fun ends =>
        (braced? rest).bind fun properties => some (edgeType, id, ends, properties) := by
    simp [edgeParts?, labelled?, Option.bind_assoc]
  constructor
  · intro h
    rw [hsteps] at h
    obtain ⟨⟨_, _, rest⟩, hlabelled, h⟩ := Option.bind_eq_some_iff.1 h
    obtain ⟨⟨ends, after⟩, hends, h⟩ := Option.bind_eq_some_iff.1 h
    obtain ⟨_, hgraphIds, h⟩ := Option.bind_eq_some_iff.1 h
    obtain ⟨_, hbraced, h⟩ := Option.bind_eq_some_iff.1 h
    cases h
    obtain ⟨hfront, hnonempty, hunbracketed, hid⟩ := labelled?_eq_some_iff.1 hlabelled
    obtain ⟨hrest, -⟩ := bracketed?_eq_some_iff.1 hends
    obtain ⟨hends, hstart, hfinish⟩ := graphIds?_eq_some_iff.1 hgraphIds
    obtain ⟨hafter, hbraced⟩ := braced?_eq_some_iff.1 hbraced
    rw [hfront] at hcs
    exact ⟨by rw [hfront, hrest, hends, hafter], ⟨hnonempty, hunbracketed, hcs.left⟩, hid, hstart,
      hfinish, hbraced⟩
  · rintro ⟨htext, hlabel, hid, hstart, hfinish, hbraced⟩
    have hlabelled : labelled? cs = some (edgeType, id,
        '[' :: ((start.text.toList ++ ',' :: finish.text.toList) ++ ']' :: properties.toList)) :=
      labelled?_eq_some_iff.2 ⟨htext, hlabel.nonempty, hlabel.unbracketed, hid⟩
    have hunbracketed : ∀ c ∈ start.text.toList ++ ',' :: finish.text.toList,
        c ≠ '[' ∧ c ≠ ']' := by
      intro c hc
      rw [List.mem_append, List.mem_cons] at hc
      rcases hc with hc | rfl | hc
      · exact hstart.unbracketed c hc
      · decide
      · exact hfinish.unbracketed c hc
    have hends : bracketed? ('[' :: ((start.text.toList ++ ',' :: finish.text.toList) ++
          ']' :: properties.toList)) =
        some (start.text.toList ++ ',' :: finish.text.toList, properties.toList) :=
      bracketed?_eq_some_iff.2 ⟨rfl, hunbracketed⟩
    have hgraphIds : graphIds? (start.text.toList ++ ',' :: finish.text.toList) =
        some (start, finish) := graphIds?_eq_some_iff.2 ⟨rfl, hstart, hfinish⟩
    have hproperties : braced? properties.toList = some properties :=
      braced?_eq_some_iff.2 ⟨rfl, hbraced⟩
    simp only [hsteps, hlabelled, hends, hgraphIds, hproperties, Option.bind_some]

/-- The parts of the text of an edge. -/
structure EdgeText where
  edgeType : String
  id : String
  start : String
  finish : String
  properties : String

namespace EdgeText

/-- The parts put together. -/
def text (t : EdgeText) : String :=
  t.edgeType ++ "[" ++ t.id ++ "][" ++ t.start ++ "," ++ t.finish ++ "]" ++ t.properties

/-- The parts say an edge with these properties. -/
structure Says (t : EdgeText) (said : PropertyMap) : Prop where
  edgeType : IsLabel t.edgeType
  id : IsGraphId t.id
  start : IsGraphId t.start
  finish : IsGraphId t.finish
  properties : IsObjectText t.properties said

/-- The edge that the parts say. -/
def edge (t : EdgeText) (said : PropertyMap) : Edge where
  id := some ⟨t.id⟩
  edgeType := t.edgeType
  sourceId := some ⟨t.start⟩
  destinationId := some ⟨t.finish⟩
  properties := said

theorem toList_text (t : EdgeText) :
    t.text.toList = t.edgeType.toList ++ '[' :: (t.id.toList ++ ']' ::
      '[' :: ((t.start.toList ++ ',' :: t.finish.toList) ++ ']' :: t.properties.toList)) := by
  simp [text]

end EdgeText

/-- **Reading an edge.**  An edge is read from a text exactly if, without the blanks around it, it
is made of parts that say the edge. -/
theorem readEdge_eq_ok_iff {s : String} {e : Edge} :
    readEdge s = .ok e ↔ ∃ (t : EdgeText) (said : PropertyMap), t.Says said ∧
      Text.trim s.toList = t.text.toList ∧ e = t.edge said := by
  have htrim := Text.stops_isBlank_trim s.toList
  constructor
  · intro h
    unfold readEdge at h
    split at h
    next => cases h
    next edgeType id start finish properties hread =>
      obtain ⟨htext, hlabel, hid, hstart, hfinish, hbraced⟩ :=
        (edgeParts?_eq_some_iff htrim).1 hread
      obtain ⟨said, hsaid, h⟩ := bind_eq_ok_iff.1 h
      cases h
      refine ⟨⟨edgeType, id.text, start.text, finish.text, properties⟩, said,
        ⟨hlabel, hid, hstart, hfinish, hbraced, readProperties_eq_ok_iff.1 hsaid⟩, ?_, rfl⟩
      rw [htext, EdgeText.toList_text]
  · rintro ⟨t, said, hsays, htext, rfl⟩
    rw [EdgeText.toList_text] at htext
    exact readEdge_of_parts ((edgeParts?_eq_some_iff htrim).2 ⟨htext, hsays.edgeType, hsays.id,
      hsays.start, hsays.finish, hsays.properties.braced⟩)
      (readProperties_eq_ok_iff.2 hsays.properties.meaning)

/-! ## What a text says -/

theorem IsLabel.toList_ne_nil {s : String} (h : IsLabel s) : s.toList ≠ [] := fun hnil =>
  h.nonempty (String.toList_eq_nil_iff.1 hnil)

theorem IsBraced.toList_ne_nil {s : String} (h : IsBraced s) : s.toList ≠ [] := by
  intro hnil
  have hopened := h.1
  rw [hnil] at hopened
  cases hopened

/-- A text that starts with a label and ends with a brace is what remains of it with blanks
around. -/
theorem trim_eq_of_parts {label properties : String} {before after cs : List Char}
    (hlabel : IsLabel label) (hbraced : IsBraced properties) (middle : List Char)
    (hcs : cs = label.toList ++ (middle ++ properties.toList))
    (hbefore : ∀ c ∈ before, Text.isBlank c = true)
    (hafter : ∀ c ∈ after, Text.isBlank c = true) : Text.trim (before ++ cs ++ after) = cs := by
  have hbrace : Stops Text.isBlank properties.toList.reverse := by
    intro c hc
    rw [List.head?_reverse, hbraced.2] at hc
    cases hc
    decide
  have hne : properties.toList.reverse ≠ [] :=
    fun hnil => hbraced.toList_ne_nil (List.reverse_eq_nil_iff.1 hnil)
  subst hcs
  refine Text.trim_eq hbefore hafter ?_ (hlabel.start.append hlabel.toList_ne_nil _) ?_
  · exact List.append_ne_nil_of_left_ne_nil hlabel.toList_ne_nil _
  · rw [List.reverse_append, List.reverse_append, List.append_assoc]
    exact hbrace.append hne _

namespace VertexText

variable {t u : VertexText} {said said' : PropertyMap}

/-- A vertex is read from the text of its parts, with blanks around it. -/
theorem Says.readVertex_eq (h : t.Says said) {before after : String}
    (hbefore : ∀ c ∈ before.toList, Text.isBlank c = true)
    (hafter : ∀ c ∈ after.toList, Text.isBlank c = true) :
    readVertex (before ++ t.text ++ after) = .ok (t.vertex said) := by
  refine readVertex_eq_ok_iff.2 ⟨t, said, h, ?_, rfl⟩
  rw [String.toList_append, String.toList_append]
  refine trim_eq_of_parts h.label h.properties.braced ('[' :: (t.id.toList ++ [']'])) ?_ hbefore
    hafter
  simp [toList_text]

/-- The text of a vertex is made of its parts only, and says one vertex. -/
theorem Says.unique (ht : t.Says said) (hu : u.Says said') (htext : t.text = u.text) :
    t = u ∧ said = said' := by
  have hread : readVertex ("" ++ t.text ++ "") = .ok (t.vertex said) :=
    ht.readVertex_eq (by simp) (by simp)
  rw [htext, hu.readVertex_eq (by simp) (by simp)] at hread
  have hsame : u.vertex said' = t.vertex said := Except.ok.inj hread
  simp only [vertex, Vertex.mk.injEq, Option.some_inj, Identifier.mk.injEq, List.cons.injEq,
    and_true] at hsame
  obtain ⟨label, id, properties⟩ := t
  obtain ⟨label', id', properties'⟩ := u
  obtain ⟨rfl, rfl, rfl⟩ := hsame
  have hproperties : properties = properties' := (String.append_right_inj _).1 htext
  exact ⟨by rw [hproperties], rfl⟩

end VertexText

namespace EdgeText

variable {t u : EdgeText} {said said' : PropertyMap}

/-- An edge is read from the text of its parts, with blanks around it. -/
theorem Says.readEdge_eq (h : t.Says said) {before after : String}
    (hbefore : ∀ c ∈ before.toList, Text.isBlank c = true)
    (hafter : ∀ c ∈ after.toList, Text.isBlank c = true) :
    readEdge (before ++ t.text ++ after) = .ok (t.edge said) := by
  refine readEdge_eq_ok_iff.2 ⟨t, said, h, ?_, rfl⟩
  rw [String.toList_append, String.toList_append]
  refine trim_eq_of_parts h.edgeType h.properties.braced ('[' :: (t.id.toList ++ (']' :: '[' ::
    (t.start.toList ++ ',' :: (t.finish.toList ++ [']']))))) ?_ hbefore hafter
  simp [toList_text]

/-- The text of an edge is made of its parts only, and says one edge. -/
theorem Says.unique (ht : t.Says said) (hu : u.Says said') (htext : t.text = u.text) :
    t = u ∧ said = said' := by
  have hread : readEdge ("" ++ t.text ++ "") = .ok (t.edge said) :=
    ht.readEdge_eq (by simp) (by simp)
  rw [htext, hu.readEdge_eq (by simp) (by simp)] at hread
  have hsame : u.edge said' = t.edge said := Except.ok.inj hread
  simp only [edge, Edge.mk.injEq, Option.some_inj, Identifier.mk.injEq, true_and] at hsame
  obtain ⟨edgeType, id, start, finish, properties⟩ := t
  obtain ⟨edgeType', id', start', finish', properties'⟩ := u
  obtain ⟨rfl, rfl, rfl, rfl, rfl⟩ := hsame
  have hproperties : properties = properties' := (String.append_right_inj _).1 htext
  exact ⟨by rw [hproperties], rfl⟩

end EdgeText

/-- After its identifier, a vertex has its properties and an edge its endpoints. -/
theorem VertexText.Says.text_ne {t : VertexText} {u : EdgeText} {said said' : PropertyMap}
    (ht : t.Says said) (hu : u.Says said') : t.text ≠ u.text := by
  intro htext
  have hvertex : labelled? t.text.toList = some (t.label, ⟨t.id⟩, t.properties.toList) :=
    labelled?_eq_some_iff.2 ⟨t.toList_text, ht.label.nonempty, ht.label.unbracketed, ht.id⟩
  have hedge : labelled? u.text.toList = some (u.edgeType, ⟨u.id⟩,
      '[' :: ((u.start.toList ++ ',' :: u.finish.toList) ++ ']' :: u.properties.toList)) :=
    labelled?_eq_some_iff.2
      ⟨u.toList_text, hu.edgeType.nonempty, hu.edgeType.unbracketed, hu.id⟩
  rw [htext, hedge] at hvertex
  have hopened := ht.properties.braced.1
  rw [← (Prod.mk.inj (Prod.mk.inj (Option.some.inj hvertex)).2).2] at hopened
  exact absurd hopened (by simp)

/-- The text of a vertex and the text of an edge, with blanks around them, are read as exactly
what they say.  Whatever is read is such a text, which has one way to be taken apart, and no text
is read both as a vertex and as an edge. -/
theorem entityText_exact :
    (∀ (t : VertexText) (said : PropertyMap) (before after : String), t.Says said →
      (∀ c ∈ before.toList, Text.isBlank c = true) →
      (∀ c ∈ after.toList, Text.isBlank c = true) →
      readVertex (before ++ t.text ++ after) = .ok
        { id := some ⟨t.id⟩, labels := [t.label], properties := said }) ∧
    (∀ (t : EdgeText) (said : PropertyMap) (before after : String), t.Says said →
      (∀ c ∈ before.toList, Text.isBlank c = true) →
      (∀ c ∈ after.toList, Text.isBlank c = true) →
      readEdge (before ++ t.text ++ after) = .ok
        { id := some ⟨t.id⟩, edgeType := t.edgeType, sourceId := some ⟨t.start⟩
          destinationId := some ⟨t.finish⟩, properties := said }) ∧
    (∀ (s : String) (v : Vertex), readVertex s = .ok v →
      ∃ (t : VertexText) (said : PropertyMap), t.Says said ∧ Text.trim s.toList = t.text.toList ∧
        v = t.vertex said ∧ ∀ (u : VertexText) (said' : PropertyMap), u.Says said' →
          Text.trim s.toList = u.text.toList → u = t ∧ said' = said) ∧
    (∀ (s : String) (e : Edge), readEdge s = .ok e →
      ∃ (t : EdgeText) (said : PropertyMap), t.Says said ∧ Text.trim s.toList = t.text.toList ∧
        e = t.edge said ∧ ∀ (u : EdgeText) (said' : PropertyMap), u.Says said' →
          Text.trim s.toList = u.text.toList → u = t ∧ said' = said) ∧
    (∀ (s : String) (v : Vertex) (e : Edge), readVertex s = .ok v → readEdge s ≠ .ok e) := by
  refine ⟨fun t said before after h hbefore hafter => h.readVertex_eq hbefore hafter,
    fun t said before after h hbefore hafter => h.readEdge_eq hbefore hafter,
    fun s v h => ?_, fun s e h => ?_, fun s v e hv he => ?_⟩
  · obtain ⟨t, said, hsays, htext, hv⟩ := readVertex_eq_ok_iff.1 h
    refine ⟨t, said, hsays, htext, hv, fun u said' hu hutext => ?_⟩
    exact hu.unique hsays (String.toList_injective (hutext.symm.trans htext))
  · obtain ⟨t, said, hsays, htext, he⟩ := readEdge_eq_ok_iff.1 h
    refine ⟨t, said, hsays, htext, he, fun u said' hu hutext => ?_⟩
    exact hu.unique hsays (String.toList_injective (hutext.symm.trans htext))
  · obtain ⟨t, said, ht, htext, -⟩ := readVertex_eq_ok_iff.1 hv
    obtain ⟨u, said', hu, hutext, -⟩ := readEdge_eq_ok_iff.1 he
    exact ht.text_ne hu (String.toList_injective (htext.symm.trans hutext))

/-- The text of a person whose name looks like an identifier and a brace. -/
def personText : VertexText where
  label := "person"
  id := "3.1"
  properties := "\x7b\"name\": \"[3.2]\x7d\"\x7d"

theorem says_personText : personText.Says (Dict.ofList [("name", .string "[3.2]\x7d")]) where
  label := ⟨by decide, by simp [personText], stops_cons (by decide) _⟩
  id := by
    have hdigit : ∀ {c : Char}, Text.isDigit c = true → IsNumber [c] := fun hc =>
      ⟨List.cons_ne_nil _ _, List.forall_mem_singleton.2 hc⟩
    exact ⟨['3'], ['1'], by simp [personText], hdigit (by decide), hdigit (by decide)⟩
  properties := by
    have hdocument : Json.document? "\x7b\"name\": \"[3.2]\x7d\"\x7d" =
        some (.object [("name", .string "[3.2]\x7d")]) := by cbv
    refine ⟨⟨by simp [personText], by simp [personText]⟩, ?_⟩
    rw [personText, Json.parse?, hdocument]
    rfl

/-- That person is read, with a line break before the text and a blank after it. -/
theorem entityText_exact_person :
    readVertex ("\n" ++ personText.text ++ " ") = .ok
      { id := some ⟨"3.1"⟩
        labels := ["person"]
        properties := Dict.ofList [("name", .string "[3.2]\x7d")] } :=
  entityText_exact.1 personText _ "\n" " " says_personText
    (List.forall_mem_singleton.2 (by decide)) (List.forall_mem_singleton.2 (by decide))

end Agens
end PropertyGraph
