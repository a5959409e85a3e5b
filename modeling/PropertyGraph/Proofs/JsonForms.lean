import PropertyGraph.Config.Codec
import PropertyGraph.Proofs.DocumentReading

/-!
# JSON forms are read back

A vertex, an edge, a result or a configuration leaves out what is not set when it is written, and
fills in what is missing when it is read.  Each is read back from whatever shows its JSON form:
what one side leaves out is what the other fills in, field by field.  An edge is written with its
ends, which are vertices and follow the same rules.

> `jsonForm_readBack`: nothing is lost in the JSON form, as a value or as a text.

As a text it has to be carried (`Json.Carried`), which is certain without floating-point numbers and
without deep nesting (`Json.Exact.carried`).  A configuration has neither.
-/

namespace PropertyGraph

variable {τ : Type} {src : ValueSource τ} {R : τ → Json → Prop}

namespace Shows

variable (h : Shows src R)

include h

theorem readIdentifier {t : τ} {id : Identifier} (ht : R t id.toJson) :
    Identifier.read? src.toSource t = some id := by
  unfold Identifier.read?
  rw [h.text? ht, Option.map_some]

/-- A vertex is read from what shows its JSON form. -/
theorem readVertex {t : τ} {v : Vertex} (ht : R t v.toJson) : Vertex.read? src t = some v := by
  obtain ⟨part, hpart, hfields⟩ := h.struct? Vertex.fieldNames (by simp) ht
  simp only [List.forall_mem_cons] at hfields
  obtain ⟨hid, hlabels, hproperties, -⟩ := hfields
  have hid := h.optional? (fun _ _ => h.readIdentifier) (fun _ => rfl) hid
  have hlabels := Source.required?_of_shows hlabels fun _ => h.texts?
  have hproperties : Source.defaulted? ∅ src.properties? (part "properties") = some v.properties :=
    Source.defaulted?_of_shows hproperties fun _ => h.properties?
  simp only [Vertex.read?, hpart, hid, hlabels, hproperties, bind, Option.bind_some]

/-- An edge is read from what shows its JSON form. -/
theorem readEdge {t : τ} {e : Edge} (ht : R t e.toJson) : Edge.read? src t = some e := by
  obtain ⟨part, hpart, hfields⟩ := h.struct? Edge.fieldNames (by simp) ht
  simp only [List.forall_mem_cons] at hfields
  obtain ⟨hid, htype, hsourceId, hsource, hdestinationId, hdestination, hproperties, -⟩ := hfields
  have hid := h.optional? (fun _ _ => h.readIdentifier) (fun _ => rfl) hid
  have htype := Source.required?_of_shows htype fun _ => h.text?
  have hsourceId := h.optional? (fun _ _ => h.readIdentifier) (fun _ => rfl) hsourceId
  have hsource := h.optional? (fun _ _ => h.readVertex) (fun _ => rfl) hsource
  have hdestinationId := h.optional? (fun _ _ => h.readIdentifier) (fun _ => rfl) hdestinationId
  have hdestination := h.optional? (fun _ _ => h.readVertex) (fun _ => rfl) hdestination
  have hproperties : Source.defaulted? ∅ src.properties? (part "properties") = some e.properties :=
    Source.defaulted?_of_shows hproperties fun _ => h.properties?
  simp only [Edge.read?, hpart, hid, htype, hsourceId, hsource, hdestinationId, hdestination,
    hproperties, bind, Option.bind_some]

/-- A query result is read from what shows its JSON form. -/
theorem readResult {t : τ} {r : QueryResult} (ht : R t r.toJson) :
    QueryResult.read? src t = some r := by
  obtain ⟨part, hpart, hfields⟩ := h.struct? ["rows"] (by simp) ht
  simp only [List.forall_mem_cons] at hfields
  obtain ⟨hrows, -⟩ := hfields
  obtain ⟨rows, hgiven, hrows⟩ := Source.exists_of_shows hrows
  obtain ⟨ts, hitems, hall⟩ := h.items? hrows
  have hread : ts.mapM src.properties? = some r.rows := by
    rw [List.forall₂_map_right_iff] at hall
    exact mapM_eq_some_of_forall₂ (hall.imp fun _ _ => h.properties?)
  simp only [QueryResult.read?, hpart, hgiven, Source.required?, hitems, hread, bind,
    Option.bind_some]

theorem readNatural {t : τ} {bits n : Nat} (hn : n < 2 ^ bits) (ht : R t (.integer n)) :
    src.natural? bits t = some n := by
  rw [h.natural? bits ht, boundedNatural?, if_pos]
  · rfl
  · exact ⟨Int.natCast_nonneg n, by exact_mod_cast hn⟩

/-- One of several names is read as what it stands for. -/
theorem readChoice {α : Type} {t : τ} {choices : List (String × α)} {name : String} {x : α}
    (hname : choices.lookup name = some x) (ht : R t (.string name)) :
    src.oneOf? choices t = some x := by
  unfold Source.oneOf?
  rw [h.choice? ht, Option.bind_some, hname]

/-- A configuration is read from what shows its JSON form. -/
theorem readConfig {t : τ} {c : Config} (ht : R t c.toJson) :
    Config.read? src.toSource t = some c := by
  obtain ⟨part, hpart, hfields⟩ := h.struct? Config.fieldNames (by simp) ht
  simp only [List.forall_mem_cons] at hfields
  obtain ⟨htype, hprotocol, hhost, hport, husername, hpassword, hdatabase, hname, hmode, htimeout,
    hoptions, -⟩ := hfields
  have text {default s : String} {p : Part τ} (hp : Source.PartShows R p (some (.string s))) :
      Source.defaulted? default src.text? p = some s :=
    Source.defaulted?_of_shows hp fun _ => h.text?
  have text? {o : Option String} {p : Part τ} (hp : Source.PartShows R p (o.map .string)) :
      Source.defaulted? none (src.nullable? src.text?) p = some o :=
    h.defaulted?_nullable? (fun _ _ => h.text?) (fun _ => rfl) hp
  have hport : Source.defaulted? none (src.nullable? fun t =>
      (src.natural? 16 t).map UInt16.ofNat) (part "port") = some c.port := by
    refine h.defaulted?_nullable? (fun t p hp => ?_) (fun _ => rfl) hport
    rw [h.readNatural p.toNat_lt hp, Option.map_some, UInt16.ofNat_toNat]
  have hmode : Source.defaulted? WriteMode.merge (src.oneOf? WriteMode.names) (part "write_mode") =
      some c.writeMode := by
    refine Source.defaulted?_of_shows hmode fun _ => h.readChoice ?_
    cases c.writeMode <;> rfl
  have htimeout : Source.defaulted? 5 (fun t => (src.natural? 64 t).map UInt64.ofNat)
      (part "query_timeout_secs") = some c.queryTimeout := by
    refine Source.defaulted?_of_shows htimeout fun t hn => ?_
    rw [h.readNatural c.queryTimeout.toNat_lt hn, Option.map_some, UInt64.ofNat_toNat]
  have hoptions : Source.defaulted? ∅ (src.dict? src.text?) (part "options") =
      some c.options := by
    cases hempty : c.options.isEmpty with
    | true =>
      rw [hempty, if_pos rfl] at hoptions
      have hnone : c.options = ∅ := Dict.ext (List.isEmpty_iff.1 hempty)
      rw [hnone]
      exact Source.defaulted?_of_none ∅ _ hoptions
    | false =>
      rw [hempty, if_neg Bool.false_ne_true] at hoptions
      exact Source.defaulted?_of_shows hoptions fun _ => h.dict? fun _ _ => h.text?
  simp only [Config.read?, hpart, text htype, text hprotocol, text hhost, hport, text? husername,
    text? hpassword, text? hdatabase, text? hname, hmode, htimeout, hoptions, bind,
    Option.bind_some]

end Shows

namespace Json

open Document (maxDepth)

theorem Exact.struct {room : Nat} {fields : List (String × Option Json)}
    (h : ∀ f ∈ fields, ∀ v, f.2 = some v → Exact room v) :
    Exact (room + 1) (Json.struct fields) := by
  refine .object (Dict.collect_ascending _) fun m hm => ?_
  have hfield : (m.1, some m.2) ∈ fields := mem_present_iff.1 (Dict.mem_of_mem_ofList hm)
  exact h _ hfield m.2 rfl

theorem Exact.natural {room bits n : Nat} (hbits : bits ≤ 64) (hn : n < 2 ^ bits) :
    Exact room (.integer n) := by
  have hle : 2 ^ bits ≤ 2 ^ 64 := Nat.pow_le_pow_right (by decide) hbits
  exact .integer (by omega) (by exact_mod_cast hn.trans_le hle)

/-- A field that may be left out. -/
theorem Exact.optional {room : Nat} {α : Type} {write : α → Json} {o : Option α}
    (h : ∀ x, o = some x → Exact room (write x)) :
    ∀ v, o.map write = some v → Exact room v := by
  intro v hv
  obtain ⟨x, hx, rfl⟩ := Option.map_eq_some_iff.1 hv
  exact h x hx

/-- A field that is always written. -/
theorem Exact.required {room : Nat} {w : Json} (h : Exact room w) :
    ∀ v, some w = some v → Exact room v := by
  rintro v ⟨rfl⟩
  exact h

theorem Exact.ofDict {room : Nat} {d : PropertyMap} (h : ∀ m ∈ d.entries, Exact room m.2) :
    Exact (room + 1) (Json.ofDict d) := .object d.ascending h

/-- A vertex adds two levels to the values of its properties. -/
theorem Exact.vertex {room : Nat} {v : Vertex} (h : ∀ m ∈ v.properties.entries, Exact room m.2) :
    Exact (room + 2) v.toJson := by
  have hlabels : Exact (room + 1) (Json.texts v.labels) := by
    refine .array fun label hlabel => ?_
    obtain ⟨s, -, rfl⟩ := List.mem_map.1 hlabel
    exact .string s
  refine .struct ?_
  simp only [List.forall_mem_cons]
  exact ⟨.optional fun id _ => .string id.text, .required hlabels, .required (.ofDict h),
    fun f hf => (List.not_mem_nil hf).elim⟩

/-- An edge adds a level to its ends, and two to the values of its properties. -/
theorem Exact.edge {room : Nat} {e : Edge}
    (hsource : ∀ v, e.source = some v → Exact (room + 1) v.toJson)
    (hdestination : ∀ v, e.destination = some v → Exact (room + 1) v.toJson)
    (h : ∀ m ∈ e.properties.entries, Exact room m.2) : Exact (room + 2) e.toJson := by
  refine .struct ?_
  simp only [List.forall_mem_cons]
  exact ⟨.optional fun id _ => .string id.text, .required (.string _),
    .optional fun id _ => .string id.text, .optional hsource,
    .optional fun id _ => .string id.text, .optional hdestination, .required (.ofDict h),
    fun f hf => (List.not_mem_nil hf).elim⟩

/-- Configurations hold texts and small numbers only, so that their text is certain to be read. -/
theorem Exact.config (c : Config) : Exact maxDepth c.toJson := by
  have hoptions : ∀ v, (if c.options.isEmpty then none
      else some (Json.ofDict (c.options.map .string))) = some v → Exact 126 v := by
    split
    · exact fun v hv => nomatch hv
    · refine .required (.ofDict fun m hm => ?_)
      obtain ⟨e, -, rfl⟩ := List.mem_map.1 hm
      exact .string e.2
  refine .struct ?_
  simp only [List.forall_mem_cons]
  exact ⟨.required (.string _), .required (.string _), .required (.string _),
    .optional fun p _ => .natural (by decide) p.toNat_lt, .optional fun s _ => .string s,
    .optional fun s _ => .string s, .optional fun s _ => .string s, .optional fun s _ => .string s,
    .required (.string _), .required (.natural le_rfl c.queryTimeout.toNat_lt), hoptions,
    fun f hf => (List.not_mem_nil hf).elim⟩

end Json

open Nested (decode?_text shows_document)

/-- **JSON forms.**  Every vertex, edge, result and configuration is read back from its JSON form,
whatever is set in it, and so it is from the text of this form if the text carries it.  The text of
a configuration always does. -/
theorem jsonForm_readBack :
    (∀ v : Vertex, Vertex.read? Json.source v.toJson = some v ∧
      (v.toJson.Carried → Json.decode? (Vertex.read? Nested.source) v.toJson.text = some v)) ∧
    (∀ e : Edge, Edge.read? Json.source e.toJson = some e ∧
      (e.toJson.Carried → Json.decode? (Edge.read? Nested.source) e.toJson.text = some e)) ∧
    (∀ r : QueryResult, QueryResult.read? Json.source r.toJson = some r ∧
      (r.toJson.Carried → Json.decode? (QueryResult.read? Nested.source) r.toJson.text = some r)) ∧
    (∀ c : Config, Config.read? Json.source.toSource c.toJson = some c ∧
      Json.decode? (Config.read? Nested.source.toSource) c.toJson.text = some c) := by
  refine ⟨fun v => ⟨?_, fun h => ?_⟩, fun e => ⟨?_, fun h => ?_⟩, fun r => ⟨?_, fun h => ?_⟩,
    fun c => ⟨?_, ?_⟩⟩
  · exact shows_value.readVertex rfl
  · exact decode?_text h fun _ => shows_document.readVertex
  · exact shows_value.readEdge rfl
  · exact decode?_text h fun _ => shows_document.readEdge
  · exact shows_value.readResult rfl
  · exact decode?_text h fun _ => shows_document.readResult
  · exact shows_value.readConfig rfl
  · exact decode?_text (Json.Exact.config c).carried fun _ => shows_document.readConfig

/-- An acquaintance of which one end is known and the other one only identified. -/
def halfKnown : Edge where
  edgeType := "knows"
  source := some {
    labels := ["person"]
    properties := Dict.ofList [("tags", .array [.string "a", .null])] }
  destinationId := some ⟨"3.2"⟩
  properties := Dict.ofList [("since", .integer 2020)]

theorem exact_halfKnown : Json.Exact Document.maxDepth halfKnown.toJson := by
  refine .edge ?_ (fun v hv => nomatch hv)
    (List.forall_mem_singleton.2 (.integer (by decide) (by decide)))
  rintro v ⟨rfl⟩
  refine .vertex (List.forall_mem_singleton.2 (.array ?_))
  simp only [List.forall_mem_cons]
  exact ⟨.string "a", .null, fun v hv => (List.not_mem_nil hv).elim⟩

/-- This acquaintance is read back from its text. -/
theorem jsonForm_readBack_halfKnown : halfKnown.toJson.Carried ∧
    Json.decode? (Edge.read? Nested.source) halfKnown.toJson.text = some halfKnown :=
  have hcarried := exact_halfKnown.carried
  ⟨hcarried, (jsonForm_readBack.2.1 halfKnown).2 hcarried⟩

end PropertyGraph
