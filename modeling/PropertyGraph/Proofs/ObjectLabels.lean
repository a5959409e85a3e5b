import PropertyGraph.Proofs.DecodingOrder
import PropertyGraph.Proofs.RecordedCalls
import PropertyGraph.Proofs.RelationReading

/-!
# Labels of objects

An object is written under its label, and under the name of its type if the label is empty.  It
is asked for under its label, whatever that is.  The two agree for an object that is written
under its own label (`OwnLabel`), and for no other: an object with an empty label can be stored,
and is then asked for under a label that nothing has.

> Main result (`read_label_iff`): what is asked for has the label that was written exactly if the
> object is written under its own, for vertices, for relationships and for both ends of these.
-/

namespace PropertyGraph

variable {σ α β γ : Type}

namespace ObjectType

/-- The label under which an object is written is its own: it is not empty, or the name of the
type is empty too. -/
def OwnLabel (t : ObjectType α) (x : α) : Prop :=
  t.label x ≠ "" ∨ ∃ shape, t.shape? = some shape ∧ shape.name = ""

variable {t : ObjectType α} {x : α}

/-- An object that has properties has a type with a shape. -/
theorem shape?_of_toProperties {s : Shape} {properties : PropertyMap}
    (h : t.toProperties x = .ok (s, properties)) : t.shape? = some s := by
  simp only [RecordType.toProperties, bind_eq_ok_iff] at h
  obtain ⟨shape, hshape, fields, -, hproperties⟩ := h
  cases hproperties
  exact (t.checkedShape_eq_ok_iff.1 hshape).1

theorem ownLabel_iff {s : Shape} (hshape : t.shape? = some s) :
    t.OwnLabel x ↔ t.label x ≠ "" ∨ s.name = "" := by
  simp [OwnLabel, hshape]

/-- A vertex carries the label of its object if that is its own. -/
theorem labels_vertexOf_iff {v : Vertex} (h : t.vertexOf x = .ok v) :
    v.labels = [t.label x] ↔ t.OwnLabel x := by
  obtain ⟨w, hw, rfl⟩ := vertexOf_eq_ok h
  simp only [RecordType.toVertex, bind_eq_ok_iff] at hw
  obtain ⟨⟨s, properties⟩, hproperties, hmade⟩ := hw
  cases hmade
  rw [ownLabel_iff (shape?_of_toProperties hproperties)]
  by_cases hlabel : t.label x = ""
  · simp [Vertex.withProperties, RecordType.vertexLabels, hlabel]
  · simp [Vertex.withProperties, RecordType.vertexLabels, hlabel]

/-- An edge has the label of its object for a type if that is its own. -/
theorem edgeType_edgeOf_iff {e : Edge} (h : t.edgeOf x = .ok e) :
    e.edgeType = t.label x ↔ t.OwnLabel x := by
  obtain ⟨bare, hbare, rfl⟩ := edgeOf_eq_ok h
  simp only [RecordType.toEdge, bind_eq_ok_iff] at hbare
  obtain ⟨⟨s, properties⟩, hproperties, hmade⟩ := hbare
  cases hmade
  rw [ownLabel_iff (shape?_of_toProperties hproperties)]
  by_cases hlabel : t.label x = ""
  · simp [Edge.withProperties, RecordType.edgeLabel, hlabel]
  · simp [Edge.withProperties, RecordType.edgeLabel, hlabel]

end ObjectType

namespace Store

/-! ## Requests -/

section Requests

variable {ts : ObjectType α} {tr : ObjectType β} {td : ObjectType γ} {relation : Relation α β γ}

/-- An edge that is to be stored was made of three parts, which are of the right kinds. -/
theorem relationRequest_eq_edge {e : Edge}
    (h : relationRequest ts tr td relation = .ok (.edge e)) :
    ∃ x r y v w bare, relation = ⟨some x, some r, some y⟩ ∧
      ts.expectKind x .vertex "source" = .ok () ∧
      tr.expectKind r .relationship "relationship" = .ok () ∧
      td.expectKind y .vertex "destination" = .ok () ∧
      ts.vertexOf x = .ok v ∧ tr.edgeOf r = .ok bare ∧ td.vertexOf y = .ok w ∧
      e = (bare.withSource v).withDestination w := by
  obtain ⟨source, relationship, destination⟩ := relation
  match source, relationship, destination with
  | none, _, _ => cases h
  | some x, none, none => simp [relationRequest, bind_eq_ok_iff, pure, Except.pure] at h
  | some x, none, some y => simp [relationRequest, bind_eq_ok_iff] at h
  | some x, some r, none => simp [relationRequest, bind_eq_ok_iff] at h
  | some x, some r, some y =>
    simp only [relationRequest, bind_eq_ok_iff, pure, Except.pure] at h
    obtain ⟨_, hx, _, hr, _, hy, v, hv, w, hw, bare, hbare, he⟩ := h
    cases he
    exact ⟨x, r, y, v, w, bare, rfl, hx, hr, hy, hv, hbare, hw, rfl⟩

/-- Parts that can be stored can be asked for, under their labels. -/
theorem exists_edgeRequest {x : α} {r : β} {y : γ} {v w : Vertex} {bare : Edge}
    (hx : ts.expectKind x .vertex "source" = .ok ())
    (hr : tr.expectKind r .relationship "relationship" = .ok ())
    (hy : td.expectKind y .vertex "destination" = .ok ())
    (hv : ts.vertexOf x = .ok v) (hbare : tr.edgeOf r = .ok bare) (hw : td.vertexOf y = .ok w) :
    ∃ request, edgeRequest ts tr td ⟨some x, some r, some y⟩ = .ok request ∧
      request.label = tr.label r ∧ request.startLabels = [ts.label x] ∧
      request.endLabels = [td.label y] := by
  refine ⟨{
    label := tr.label r
    startLabels := [ts.label x]
    endLabels := [td.label y]
    startSelectors := v.properties
    endSelectors := w.properties
    selectors := bare.properties
    fetchMode := .completeVertex }, ?_, rfl, rfl, rfl⟩
  simp only [edgeRequest, ObjectType.vertexSelectors, ObjectType.edgeSelectors, hx, hr, hy, hv,
    hbare, hw, bind, Except.bind, pure, Except.pure]

/-- A vertex that can be stored can be asked for. -/
theorem exampleRequest_of_vertexRequest {t : ObjectType α} {x : α} {v : Vertex}
    (h : vertexRequest t x = .ok v) :
    exampleRequest t x = .ok v.properties ∧ t.vertexOf x = .ok v := by
  simp only [vertexRequest, bind_eq_ok_iff] at h
  obtain ⟨_, hkind, hv⟩ := h
  refine ⟨?_, hv⟩
  simp only [exampleRequest, ObjectType.vertexSelectors, hkind, hv, bind, Except.bind]

end Requests

/-- A call that was made tells the request that it was made for. -/
theorem eq_ok_of_requestsOf {δ κ : Type} {made : δ → κ} {request : Except GraphError δ} {call : κ}
    (h : requestsOf (fun r => [made r]) request = [call]) :
    ∃ r, request = .ok r ∧ made r = call := by
  cases request with
  | error e => cases h
  | ok r => exact ⟨r, rfl, List.singleton_inj.1 h⟩

/-- **Objects are asked for as they are written, if under their own label.**  On any connection,
whatever it answers: when an object is stored as a vertex, a read of the same object asks for the
vertices with the object's label, and the stored vertex carries it exactly if the object is
written under its own label.  When a relation is stored as an edge, a read of the same relation
asks for the edges of a type between vertices with a label at either end, and each of these three
is that of the stored edge exactly if its part is written under its own label. -/
theorem read_label_iff (c : Connection σ) (s s' : σ) :
    (∀ (t : ObjectType α) (x : α) (v : Vertex),
      callsMade (persistVertex c.recorded t x) s = [.storeVertex v] →
      callsMade (readVertex c.recorded t x) s' = [.queryVertex (t.label x) v.properties ∅ ∅] ∧
        (v.labels = [t.label x] ↔ t.OwnLabel x)) ∧
    ∀ (ts : ObjectType α) (tr : ObjectType β) (td : ObjectType γ) (relation : Relation α β γ)
      (e : Edge), callsMade (persistRelation c.recorded ts tr td relation) s = [.storeEdge e] →
      ∃ x r y v w request, relation = ⟨some x, some r, some y⟩ ∧
        e.source = some v ∧ e.destination = some w ∧
        callsMade (readRelation c.recorded ts tr td relation) s' = [.queryEdge request] ∧
        (request.label = e.edgeType ↔ tr.OwnLabel r) ∧
        (request.startLabels = v.labels ↔ ts.OwnLabel x) ∧
        (request.endLabels = w.labels ↔ td.OwnLabel y) := by
  constructor
  · intro t x v hstored
    rw [callsMade_persistVertex] at hstored
    obtain ⟨_, hrequest, hcall⟩ := eq_ok_of_requestsOf hstored
    cases hcall
    obtain ⟨hexample, hvertex⟩ := exampleRequest_of_vertexRequest hrequest
    rw [callsMade_readVertex, hexample]
    exact ⟨rfl, ObjectType.labels_vertexOf_iff hvertex⟩
  · intro ts tr td relation e hstored
    rw [callsMade_persistRelation] at hstored
    obtain ⟨request, hrequest, hcall⟩ := eq_ok_of_requestsOf hstored
    cases request with
    | vertex v => cases hcall
    | edge e' =>
      cases hcall
      obtain ⟨x, r, y, v, w, bare, rfl, hx, hr, hy, hv, hbare, hw, rfl⟩ :=
        relationRequest_eq_edge hrequest
      obtain ⟨asked, hasked, hlabel, hstart, hend⟩ := exists_edgeRequest hx hr hy hv hbare hw
      refine ⟨x, r, y, v, w, asked, rfl, rfl, rfl, ?_, ?_, ?_, ?_⟩
      · rw [callsMade_readRelation, hasked, requestsOf]
      · rw [hlabel, eq_comm]
        show bare.edgeType = tr.label r ↔ tr.OwnLabel r
        exact ObjectType.edgeType_edgeOf_iff hbare
      · rw [hstart, eq_comm]
        exact ObjectType.labels_vertexOf_iff hv
      · rw [hend, eq_comm]
        exact ObjectType.labels_vertexOf_iff hw

end Store

/-! ## Notes -/

/-- Notes, which choose their label themselves. -/
def Sample.note : ObjectType (String × String) where
  typeName := "Note"
  shape? := some ⟨"Note", ["text"]⟩
  encode n := .ok (.object [("text", .string n.2)])
  decode d :=
    match d.get? "text" with
    | some (.string text) => .ok ("", text)
    | _ => .error "no note"
  initial := ("", "")
  label n := n.1
  kind _ := .vertex

/-- The properties of a note. -/
def noteProperties (text : String) : PropertyMap := Dict.ofList [("text", .string text)]

namespace Store

open Embedded.Session (connection)

/-- A note with a label is asked for as it was written, and so is the relation of a note to another
one. -/
theorem read_label_notes :
    let milk : Vertex := ⟨none, ["Memo"], noteProperties "milk"⟩
    let relation : Relation (String × String) (Option Int) (String × String) :=
      ⟨some ("Memo", "milk"), some none, some ("List", "tea")⟩
    (callsMade (persistVertex connection.recorded Sample.note ("Memo", "milk")) {} =
        [.storeVertex milk] ∧
      callsMade (readVertex connection.recorded Sample.note ("Memo", "milk")) {} =
        [.queryVertex "Memo" (noteProperties "milk") ∅ ∅] ∧ milk.labels = ["Memo"]) ∧
    ∃ e request,
      callsMade (persistRelation connection.recorded Sample.note Sample.knows Sample.note
        relation) {} = [.storeEdge e] ∧
      callsMade (readRelation connection.recorded Sample.note Sample.knows Sample.note
        relation) {} = [.queryEdge request] ∧
      request.label = e.edgeType := by
  intro milk relation
  obtain ⟨hvertex, hedge⟩ := read_label_iff connection {} {}
  have hmilk : callsMade (persistVertex connection.recorded Sample.note ("Memo", "milk")) {} =
      [.storeVertex milk] := rfl
  obtain ⟨hread, hlabels⟩ := hvertex Sample.note ("Memo", "milk") milk hmilk
  refine ⟨⟨hmilk, hread, hlabels.2 (Or.inl (by decide))⟩, ?_⟩
  obtain ⟨x, r, y, v, w, request, hparts, -, -, hasked, htype, -⟩ :=
    hedge Sample.note Sample.knows Sample.note relation _ rfl
  exact ⟨_, request, rfl, hasked, htype.2 (Or.inl (show "KNOWS" ≠ "" by decide))⟩

/-- A note without a label is stored under the name of its type and asked for without a label,
which the graph that has just stored it refuses. -/
theorem read_label_unlabelled :
    callsMade (persistVertex connection.recorded Sample.note ("", "milk")) {} =
        [.storeVertex ⟨none, ["Note"], noteProperties "milk"⟩] ∧
      callsMade (readVertex connection.recorded Sample.note ("", "milk")) {} =
        [.queryVertex "" (noteProperties "milk") ∅ ∅] ∧
      (readVertex connection Sample.note ("", "milk")
        (persistVertex connection Sample.note ("", "milk") {}).2).1 =
          .error (.validation .missingLabel "vertex label is required") :=
  ⟨rfl, rfl, rfl⟩

end Store
end PropertyGraph
