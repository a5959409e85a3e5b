import PropertyGraph.Proofs.ObjectLabels
import PropertyGraph.Proofs.RecordedCalls

/-!
# Checks before calls

The store of objects asks a database for something only after everything that can be wrong with
the objects has been looked at: which parts of a relation are given, of which kinds they are, and
whether they can be mapped to properties.  The checks are listed here in their order, one list for
each operation.  A request is made if all of them pass, and the first one that fails tells why not
(`vertexRequest_checks` and its siblings).

> Main result (`operations_checkFirst`): each operation makes at most one call, and none exactly
> if a check fails; the call carries what the parts say, and if it fails, so does the operation,
> in the same way.

So nothing is written for a relation of which some part is refused.  What the parts say is
`Carries`: their fields with a value, under their keys, so far as each has a key of its own.  Where
it has not, a value can be missing from the call (`calls_withoutName`).
-/

namespace PropertyGraph

variable {σ α β γ δ ρ : Type}

/-! ## Checks in their order -/

/-- Checks that are made one after the other, up to the first failure. -/
def passAll (checks : List (Except GraphError Unit)) : Except GraphError Unit := forM checks id

/-- The first of several checks that fails. -/
def FirstFailure (checks : List (Except GraphError Unit)) (e : GraphError) : Prop :=
  ∃ before after, checks = before ++ .error e :: after ∧ ∀ check ∈ before, check = .ok ()

theorem firstFailure_cons_ok {rest : List (Except GraphError Unit)} {e : GraphError} :
    FirstFailure (.ok () :: rest) e ↔ FirstFailure rest e := by
  constructor
  · rintro ⟨before, after, heq, hbefore⟩
    cases before with
    | nil => cases heq
    | cons check before =>
      obtain ⟨-, rfl⟩ := List.cons.inj heq
      exact ⟨before, after, rfl, (List.forall_mem_cons.1 hbefore).2⟩
  · rintro ⟨before, after, rfl, hbefore⟩
    exact ⟨.ok () :: before, after, rfl, List.forall_mem_cons.2 ⟨rfl, hbefore⟩⟩

theorem firstFailure_cons_error {rest : List (Except GraphError Unit)} {d e : GraphError} :
    FirstFailure (.error d :: rest) e ↔ d = e := by
  constructor
  · rintro ⟨before, after, heq, hbefore⟩
    cases before with
    | nil => exact Except.error.inj (List.cons.inj heq).1
    | cons check before =>
      obtain ⟨rfl, -⟩ := List.cons.inj heq
      cases (List.forall_mem_cons.1 hbefore).1
  · rintro rfl
    exact ⟨[], rest, rfl, fun check hcheck => (List.not_mem_nil hcheck).elim⟩

/-- Checks that are made one after the other end with the first one that fails. -/
theorem passAll_eq_error_iff {checks : List (Except GraphError Unit)} {e : GraphError} :
    passAll checks = .error e ↔ FirstFailure checks e := by
  induction checks with
  | nil =>
    refine iff_of_false (fun h => nomatch h) ?_
    rintro ⟨before, after, heq, -⟩
    exact List.append_ne_nil_of_right_ne_nil before (List.cons_ne_nil _ after) heq.symm
  | cons check rest ih =>
    rw [passAll, List.forM_cons]
    cases check with
    | error d =>
      rw [firstFailure_cons_error]
      exact ⟨fun h => Except.error.inj h, fun h => congrArg Except.error h⟩
    | ok u => exact ih.trans firstFailure_cons_ok.symm

/-- They get to the end if none fails. -/
theorem passAll_eq_ok_iff {checks : List (Except GraphError Unit)} :
    passAll checks = .ok () ↔ ∀ check ∈ checks, check = .ok () := by
  induction checks with
  | nil => exact iff_of_true rfl fun check hcheck => (List.not_mem_nil hcheck).elim
  | cons check rest ih =>
    rw [passAll, List.forM_cons, List.forall_mem_cons]
    cases check with
    | error d => exact iff_of_false (fun h => nomatch h) fun h => nomatch h.1
    | ok u => exact ih.trans (and_iff_right rfl).symm

/-- A check of a part that may be left open. -/
def ifGiven (check : α → Except GraphError Unit) : Option α → List (Except GraphError Unit)
  | none => []
  | some x => [check x]

/-! ## Calls -/

/-- What is answered to a call, without what it brings, and the state that the call leaves. -/
def Connection.answer (c : Connection σ) (s : σ) : Call → Except GraphError Unit × σ
  | .queryVertex label selectors filters params =>
    let (found, s) := c.queryVertex label selectors filters params s
    (found.map fun _ => (), s)
  | .queryEdge request =>
    let (found, s) := c.queryEdge request s
    (found.map fun _ => (), s)
  | .executeQuery text mode params =>
    let (found, s) := c.executeQuery text mode params s
    (found.map fun _ => (), s)
  | .storeVertex v =>
    let (stored, s) := c.storeVertex v s
    (stored.outcome, s)
  | .storeEdge e =>
    let (stored, s) := c.storeEdge e s
    (stored.outcome, s)
  | .close => c.close s

/-- An operation that checks before it calls: its calls and its reply, at a state of a database. -/
structure ChecksFirst (c : Connection σ) (s : σ) (checks : List (Except GraphError Unit))
    (Asks : Call → Prop) (calls : List Call) (reply : Reply σ δ) : Prop where
  atMostOne : calls.length ≤ 1
  none_iff : calls = [] ↔ ∃ check ∈ checks, check ≠ .ok ()
  /-- The first failure is the answer, and nothing has happened. -/
  refused : ∀ e, FirstFailure checks e → reply = (.error e, s)
  asks : ∀ call ∈ calls, Asks call
  /-- A call that fails is answered in the same way. -/
  failed : ∀ call ∈ calls, ∀ e, (c.answer s call).1 = .error e →
    reply = (.error e, (c.answer s call).2)

/-! ## What objects say -/

namespace ObjectType

variable (t : ObjectType α) (x : α)

/-- The fields that an object is encoded with. -/
def encoded : Dict Json :=
  match t.encode x with
  | .ok (.object members) => Dict.ofList members
  | _ => ∅

/-- Whether an object can be mapped to properties. -/
def mapping : Except GraphError Unit := (t.toProperties x).map fun _ => ()

/-- Properties hold what an object says: the fields with a value, under their keys.  That takes
fields of which no two have one key; only an object that encodes fields which its type does not
declare can lack them. -/
structure Carries (properties : PropertyMap) : Prop where
  get?_iff : t.KeyedApart (t.encoded x) → ∀ key value,
    properties.get? key = some value ↔ value.isNull = false ∧
      ∃ field, (t.encoded x).get? field = some value ∧ propertyKey t.tags field = key
  apart : ∀ s, t.shape? = some s → (∀ field, (t.encoded x).contains field → field ∈ s.fields) →
    t.KeyedApart (t.encoded x)

/-- Mapped properties are the encoded fields under their keys, of a type with accepted tags. -/
theorem toProperties_eq_keyed {t : ObjectType α} {x : α} {s : Shape} {properties : PropertyMap}
    (h : t.toProperties x = .ok (s, properties)) :
    t.checkedShape = .ok s ∧ properties = t.keyed (t.encoded x) := by
  simp only [RecordType.toProperties, bind_eq_ok_iff] at h
  obtain ⟨shape, hshape, fields, hfields, hmade⟩ := h
  obtain ⟨rfl, rfl⟩ := Prod.mk.inj (Except.ok.inj hmade)
  refine ⟨hshape, ?_⟩
  unfold RecordType.fieldsOf at hfields
  unfold encoded
  split at hfields
  · cases hfields
  · next members hencode =>
    rw [hencode, ← Except.ok.inj hfields]
  · cases hfields

/-- The properties that an object is mapped to, without the nulls, are what it says. -/
theorem carries_nonNull {t : ObjectType α} {x : α} {s : Shape} {properties : PropertyMap}
    (h : t.toProperties x = .ok (s, properties)) : t.Carries x (nonNull properties) := by
  obtain ⟨hshape, rfl⟩ := toProperties_eq_keyed h
  obtain ⟨hs, accepted⟩ := t.checkedShape_eq_ok_iff.1 hshape
  refine ⟨fun apart key value => ?_, fun s' hs' declared => ?_⟩
  · rw [get?_nonNull, t.get?_keyed_of_apart apart, and_comm]
  · obtain rfl := Option.some.inj (hs.symm.trans hs')
    exact t.keyedApart_of_declared accepted declared

/-- What is made of an object's properties carries what it says. -/
theorem exists_carries {t : ObjectType α} {x : α} {form : Shape × PropertyMap → δ}
    {used : Except GraphError δ} (hused : used = (t.toProperties x).map form) {d : δ}
    (h : used = .ok d) : ∃ p, t.Carries x (nonNull p.2) ∧ d = form p := by
  rw [hused] at h
  cases hp : t.toProperties x with
  | error e => rw [hp] at h; cases h
  | ok p =>
    rw [hp] at h
    exact ⟨p, carries_nonNull hp, (Except.ok.inj h).symm⟩

/-- Every form in which an object is used is made from its properties. -/
theorem vertexOf_eq : t.vertexOf x = (t.toProperties x).map fun p => {
    labels := RecordType.vertexLabels [t.label x] p.1.name
    properties := nonNull p.2 } := by
  unfold vertexOf RecordType.toVertex
  cases t.toProperties x <;> rfl

@[inherit_doc vertexOf_eq]
theorem edgeOf_eq : t.edgeOf x = (t.toProperties x).map fun p => {
    edgeType := RecordType.edgeLabel (some (t.label x)) p.1.name
    properties := nonNull p.2 } := by
  unfold edgeOf RecordType.toEdge
  cases t.toProperties x <;> rfl

@[inherit_doc vertexOf_eq]
theorem vertexSelectors_eq : t.vertexSelectors x = (t.toProperties x).map fun p => nonNull p.2 := by
  unfold vertexSelectors
  rw [vertexOf_eq]
  cases t.toProperties x <;> rfl

@[inherit_doc vertexOf_eq]
theorem edgeSelectors_eq : t.edgeSelectors x = (t.toProperties x).map fun p => nonNull p.2 := by
  unfold edgeSelectors
  rw [edgeOf_eq]
  cases t.toProperties x <;> rfl

end ObjectType

/-- People whose name goes by the key of a title, which they write as well but do not declare. -/
def Sample.titled : ObjectType String where
  typeName := "Person"
  shape? := some ⟨"Person", ["name"]⟩
  tags := [⟨"name", "title"⟩]
  encode name := .ok (.object [("name", .string name), ("title", .null)])
  decode fields :=
    match fields.get? "name" with
    | some (.string name) => .ok name
    | _ => .error "no person"
  initial := ""
  label _ := "Person"
  kind _ := .vertex

/-! ## The checks of each operation -/

namespace Store

/-- An object has to be a vertex, and to be mapped. -/
def objectChecks (t : ObjectType α) (object : α) : List (Except GraphError Unit) :=
  [t.expectKind object .vertex "object", t.mapping object]

/-- A source has to be given. -/
def sourceGiven (source : Option α) : Except GraphError Unit :=
  match source with
  | some _ => .ok ()
  | none => .error (invalidRelation "source vertex must be specified")

/-- A relationship and a destination have to be given together. -/
def bothGiven (relationship : Option β) (destination : Option γ) : Except GraphError Unit :=
  match relationship, destination with
  | none, some _ =>
    .error (invalidRelation
      "relationship must be specified when a destination vertex is present")
  | some _, none =>
    .error (invalidRelation
      "destination vertex must be specified when a relationship is present")
  | _, _ => .ok ()

/-- All parts have to be given. -/
def allGiven (relation : Relation α β γ) : Except GraphError Unit :=
  match relation.source, relation.relationship, relation.destination with
  | some _, some _, some _ => .ok ()
  | _, _, _ =>
    .error (invalidRelation "source, relationship and destination must all be specified")

variable (ts : ObjectType α) (tr : ObjectType β) (td : ObjectType γ) (relation : Relation α β γ)

/-- The kinds of the relationship and of the destination, so far as they are given. -/
def remainingKinds : List (Except GraphError Unit) :=
  ifGiven (tr.expectKind · .relationship "relationship") relation.relationship ++
    ifGiven (td.expectKind · .vertex "destination") relation.destination

/-- The mappings of the parts that are given: the vertices come before the edge. -/
def mappings : List (Except GraphError Unit) :=
  ifGiven ts.mapping relation.source ++ ifGiven td.mapping relation.destination ++
    ifGiven tr.mapping relation.relationship

/-- What a relation has to pass to be stored.  The kind of the source is looked at before it is
clear that the other parts are given together. -/
def storingChecks : List (Except GraphError Unit) :=
  sourceGiven relation.source ::
    ifGiven (ts.expectKind · .vertex "source") relation.source ++
    bothGiven relation.relationship relation.destination ::
    remainingKinds tr td relation ++ mappings ts tr td relation

/-- What a relation has to pass to be read. -/
def readingChecks : List (Except GraphError Unit) :=
  allGiven relation ::
    ifGiven (ts.expectKind · .vertex "source") relation.source ++
    remainingKinds tr td relation ++ mappings ts tr td relation

/-- A request is made if all checks pass, and else refused as the first failure says. -/
def DecidedBy (request : Except GraphError ρ) (checks : List (Except GraphError Unit)) : Prop :=
  request.map (fun _ => ()) = passAll checks

namespace DecidedBy

variable {request : Except GraphError ρ} {checks : List (Except GraphError Unit)}

theorem made (r : ρ) : DecidedBy (.ok r) [] := rfl

theorem refused (e : GraphError) :
    DecidedBy (.error e : Except GraphError ρ) (.error e :: checks) := rfl

theorem pass (h : DecidedBy request checks) : DecidedBy request (.ok () :: checks) := h

/-- A check comes first. -/
theorem check {check : Except GraphError Unit} {next : Unit → Except GraphError ρ}
    (h : DecidedBy (next ()) checks) : DecidedBy (check >>= next) (check :: checks) := by
  cases check with
  | error e => rfl
  | ok u => exact h

/-- The mapping of an object comes first, in whatever form the object is used. -/
theorem mapping {t : ObjectType α} {x : α} {form : Shape × PropertyMap → δ}
    {used : Except GraphError δ} (hused : used = (t.toProperties x).map form)
    {next : δ → Except GraphError ρ} (h : ∀ d, DecidedBy (next d) checks) :
    DecidedBy (used >>= next) (t.mapping x :: checks) := by
  unfold ObjectType.mapping
  rw [hused]
  cases t.toProperties x with
  | error e => rfl
  | ok p => exact h (form p)

/-- The last check is whether an object can be mapped. -/
theorem last {t : ObjectType α} {x : α} {form : Shape × PropertyMap → ρ}
    (hrequest : request = (t.toProperties x).map form) : DecidedBy request [t.mapping x] := by
  unfold ObjectType.mapping
  rw [hrequest]
  cases t.toProperties x <;> rfl

end DecidedBy

open ObjectType (vertexOf_eq edgeOf_eq vertexSelectors_eq edgeSelectors_eq)

theorem vertexRequest_checks (t : ObjectType α) (object : α) :
    DecidedBy (vertexRequest t object) (objectChecks t object) :=
  .check (.last (vertexOf_eq t object))

theorem exampleRequest_checks (t : ObjectType α) (sample : α) :
    DecidedBy (exampleRequest t sample) (objectChecks t sample) :=
  .check (.last (vertexSelectors_eq t sample))

theorem relationRequest_checks :
    DecidedBy (relationRequest ts tr td relation) (storingChecks ts tr td relation) := by
  obtain ⟨source, relationship, destination⟩ := relation
  match source, relationship, destination with
  | none, _, _ => exact .refused _
  | some x, none, none =>
    exact .pass (.check (.pass (.mapping (vertexOf_eq ts x) fun _ => .made _)))
  | some x, none, some y => exact .pass (.check (.refused _))
  | some x, some r, none => exact .pass (.check (.refused _))
  | some x, some r, some y =>
    exact .pass (.check (.pass (.check (.check (.mapping (vertexOf_eq ts x) fun _ =>
      .mapping (vertexOf_eq td y) fun _ => .mapping (edgeOf_eq tr r) fun _ => .made _)))))

theorem edgeRequest_checks :
    DecidedBy (edgeRequest ts tr td relation) (readingChecks ts tr td relation) := by
  obtain ⟨source, relationship, destination⟩ := relation
  match source, relationship, destination with
  | some x, some r, some y =>
    exact .pass (.check (.check (.check (.mapping (vertexSelectors_eq ts x) fun _ =>
      .mapping (vertexSelectors_eq td y) fun _ => .mapping (edgeSelectors_eq tr r) fun _ =>
        .made _))))
  | none, _, _ => exact .refused _
  | some x, none, _ => exact .refused _
  | some x, some r, none => exact .refused _

/-! ## Requests and calls -/

/-- What a request that is decided by its checks leads to. -/
theorem checksFirst {c : Connection σ} {s : σ} {checks : List (Except GraphError Unit)}
    {request : Except GraphError ρ} (hdecided : DecidedBy request checks) {made : ρ → Call}
    {Asks : Call → Prop} {call : ρ → σ → Reply σ δ} {calls : List Call}
    (hcalls : calls = requestsOf (fun r => [made r]) request)
    (hasks : ∀ r, request = .ok r → Asks (made r))
    (hfailed : ∀ r e, (c.answer s (made r)).1 = .error e →
      call r s = (.error e, (c.answer s (made r)).2)) :
    ChecksFirst c s checks Asks calls (checked request call s) := by
  rw [hcalls]
  cases request with
  | error e =>
    have hfirst : FirstFailure checks e := passAll_eq_error_iff.1 hdecided.symm
    refine ⟨Nat.zero_le 1, iff_of_true rfl ?_, fun e' he' => ?_, ?_, ?_⟩
    · obtain ⟨before, after, rfl, -⟩ := hfirst
      exact ⟨.error e, List.mem_append_right _ List.mem_cons_self, fun h => nomatch h⟩
    · have heq : passAll checks = .error e' := passAll_eq_error_iff.2 he'
      rw [← Except.error.inj (hdecided.trans heq)]
      rfl
    · exact fun _ hmem => (List.not_mem_nil hmem).elim
    · exact fun _ hmem => (List.not_mem_nil hmem).elim
  | ok r =>
    have hpassed : ∀ check ∈ checks, check = .ok () := passAll_eq_ok_iff.1 hdecided.symm
    refine ⟨Nat.le_refl 1, iff_of_false (List.cons_ne_nil _ _) ?_, fun e he => ?_, ?_, ?_⟩
    · rintro ⟨check, hmem, hfails⟩
      exact hfails (hpassed check hmem)
    · cases hdecided.trans (passAll_eq_error_iff.2 he)
    · exact List.forall_mem_singleton.2 (hasks r rfl)
    · exact List.forall_mem_singleton.2 (hfailed r)

/-- An object is to be stored as a vertex. -/
def StoresObject (t : ObjectType α) (object : α) (call : Call) : Prop :=
  ∃ v, call = .storeVertex v ∧ t.Carries object v.properties

/-- The objects like a sample are asked for. -/
def AsksForObjects (t : ObjectType α) (sample : α) (call : Call) : Prop :=
  ∃ selectors, call = .queryVertex (t.label sample) selectors ∅ ∅ ∧ t.Carries sample selectors

/-- A source alone is to be stored as a vertex, and a whole relation as an edge with its ends. -/
def StoresRelation (call : Call) : Prop :=
  match relation with
  | ⟨some x, none, none⟩ => StoresObject ts x call
  | ⟨some x, some r, some y⟩ => ∃ e v w, call = .storeEdge e ∧ e.source = some v ∧
      e.destination = some w ∧ ts.Carries x v.properties ∧ td.Carries y w.properties ∧
      tr.Carries r e.properties
  | _ => False

/-- The relations like a whole one are asked for, with their ends. -/
def AsksForRelations (call : Call) : Prop :=
  match relation with
  | ⟨some x, some r, some y⟩ => ∃ request, call = .queryEdge request ∧
      request.fetchMode = .completeVertex ∧ ts.Carries x request.startSelectors ∧
      td.Carries y request.endSelectors ∧ tr.Carries r request.selectors ∧
      request.startFilters = ∅ ∧ request.endFilters = ∅ ∧ request.filters = ∅ ∧
      request.params = ∅
  | _ => False

theorem storesObject_of_request {t : ObjectType α} {object : α} {v : Vertex}
    (h : vertexRequest t object = .ok v) : StoresObject t object (.storeVertex v) := by
  obtain ⟨_, -, hv⟩ := bind_eq_ok_iff.1 h
  obtain ⟨p, hp, rfl⟩ := ObjectType.exists_carries (vertexOf_eq t object) hv
  exact ⟨_, rfl, hp⟩

theorem asksForObjects_of_request {t : ObjectType α} {sample : α} {selectors : PropertyMap}
    (h : exampleRequest t sample = .ok selectors) :
    AsksForObjects t sample (.queryVertex (t.label sample) selectors ∅ ∅) := by
  obtain ⟨_, -, hselectors⟩ := bind_eq_ok_iff.1 h
  obtain ⟨p, hp, rfl⟩ := ObjectType.exists_carries (vertexSelectors_eq t sample) hselectors
  exact ⟨_, rfl, hp⟩

theorem storesRelation_of_request {request : Persisted}
    (h : relationRequest ts tr td relation = .ok request) :
    StoresRelation ts tr td relation request.call := by
  obtain ⟨source, relationship, destination⟩ := relation
  match source, relationship, destination with
  | none, _, _ => cases h
  | some x, none, some y => simp [relationRequest, bind_eq_ok_iff] at h
  | some x, some r, none => simp [relationRequest, bind_eq_ok_iff] at h
  | some x, none, none =>
    simp only [relationRequest, bind_eq_ok_iff, pure, Except.pure] at h
    obtain ⟨_, -, v, hv, hrequest⟩ := h
    obtain rfl := Except.ok.inj hrequest
    obtain ⟨p, hp, rfl⟩ := ObjectType.exists_carries (vertexOf_eq ts x) hv
    exact ⟨_, rfl, hp⟩
  | some x, some r, some y =>
    simp only [relationRequest, bind_eq_ok_iff, pure, Except.pure] at h
    obtain ⟨_, -, _, -, _, -, v, hv, w, hw, bare, hbare, hrequest⟩ := h
    obtain rfl := Except.ok.inj hrequest
    obtain ⟨p, hp, rfl⟩ := ObjectType.exists_carries (vertexOf_eq ts x) hv
    obtain ⟨q, hq, rfl⟩ := ObjectType.exists_carries (vertexOf_eq td y) hw
    obtain ⟨o, ho, rfl⟩ := ObjectType.exists_carries (edgeOf_eq tr r) hbare
    exact ⟨_, _, _, rfl, rfl, rfl, hp, hq, ho⟩

theorem asksForRelations_of_request {request : EdgeRequest}
    (h : edgeRequest ts tr td relation = .ok request) :
    AsksForRelations ts tr td relation (.queryEdge request) := by
  obtain ⟨source, relationship, destination⟩ := relation
  match source, relationship, destination with
  | none, _, _ => cases h
  | some x, none, _ => cases h
  | some x, some r, none => cases h
  | some x, some r, some y =>
    obtain ⟨start, finish, selectors, hstart, hfinish, hselectors, rfl⟩ :=
      Embedded.edgeRequest_eq_ok h
    obtain ⟨p, hp, rfl⟩ := ObjectType.exists_carries (vertexSelectors_eq ts x) hstart
    obtain ⟨q, hq, rfl⟩ := ObjectType.exists_carries (vertexSelectors_eq td y) hfinish
    obtain ⟨o, ho, rfl⟩ := ObjectType.exists_carries (edgeSelectors_eq tr r) hselectors
    exact ⟨_, rfl, rfl, hp, hq, ho, rfl, rfl, rfl, rfl⟩

/-! ## Calls that fail -/

section Failing

variable (c : Connection σ) (s : σ) {e : GraphError}

theorem callVertex_failed {v : Vertex} (h : (c.answer s (.storeVertex v)).1 = .error e) :
    callVertex c v s = (.error e, (c.answer s (.storeVertex v)).2) := by
  unfold callVertex
  cases hcall : c.storeVertex v s with
  | mk stored after =>
    simp only [Connection.answer, hcall] at h ⊢
    rw [h]
    rfl

theorem callEdge_failed {edge : Edge} (h : (c.answer s (.storeEdge edge)).1 = .error e) :
    callEdge c edge s = (.error e, (c.answer s (.storeEdge edge)).2) := by
  unfold callEdge
  cases hcall : c.storeEdge edge s with
  | mk stored after =>
    simp only [Connection.answer, hcall] at h ⊢
    rw [h]
    rfl

theorem eq_error_of_map {found : Except GraphError δ} (h : found.map (fun _ => ()) = .error e) :
    found = .error e := by
  cases found with
  | error d => exact congrArg Except.error (Except.error.inj h)
  | ok d => cases h

end Failing

/-- **Checks first.**  Whatever a database answers, and whatever the objects and their types are,
each operation checks what it is given before it makes its only call. -/
theorem operations_checkFirst (c : Connection σ) (s : σ) (ts : ObjectType α) (tr : ObjectType β)
    (td : ObjectType γ) :
    (∀ object, ChecksFirst c s (objectChecks ts object) (StoresObject ts object)
      (callsMade (persistVertex c.recorded ts object) s) (persistVertex c ts object s)) ∧
    (∀ sample, ChecksFirst c s (objectChecks ts sample) (AsksForObjects ts sample)
      (callsMade (readVertex c.recorded ts sample) s) (readVertex c ts sample s)) ∧
    (∀ relation, ChecksFirst c s (storingChecks ts tr td relation)
      (StoresRelation ts tr td relation)
      (callsMade (persistRelation c.recorded ts tr td relation) s)
      (persistRelation c ts tr td relation s)) ∧
    ∀ relation, ChecksFirst c s (readingChecks ts tr td relation)
      (AsksForRelations ts tr td relation)
      (callsMade (readRelation c.recorded ts tr td relation) s)
      (readRelation c ts tr td relation s) := by
  refine ⟨fun object => ?_, fun sample => ?_, fun relation => ?_, fun relation => ?_⟩
  · exact checksFirst (vertexRequest_checks ts object) (callsMade_persistVertex c s ts object)
      (fun v => storesObject_of_request) fun v e => callVertex_failed c s
  · refine checksFirst (exampleRequest_checks ts sample) (callsMade_readVertex c s ts sample)
      (fun selectors => asksForObjects_of_request) fun selectors e h => ?_
    have hfound : (c.queryVertex (ts.label sample) selectors ∅ ∅ s).1 = .error e :=
      eq_error_of_map h
    dsimp only
    rw [hfound]
    rfl
  · refine checksFirst (relationRequest_checks ts tr td relation)
      (callsMade_persistRelation c s ts tr td relation)
      (fun request => storesRelation_of_request ts tr td relation) fun request e h => ?_
    cases request with
    | vertex v =>
      dsimp only
      rw [callVertex_failed c s h]
      rfl
    | edge edge =>
      dsimp only
      rw [callEdge_failed c s h]
      rfl
  · refine checksFirst (edgeRequest_checks ts tr td relation)
      (callsMade_readRelation c s ts tr td relation)
      (fun request => asksForRelations_of_request ts tr td relation) fun request e h => ?_
    have hfound : (c.queryEdge request s).1 = .error e := eq_error_of_map h
    dsimp only
    rw [hfound]
    rfl

open Embedded (Session)

/-- A relationship is not stored as a vertex, and Jerry's knowing Tom is stored with one call. -/
theorem operations_checkFirst_acquaintance :
    callsMade (persistVertex Session.connection.recorded Sample.knows (some 1990)) {} = [] ∧
      ∃ call, callsMade (persistRelation Session.connection.recorded Sample.person
          Sample.knows Sample.person ⟨some ("Jerry", none), some (some 1990), some ("Tom", none)⟩)
          {} = [call] ∧
        StoresRelation Sample.person Sample.knows Sample.person
          ⟨some ("Jerry", none), some (some 1990), some ("Tom", none)⟩ call := by
  constructor
  · refine ((operations_checkFirst Session.connection {} Sample.knows Sample.knows
      Sample.knows).1 (some 1990)).none_iff.2 ⟨_, List.mem_cons_self, ?_⟩
    exact fun h => nomatch h
  · have hstored := (operations_checkFirst Session.connection {} Sample.person Sample.knows
      Sample.person).2.2.1 ⟨some ("Jerry", none), some (some 1990), some ("Tom", none)⟩
    have hpassed : passAll (storingChecks Sample.person Sample.knows Sample.person
        ⟨some ("Jerry", none), some (some 1990), some ("Tom", none)⟩) = .ok () := by rfl
    have hcalled := mt hstored.none_iff.1 fun ⟨check, hmem, hfails⟩ =>
      hfails (passAll_eq_ok_iff.1 hpassed check hmem)
    obtain ⟨call, hcall⟩ := List.length_eq_one_iff.1
      (Nat.le_antisymm hstored.atMostOne (List.length_pos_iff.2 hcalled))
    exact ⟨call, hcall, hstored.asks call (hcall ▸ List.mem_singleton_self call)⟩

/-- Not every map of a call holds what an object says.  Those of the conditions beside the
selectors are empty; and a field that gets the key of another one takes its place, here a title
that is not declared and null. -/
theorem calls_withoutName :
    (callsMade (readVertex Session.connection.recorded Sample.person ("Tom", none)) {} =
        [.queryVertex "Person" (Dict.ofList [("fullName", .string "Tom")]) ∅ ∅] ∧
      (Sample.person.encoded ("Tom", none)).get? "name" = some (.string "Tom")) ∧
    callsMade (persistVertex Session.connection.recorded Sample.titled "Tom") {} =
        [.storeVertex { labels := ["Person"] }] ∧
      (Sample.titled.encoded "Tom").get? "name" = some (.string "Tom") ∧
      propertyKey Sample.titled.tags "name" = "title" :=
  ⟨⟨rfl, rfl⟩, rfl, rfl, rfl⟩

end Store
end PropertyGraph
