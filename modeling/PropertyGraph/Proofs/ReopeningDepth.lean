import PropertyGraph.Proofs.GivenProperties
import PropertyGraph.Proofs.Reopening
import PropertyGraph.Proofs.ValueText

/-!
# Nesting that cannot be reopened

A graph is written as JSON text, to any depth, and read with a limit on the levels of nesting.
A value that is stored and nested too deeply therefore stays in memory and in its row, but the
row is not readable, and with it the whole graph.

> Main result (`reopen_iff_shallow`): after any sequence of calls on an empty file, this is opened
> again exactly if no property that is stored has more levels than there is room for, next to
> the one that all properties of an element share.

Nothing else stands in the way: labels are one level deep, and strings and numbers of 64 bits
are always read (`ValueText.lean`).
-/

namespace PropertyGraph.Embedded

/-! ## Reading properties -/

/-- The levels of nesting in properties: one for themselves, and those of the deepest value. -/
theorem depth_ofDict_le_iff (properties : PropertyMap) (room : Nat) :
    (Json.ofDict properties).depth ≤ room + 1 ↔
      ∀ m ∈ properties.entries, m.2.depth ≤ room := by
  rw [Json.ofDict, Json.depth, Nat.succ_le_succ_iff]
  induction properties.entries with
  | nil => simp [Json.membersDepth]
  | cons m rest ih =>
    rw [Json.membersDepth, max_le_iff, ih, List.forall_mem_cons]

/-- The members of an object with their keys, as they are looked at one level further in. -/
def namedMembers (room : Nat) (ms : List (Option String × Document)) :
    Option (List (String × Nested)) := ms.mapM fun m => m.1.map fun k => (k, ⟨room, m.2⟩)

/-- The values of these members. -/
def memberValues (members : List (String × Nested)) : Option (List (String × Json)) :=
  members.mapM fun m => (m.2.document.valueWithin? m.2.room).map fun v => (m.1, v)

theorem bind_memberValues (room : Nat) (ms : List (Option String × Document)) :
    (namedMembers room ms).bind memberValues = Document.membersWithin? room ms := by
  induction ms with
  | nil => rfl
  | cons m rest ih =>
    obtain ⟨k, d⟩ := m
    cases k with
    | none => simp [namedMembers, Document.membersWithin?, bind]
    | some key =>
      unfold Document.membersWithin?
      rw [← ih, namedMembers, List.mapM_cons, ← namedMembers]
      cases namedMembers room rest with
      | none => cases d.valueWithin? room <;> rfl
      | some members =>
        simp only [bind, pure, Option.map_some, Option.bind_some, memberValues, List.mapM_cons]
        rw [← memberValues]
        cases d.valueWithin? room <;> cases memberValues members <;> rfl

/-- Properties are read from an object as its members are. -/
theorem properties?_object (room : Nat) (ms : List (Option String × Document)) :
    Nested.source.properties? ⟨room + 1, .object ms⟩ =
      (Document.membersWithin? room ms).map Dict.ofList := by
  -- The object itself takes one level; its members are looked at with what is left.
  have hsteps : Nested.source.properties? ⟨room + 1, .object ms⟩ =
      (namedMembers room ms).bind fun members =>
        (memberValues members).bind fun entries => some (Dict.ofList entries) := rfl
  rw [hsteps, ← bind_memberValues]
  cases namedMembers room ms with
  | none => rfl
  | some members => cases hvalues : memberValues members <;> simp [hvalues]

/-- **Depth.**  Properties are read back to some properties exactly if they are not nested more
deeply than the reader goes. -/
theorem exists_readProperties_iff {properties : PropertyMap}
    (h : Json.Within64 (Json.ofDict properties)) :
    (∃ read, readProperties (Json.ofDict properties).text = .ok read) ↔
      (Json.ofDict properties).depth ≤ Document.maxDepth := by
  obtain ⟨ms, hreads, hdepth⟩ := Json.exists_reads_object fun hne =>
    Json.membersReadToDepth properties.entries hne h
  have hproperties : (Nested.source.properties? ⟨126 + 1, .object ms⟩).isSome = true ↔
      (Json.membersDepth properties.entries) ≤ 126 := by
    rw [properties?_object, Option.isSome_map, hdepth]
  unfold readProperties Json.decode?
  rw [Json.ofDict, Json.document?_of_reads hreads, Option.bind_some]
  refine Iff.trans ?_ (hproperties.trans Nat.succ_le_succ_iff.symm)
  show _ ↔ (Nested.source.properties? ⟨Document.maxDepth, .object ms⟩).isSome = true
  cases Nested.source.properties? ⟨Document.maxDepth, .object ms⟩ with
  | none => simp
  | some read => simp

/-- The document that labels are read as. -/
def labelDocuments (labels : List String) : List Document :=
  labels.map fun label => .string (some label)

theorem readsItems_labels : ∀ labels : List String, labels ≠ [] →
    Json.Starts (Json.joined (Json.itemTexts (labels.map .string))) ∧
      Json.ReadsItems (Json.joined (Json.itemTexts (labels.map .string))) (labelDocuments labels)
  | [], hne => absurd rfl hne
  | [label], _ => by
    have hreads := Json.reads_string label
    rw [List.map_singleton, Json.itemTexts, Json.itemTexts, Json.joined_singleton]
    exact ⟨hreads.starts, Json.readsItems_single hreads⟩
  | label :: other :: rest, _ => by
    have hreads := Json.reads_string label
    obtain ⟨-, hrest⟩ := readsItems_labels (other :: rest) (List.cons_ne_nil _ _)
    rw [List.map_cons, Json.itemTexts] at hrest
    rw [List.map_cons, List.map_cons, Json.itemTexts, Json.itemTexts, Json.joined_cons_cons]
    exact ⟨hreads.starts.append _, Json.readsItems_cons hreads hrest⟩

theorem texts?_labelDocuments (labels : List String) :
    Nested.source.texts? ⟨Document.maxDepth, .array (labelDocuments labels)⟩ = some labels := by
  show ((labelDocuments labels).map fun d => (⟨126, d⟩ : Nested)).mapM Nested.source.text? = _
  induction labels with
  | nil => rfl
  | cons label rest ih =>
    have hlabel : Nested.source.text? ⟨126, .string (some label)⟩ = some label := rfl
    rw [labelDocuments, List.map_cons, List.map_cons, List.mapM_cons, hlabel, ← labelDocuments, ih]
    rfl

/-- Labels are always read back. -/
theorem readLabels_texts (labels : List String) :
    readLabels (Json.texts labels).text = .ok labels := by
  have hreads : Json.Reads (Json.texts labels).text.toList (.array (labelDocuments labels)) := by
    cases labels with
    | nil => exact Json.reads_array_nil
    | cons label rest =>
      obtain ⟨hstarts, hitems⟩ := readsItems_labels (label :: rest) (List.cons_ne_nil _ _)
      rw [Json.texts, Json.toList_text_array]
      exact Json.reads_array hstarts hitems
  unfold readLabels Json.decode?
  rw [Json.document?_of_reads hreads, Option.bind_some, texts?_labelDocuments]

/-! ## Reading rows -/

/-- A vertex is read back exactly if its properties are. -/
theorem exists_toNode_iff (n : Node) : (∃ read, n.row.toNode = .ok read) ↔
    ∃ read, readProperties (Json.ofDict n.properties).text = .ok read := by
  unfold VertexRow.toNode Node.row
  rw [readLabels_texts]
  dsimp only
  cases readProperties (Json.ofDict n.properties).text with
  | error e => simp
  | ok read => simp

theorem exists_toData_iff (row : EdgeRow) : (∃ read, row.toData = .ok read) ↔
    ∃ read, readProperties row.properties = .ok read := by
  unfold EdgeRow.toData
  cases readProperties row.properties with
  | error e => simp
  | ok read => simp

namespace Graph

/-- Rows are read one after the other, and each is added to what the rows before it came to.  They
get into the graph exactly if all of them are read. -/
theorem exists_addAll_iff {ρ δ : Type} (add : Graph → ρ → δ → Graph)
    {read : ρ → Except GraphError δ} {addAll : Graph → List ρ → Except GraphError Graph}
    (hnil : ∀ g, addAll g [] = .ok g)
    (hcons : ∀ g row rest, addAll g (row :: rest) = read row >>= fun d => addAll (add g row d) rest)
    (rows : List ρ) :
    ∀ g, (∃ g', addAll g rows = .ok g') ↔ ∀ row ∈ rows, ∃ d, read row = .ok d := by
  induction rows with
  | nil => exact fun g => iff_of_true ⟨g, hnil g⟩ (List.forall_mem_nil _)
  | cons row rest ih =>
    intro g
    rw [List.forall_mem_cons, hcons]
    cases read row with
    | error e => simp [bind, Except.bind]
    | ok d => simp [bind, Except.bind, ih]

/-- Vertices are added as long as they are read. -/
theorem exists_addRows_iff (rows : List VertexRow) (g : Graph) :
    (∃ g', addRows g rows = .ok g') ↔ ∀ row ∈ rows, ∃ n, row.toNode = .ok n := by
  refine exists_addAll_iff (fun g _ n => g.addNode n) (fun _ => rfl) (fun g row rest => ?_) rows g
  rw [addRows]
  cases row.toNode <;> rfl

/-- Edges are added, or left out, as long as they are read. -/
theorem exists_addEdgeRows_iff (rows : List EdgeRow) (g : Graph) :
    (∃ g', addEdgeRows g rows = .ok g') ↔ ∀ row ∈ rows, ∃ d, row.toData = .ok d := by
  refine exists_addAll_iff (fun g row d => (g.addEdge? row.sourceId row.targetId d).getD g)
    (fun _ => rfl) (fun g row rest => ?_) rows g
  rw [addEdgeRows]
  cases row.toData <;> rfl

/-- A graph is loaded exactly if all its rows are read. -/
theorem exists_load_iff (t : Tables) : (∃ g, load t = .ok g) ↔
    (∀ row ∈ t.vertices, ∃ n, row.toNode = .ok n) ∧ ∀ row ∈ t.edges, ∃ d, row.toData = .ok d := by
  have hvertices := exists_addRows_iff
    (t.vertices.mergeSort fun a b => decide (a.id ≤ b.id)) empty
  have hedges := exists_addEdgeRows_iff (t.edges.mergeSort fun a b => decide (a.id ≤ b.id))
  simp only [List.mem_mergeSort] at hvertices hedges
  unfold load addTables
  rw [← hvertices]
  cases addRows empty (t.vertices.mergeSort fun a b => decide (a.id ≤ b.id)) with
  | error e => simp
  | ok g =>
    dsimp only
    rw [hedges]
    simp

end Graph

namespace State

/-- No stored property has more levels of nesting than there is room for next to the level of
the properties themselves. -/
def Shallow (s : State) : Prop :=
  s.Holds fun properties => ∀ m ∈ properties.entries, m.2.depth < Document.maxDepth

/-- All stored numbers are those that 64 bits can hold. -/
def Within64 (s : State) : Prop := s.Holds fun properties => Json.Within64 (Json.ofDict properties)

/-- The rows of a graph are opened exactly if nothing in it is nested too deeply. -/
theorem exists_ofTables_iff {s : State} (htext : s.Transcribed) (h64 : s.Within64) :
    (∃ read, ofTables s.tables = .ok read) ↔ s.Shallow := by
  have hload : (∃ read, ofTables s.tables = .ok read) ↔ ∃ g, Graph.load s.tables = .ok g := by
    unfold ofTables
    cases Graph.load s.tables with
    | error e => simp
    | ok g => simp
  have hshallow : ∀ {properties : PropertyMap}, Json.Within64 (Json.ofDict properties) →
      ((∃ read, readProperties (Json.ofDict properties).text = .ok read) ↔
        ∀ m ∈ properties.entries, m.2.depth < Document.maxDepth) := by
    intro properties hp
    rw [exists_readProperties_iff hp]
    exact (depth_ofDict_le_iff properties 126).trans
      (forall₂_congr fun _ _ => Nat.lt_succ_iff.symm)
  have hnodes : (∀ row ∈ s.tables.vertices, ∃ n, row.toNode = .ok n) ↔
      ∀ n ∈ s.graph.nodes, ∀ m ∈ n.properties.entries, m.2.depth < Document.maxDepth := by
    rw [htext.vertices, List.forall_mem_map]
    exact forall₂_congr fun n hn => (exists_toNode_iff n).trans (hshallow (h64.nodes n hn))
  have harcs : (∀ row ∈ s.tables.edges, ∃ d, row.toData = .ok d) ↔
      ∀ a ∈ s.graph.arcs, ∀ m ∈ a.data.properties.entries, m.2.depth < Document.maxDepth := by
    have hrows : (∀ row ∈ s.tables.edges, ∃ d, row.toData = .ok d) ↔
        ∀ text ∈ s.tables.edges.map EdgeRow.properties, ∃ read, readProperties text = .ok read := by
      rw [List.forall_mem_map]
      exact forall₂_congr fun row _ => exists_toData_iff row
    rw [hrows, htext.edges, List.forall_mem_map]
    exact forall₂_congr fun a ha => hshallow (h64.arcs a ha)
  rw [hload, Graph.exists_load_iff, hnodes, harcs]
  exact ⟨fun h => ⟨h.1, h.2⟩, fun h => ⟨h.nodes, h.arcs⟩⟩

end State

namespace Session

/-- A file is opened exactly if its rows are. -/
theorem exists_connect_iff {c : Config} {path : String}
    (hplace : Place.ofDatabase c.database = .file path) {disk : String → Option Tables}
    {t : Tables} (hrows : disk path = some t) :
    (∃ s, connect disk c = .ok s) ↔ ∃ read, State.ofTables t = .ok read := by
  rw [connect_file hplace hrows]
  unfold ofTables
  cases State.ofTables t with
  | error e => simp
  | ok state => simp

/-- **Reopening.**  A graph that is opened on an empty file and written to by any sequence of calls
is opened again on the rows that these left exactly if no property that is stored is nested
more deeply than 126 levels.  The numbers given are those that 64 bits can hold. -/
theorem reopen_iff_shallow (c : Config) (path : String)
    (hplace : Place.ofDatabase c.database = .file path) (disk : String → Option Tables)
    (hempty : disk path = some {}) (writes : List Write)
    (h64 : ∀ w ∈ writes, ∀ properties ∈ w.given, Json.Within64 (Json.ofDict properties)) :
    ∃ opened, connect disk c = .ok opened ∧
      ∀ later : String → Option Tables, later path = some (opened.run writes).state.tables →
        ((∃ s, connect later c = .ok s) ↔ (opened.run writes).state.Shallow) := by
  refine ⟨⟨{}, c.writeMode⟩, ?_, fun later hlater => ?_⟩
  · rw [connect_file hplace hempty, ofTables, State.ofTables_empty]
  · have hwithin : (State.run {} writes).Within64 := State.Holds.run h64 State.holds_empty
    rw [state_run] at hlater ⊢
    rw [exists_connect_iff hplace hlater,
      State.exists_ofTables_iff (State.transcribed_run writes) hwithin]

/-! ## The deepest value -/

/-- Arrays in each other, around an empty one. -/
def nested : Nat → Json
  | 0 => .array []
  | n + 1 => .array [nested n]

theorem depth_nested (n : Nat) : (nested n).depth = n + 1 := by
  induction n with
  | zero => rfl
  | succ n ih =>
    rw [nested, Json.depth, Json.itemsDepth, ih]
    rfl

theorem within64_nested (n : Nat) : Json.Within64 (nested n) := by
  induction n with
  | zero => trivial
  | succ n ih => exact ⟨ih, trivial⟩

/-- The properties with one such value. -/
def nestedProperties (n : Nat) : PropertyMap := Dict.ofList [("k", nested n)]

theorem within64_nestedProperties (n : Nat) : Json.Within64 (Json.ofDict (nestedProperties n)) :=
  ⟨within64_nested n, trivial⟩

/-- The call that stores a vertex with them. -/
def nestedWrite (n : Nat) : Write :=
  .vertex .merge { labels := ["P"], properties := nestedProperties n }

theorem shallow_nestedWrite_iff (n : Nat) : (State.run {} [nestedWrite n]).Shallow ↔ n < 126 := by
  have hnodes : (State.run {} [nestedWrite n]).graph.nodes = [⟨1, ["P"], nestedProperties n⟩] := rfl
  have harcs : (State.run {} [nestedWrite n]).graph.arcs = [] := rfl
  have hentries : (nestedProperties n).entries = [("k", nested n)] := rfl
  have hone : (∀ m ∈ (nestedProperties n).entries, m.2.depth < Document.maxDepth) ↔ n < 126 := by
    rw [hentries, List.forall_mem_singleton, depth_nested]
    exact Nat.succ_lt_succ_iff
  rw [← hone]
  refine ⟨fun h => h.nodes _ (by rw [hnodes]; exact List.mem_singleton.2 rfl), fun h => ⟨?_, ?_⟩⟩
  · rw [hnodes, List.forall_mem_singleton]
    exact h
  · rw [harcs]
    exact fun a ha => (List.not_mem_nil ha).elim

/-- A value with 126 levels is opened again. -/
theorem reopen_nested :
    Place.ofDatabase (some "graph.db") = .file "graph.db" ∧
      (∀ w ∈ [nestedWrite 125], ∀ properties ∈ w.given,
        Json.Within64 (Json.ofDict properties)) ∧
      ∃ opened, connect (fun _ => some {}) { database := some "graph.db" } = .ok opened ∧
        ∃ s, connect (fun _ => some (opened.run [nestedWrite 125]).state.tables)
          { database := some "graph.db" } = .ok s := by
  have hplace : Place.ofDatabase (some "graph.db") = .file "graph.db" := by decide
  have h64 : ∀ w ∈ [nestedWrite 125], ∀ properties ∈ w.given,
      Json.Within64 (Json.ofDict properties) := by
    rw [List.forall_mem_singleton]
    exact List.forall_mem_singleton.2 (within64_nestedProperties 125)
  obtain ⟨opened, hopen, hreopen⟩ := reopen_iff_shallow { database := some "graph.db" } "graph.db"
    hplace (fun _ => some {}) rfl [nestedWrite 125] h64
  refine ⟨hplace, h64, opened, hopen, (hreopen _ rfl).2 ?_⟩
  have hempty : opened.state = {} := by
    rw [connect_file hplace rfl, ofTables, State.ofTables_empty] at hopen
    cases hopen
    rfl
  rw [state_run, hempty]
  exact (shallow_nestedWrite_iff 125).2 (by decide)

/-- With one level more the call succeeds all the same, and the file is not opened again. -/
theorem reopen_nested_refused :
    let stored := connection.storeVertex { labels := ["P"], properties := nestedProperties 126 } {}
    stored.1.outcome = .ok () ∧
      ¬ ∃ s, connect (fun _ => some stored.2.state.tables) { database := some "graph.db" } =
        .ok s := by
  have hplace : Place.ofDatabase (some "graph.db") = .file "graph.db" := by decide
  have hwithin : (State.run {} [nestedWrite 126]).Within64 := by
    refine State.Holds.run ?_ State.holds_empty
    rw [List.forall_mem_singleton]
    exact List.forall_mem_singleton.2 (within64_nestedProperties 126)
  refine ⟨rfl, fun hopen => ?_⟩
  have hread := (exists_connect_iff hplace rfl).1 hopen
  have hshallow := (State.exists_ofTables_iff (State.transcribed_run [nestedWrite 126]) hwithin).1
    hread
  exact absurd ((shallow_nestedWrite_iff 126).1 hshallow) (by decide)

end Session
end PropertyGraph.Embedded
