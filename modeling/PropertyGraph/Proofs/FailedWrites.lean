import PropertyGraph.Proofs.ReachableStates

/-!
# Calls that fail

Storing an edge may write three times: either endpoint, then the edge.  The first write comes
after the last check, and what the checks found is still true when it is relied on, so a call
that fails has written nothing, nor given an identifier to a vertex at its ends.

> Main result (`store_error_unchanged`): in a session whose state can be reached, a call that
> fails leaves everything as it was and hands back its argument as it was given.

The database itself is taken not to fail.  Here it does so only when all numbers of a table are
used up (`diskFull`); that it never refuses an edge for want of an endpoint is proved, not
assumed.
-/

namespace PropertyGraph.Embedded.Session

/-- A session starts in a state that can be reached, if every file was left by such a state. -/
theorem reachable_of_connect {disk : String → Option Tables} {c : Config} {s : Session}
    (hdisk : ∀ path t, disk path = some t → ∃ before : State, before.Reachable ∧ before.tables = t)
    (hopen : connect disk c = .ok s) : s.state.Reachable := by
  have hrows : ∀ t, ofTables t c.writeMode = .ok s → State.ofTables t = .ok s.state := by
    intro t ht
    unfold ofTables at ht
    cases hstate : State.ofTables t with
    | error e => rw [hstate] at ht; cases ht
    | ok state => rw [hstate] at ht; cases ht; rfl
  unfold connect at hopen
  cases hplace : Place.ofDatabase c.database with
  | memory =>
    rw [hplace] at hopen
    exact .new (hrows {} hopen)
  | file path =>
    rw [hplace] at hopen
    dsimp only at hopen
    cases hpath : disk path with
    | none => rw [hpath] at hopen; cases hopen
    | some t =>
      rw [hpath] at hopen
      obtain ⟨before, hbefore, rfl⟩ := hdisk path t hpath
      exact hbefore.reopen (hrows _ hopen)

/-- **Failed calls change nothing.**  Whatever vertex or edge is to be stored, in either mode
and after any history: when the call fails, rows, graph and index are as they were, and the
argument comes back as it was given, with the vertices at its ends. -/
theorem store_error_unchanged (s : Session) (h : s.state.Reachable) :
    (∀ v err, (connection.storeVertex v s).1.outcome = .error err →
      connection.storeVertex v s = (⟨.error err, v⟩, s)) ∧
    ∀ e err, (connection.storeEdge e s).1.outcome = .error err → err ≠ diskFull →
      connection.storeEdge e s = (⟨.error err, e⟩, s) := by
  refine ⟨fun v err herror => ?_, fun e err herror hroom => ?_⟩
  · unfold connection at herror ⊢
    dsimp only at herror ⊢
    rcases State.storeVertex_cases s.writeMode s.state v with ⟨err', hrefused⟩ | hok
    · rw [hrefused] at herror ⊢
      cases herror
      rfl
    · rw [hok] at herror
      cases herror
  · unfold connection at herror ⊢
    dsimp only at herror ⊢
    rcases State.storeEdge_cases h.inStep s.writeMode e with ⟨err', hrefused, -⟩ | hfull | hok
    · rw [hrefused] at herror ⊢
      cases herror
      rfl
    · rw [hfull] at herror
      cases herror
      exact (hroom rfl).elim
    · rw [hok] at herror
      cases herror

/-- An edge from a vertex that is still to be stored to one that is not there. -/
def danglingEdge : Edge where
  edgeType := "KNOWS"
  source := some { labels := ["Person"], properties := Dict.ofList [("name", .string "Ann")] }
  destinationId := some ⟨"9"⟩

/-- The sample is opened again, and the edge is refused: its source is not stored either. -/
theorem store_error_unchanged_dangling : ∃ s : Session,
    connect (fun _ => some (State.run {} sampleWrites).tables)
      { database := some "graph.db", writeMode := .create } = .ok s ∧ s.state.Reachable ∧
    s.vertexCount = 2 ∧
    (connection.storeVertex { labels := [] } s).1.outcome = .error (unlabelled "vertex") ∧
    connection.storeVertex { labels := [] } s =
      (⟨.error (unlabelled "vertex"), { labels := [] }⟩, s) ∧
    (connection.storeEdge danglingEdge s).1.outcome = .error (endpointNotFound .destination) ∧
    endpointNotFound .destination ≠ diskFull ∧
    connection.storeEdge danglingEdge s =
      (⟨.error (endpointNotFound .destination), danglingEdge⟩, s) := by
  have hfirst : (State.run {} sampleWrites).Reachable :=
    (State.Reachable.new State.ofTables_empty).run sampleWrites
  let s : Session := ⟨State.run {} sampleWrites, .create⟩
  have hopen : connect (fun _ => some (State.run {} sampleWrites).tables)
      { database := some "graph.db", writeMode := .create } = .ok s := by
    have hplace : Place.ofDatabase (some "graph.db") = .file "graph.db" := by decide
    rw [connect_file hplace rfl, ofTables, State.ofTables_run _ legible_sampleWrites]
  have hreachable : s.state.Reachable :=
    reachable_of_connect (fun _ _ ht => ⟨_, hfirst, Option.some.inj ht⟩) hopen
  obtain ⟨hvertex, hedge⟩ := store_error_unchanged s hreachable
  have hunlabelled : (connection.storeVertex { labels := [] } s).1.outcome =
      .error (unlabelled "vertex") := by rfl
  have hmissing : (connection.storeEdge danglingEdge s).1.outcome =
      .error (endpointNotFound .destination) := by rfl
  have hroom : endpointNotFound .destination ≠ diskFull := by decide
  exact ⟨s, hopen, hreachable, by rfl, hunlabelled, hvertex _ _ hunlabelled, hmissing, hroom,
    hedge _ _ hmissing hroom⟩

end PropertyGraph.Embedded.Session
