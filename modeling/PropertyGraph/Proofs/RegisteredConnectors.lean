import Mathlib.Data.List.Induction
import Mathlib.Tactic.Push
import PropertyGraph.Proofs.DictLookup
import PropertyGraph.Provider

/-!
# Registered connectors

What a registry answers depends on the registrations that led to it, and of several for one graph
type on the last.  One registration sets the answer for its own graph type and leaves all others
(`get?_register`); by induction along a sequence of registrations the answer for a graph type is
the connector that was registered last (`get?_ofCalls_eq_some_iff`), or nothing if none was.

The registry of all providers is such a sequence, with one connector for every name.  The names are
listed three times, in the providers that names stand for, in the list of supported graph types
and in the registry; `mem_supported_iff` and `contains_ofProviders_iff` tie the three together.

> Main result (`registry_answers`): a registry answers for the registrations that led to it, and
> opening a connection through the registry of all providers is opening it directly.
-/

namespace PropertyGraph

universe u

variable {m : Type 1 → Type u}

/-- Of the registrations for a graph type the last one was of this connector. -/
def RegisteredLast (calls : List (String × ConnectorIn m)) (graphType : String)
    (connector : ConnectorIn m) : Prop :=
  ∃ before after, calls = before ++ (graphType, connector) :: after ∧
    ∀ call ∈ after, call.1 ≠ graphType

/-- A registration is the last one for its graph type, and does not count for others. -/
theorem registeredLast_concat {calls : List (String × ConnectorIn m)}
    {call : String × ConnectorIn m} {graphType : String} {connector : ConnectorIn m} :
    RegisteredLast (calls ++ [call]) graphType connector ↔
      call = (graphType, connector) ∨ call.1 ≠ graphType ∧
        RegisteredLast calls graphType connector := by
  constructor
  · rintro ⟨before, after, hcalls, hafter⟩
    rcases List.eq_nil_or_concat after with rfl | ⟨front, last, rfl⟩
    · exact Or.inl (List.singleton_injective (List.append_inj' hcalls rfl).2)
    · rw [List.concat_eq_append, ← List.cons_append, ← List.append_assoc] at hcalls
      obtain ⟨hfront, hlast⟩ := List.append_inj' hcalls rfl
      obtain rfl : call = last := List.singleton_injective hlast
      rw [List.concat_eq_append, List.forall_mem_append, List.forall_mem_singleton] at hafter
      exact Or.inr ⟨hafter.2, before, front, hfront, hafter.1⟩
  · rintro (rfl | ⟨hne, before, after, rfl, hafter⟩)
    · exact ⟨calls, [], rfl, fun _ h => (List.not_mem_nil h).elim⟩
    · refine ⟨before, after ++ [call], by rw [List.append_assoc, List.cons_append], ?_⟩
      rw [List.forall_mem_append, List.forall_mem_singleton]
      exact ⟨hafter, hne⟩

namespace RegistryIn

variable {calls : List (String × ConnectorIn m)} {graphType : String} {connector : ConnectorIn m}

/-- The registry after a sequence of registrations. -/
def ofCalls (calls : List (String × ConnectorIn m)) : RegistryIn m :=
  calls.foldl (fun r call => r.register call.1 call.2) empty

/-- What a registry answers is what it has been told. -/
structure AnswersFor [Pure m] (r : RegistryIn m) (calls : List (String × ConnectorIn m)) :
    Prop where
  namesAscending : r.names.Pairwise (· < ·)
  names : ∀ graphType, graphType ∈ r.names ↔ ∃ connector, (graphType, connector) ∈ calls
  contains : ∀ graphType, r.contains graphType = true ↔
    ∃ connector, (graphType, connector) ∈ calls
  get? : ∀ graphType connector, r.get? graphType = some connector ↔
    RegisteredLast calls graphType connector
  unknown : ∀ graphType, r.get? graphType = none ↔ ∀ call ∈ calls, call.1 ≠ graphType
  /-- The connector registered last is what runs, with the configuration as it is. -/
  connects : ∀ c connector, RegisteredLast calls c.graphType connector →
    r.connect c = connector c
  /-- An unknown graph type is refused by its name, without any effect. -/
  refuses : ∀ c, (∀ call ∈ calls, call.1 ≠ c.graphType) →
    r.connect c = pure (.error (.unsupportedProvider c.graphType))

/-! ## Registrations -/

/-- One registration decides the answer for its graph type alone. -/
theorem get?_register (r : RegistryIn m) (graphType other : String) (connector : ConnectorIn m) :
    (r.register graphType connector).get? other =
      if other = graphType then some connector else r.get? other :=
  Dict.get?_insert r.connectors graphType other connector

theorem ofCalls_concat (calls : List (String × ConnectorIn m)) (call : String × ConnectorIn m) :
    ofCalls (calls ++ [call]) = (ofCalls calls).register call.1 call.2 := by
  unfold ofCalls
  rw [List.foldl_append, List.foldl_cons, List.foldl_nil]

/-- A sequence of registrations leaves the connector that was registered last. -/
theorem get?_ofCalls_eq_some_iff :
    (ofCalls calls).get? graphType = some connector ↔
      RegisteredLast calls graphType connector := by
  induction calls using List.reverseRecOn with
  | nil =>
    refine ⟨fun h => (nomatch h), ?_⟩
    rintro ⟨before, after, hnil, -⟩
    exact absurd hnil.symm (List.append_ne_nil_of_right_ne_nil _ (List.cons_ne_nil _ _))
  | append_singleton calls call ih =>
    obtain ⟨name, registered⟩ := call
    rw [ofCalls_concat, get?_register, registeredLast_concat, ← ih, Prod.mk.injEq]
    by_cases hname : graphType = name
    · simp [hname]
    · simp [hname, Ne.symm hname]

/-- Nothing is known about a graph type that was never registered. -/
theorem get?_ofCalls_eq_none_iff :
    (ofCalls calls).get? graphType = none ↔ ∀ call ∈ calls, call.1 ≠ graphType := by
  induction calls using List.reverseRecOn with
  | nil => exact ⟨fun _ _ h => (List.not_mem_nil h).elim, fun _ => rfl⟩
  | append_singleton calls call ih =>
    rw [ofCalls_concat, get?_register, List.forall_mem_append, List.forall_mem_singleton, ← ih]
    by_cases hname : graphType = call.1
    · simp [hname]
    · simp [hname, Ne.symm hname]

/-- Something is known about every graph type that was registered. -/
theorem exists_get?_ofCalls_iff :
    (∃ connector, (ofCalls calls).get? graphType = some connector) ↔
      ∃ connector, (graphType, connector) ∈ calls := by
  rw [← Option.ne_none_iff_exists', ne_eq, get?_ofCalls_eq_none_iff]
  push Not
  constructor
  · rintro ⟨⟨name, connector⟩, hcall, rfl⟩
    exact ⟨connector, hcall⟩
  · rintro ⟨connector, hcall⟩
    exact ⟨_, hcall, rfl⟩

theorem contains_iff (r : RegistryIn m) :
    r.contains graphType = true ↔ ∃ connector, r.get? graphType = some connector :=
  Option.isSome_iff_exists

/-! ## Opening connections -/

section Connecting

variable [Pure m] {r : RegistryIn m} {c : Config}

theorem connect_of_get? (h : r.get? c.graphType = some connector) : r.connect c = connector c := by
  unfold connect
  rw [h]

theorem connect_of_get?_eq_none (h : r.get? c.graphType = none) :
    r.connect c = pure (.error (.unsupportedProvider c.graphType)) := by
  unfold connect
  rw [h]

/-- A registry answers for the registrations that led to it. -/
theorem answersFor_ofCalls (calls : List (String × ConnectorIn m)) :
    (ofCalls calls).AnswersFor calls where
  namesAscending := List.pairwise_map.2 (ofCalls calls).connectors.ascending
  names _ :=
    ((ofCalls calls).connectors.mem_keys_iff _).trans exists_get?_ofCalls_iff
  contains _ := (contains_iff _).trans exists_get?_ofCalls_iff
  get? _ _ := get?_ofCalls_eq_some_iff
  unknown _ := get?_ofCalls_eq_none_iff
  connects _ _ h := connect_of_get? (get?_ofCalls_eq_some_iff.2 h)
  refuses _ h := connect_of_get?_eq_none (get?_ofCalls_eq_none_iff.2 h)

end Connecting
end RegistryIn

/-! ## Providers -/

namespace Provider

/-- A provider goes by its name alone. -/
theorem ofName?_eq_some_iff (graphType : String) (p : Provider) :
    ofName? graphType = some p ↔ graphType = p.name := by
  constructor
  · intro h
    unfold ofName? at h
    split at h <;> cases h <;> rfl
  · rintro rfl
    cases p <;> rfl

/-- The supported graph types are those that name a provider. -/
theorem mem_supported_iff (graphType : String) :
    graphType ∈ supported ↔ ∃ p, ofName? graphType = some p := by
  have hall : ∀ p : Provider, p ∈ all := by
    intro p
    cases p <;> decide
  unfold supported
  rw [List.mem_map]
  constructor
  · rintro ⟨p, -, rfl⟩
    exact ⟨p, (ofName?_eq_some_iff _ p).2 rfl⟩
  · rintro ⟨p, hp⟩
    exact ⟨p, hall p, ((ofName?_eq_some_iff _ p).1 hp).symm⟩

end Provider

namespace Registry

variable (w : Surroundings)

/-- The registry of all providers has been told one connector for each supported graph type. -/
theorem ofProviders_eq : ofProviders w =
    RegistryIn.ofCalls (Provider.supported.map fun graphType => (graphType, Config.connect w)) := by
  unfold ofProviders RegistryIn.ofCalls
  rw [List.foldl_map]

theorem contains_ofProviders_iff (graphType : String) :
    (ofProviders w).contains graphType = true ↔ graphType ∈ Provider.supported := by
  rw [ofProviders_eq, (RegistryIn.answersFor_ofCalls _).contains]
  simp

/-- Opening a connection through the registry of all providers is opening it directly. -/
theorem connect_ofProviders (c : Config) : (ofProviders w).connect c = c.connect w := by
  cases hget : (ofProviders w).get? c.graphType with
  | some connector =>
    -- Whatever is registered there is the same connector.
    rw [ofProviders_eq] at hget
    obtain ⟨before, after, hcalls, -⟩ := RegistryIn.get?_ofCalls_eq_some_iff.1 hget
    have hcall : (c.graphType, connector) ∈
        Provider.supported.map fun graphType => (graphType, Config.connect w) := by
      rw [hcalls]
      exact List.mem_append_right _ List.mem_cons_self
    obtain ⟨_, -, hsame⟩ := List.mem_map.1 hcall
    rw [ofProviders_eq, RegistryIn.connect_of_get? hget, ← (Prod.mk.inj hsame).2]
  | none =>
    have hunknown : ¬ ∃ connector, (ofProviders w).get? c.graphType = some connector := by
      rw [hget]
      rintro ⟨_, h⟩
      cases h
    rw [← RegistryIn.contains_iff, contains_ofProviders_iff, Provider.mem_supported_iff] at hunknown
    have hname : Provider.ofName? c.graphType = none :=
      Option.eq_none_iff_forall_not_mem.2 fun p hp => hunknown ⟨p, hp⟩
    rw [RegistryIn.connect_of_get?_eq_none hget, Config.connect, hname]
    rfl

end Registry

/-- **Registries.**  After any sequence of registrations, whatever effects connectors may have, a
registry lists the registered graph types, ascending and each once, and knows those and no others.
It opens a connection with the connector that was registered last for the graph type of the
configuration, and hands it the configuration as it is; where none was registered it refuses, with
the name of the graph type, and there is no effect, so no connector was run.

The graph types that name a provider are those that are supported and those that the registry of
all providers knows, and for every configuration this registry opens what is opened without it. -/
theorem registry_answers :
    (∀ {m : Type 1 → Type u} [Pure m] (calls : List (String × ConnectorIn m)),
      (RegistryIn.ofCalls calls).AnswersFor calls) ∧
    ∀ w : Surroundings,
      (∀ graphType, (Registry.ofProviders w).contains graphType = true ↔
        graphType ∈ Provider.supported) ∧
      (∀ graphType, graphType ∈ Provider.supported ↔
        ∃ p, Provider.ofName? graphType = some p) ∧
      ∀ c : Config, (Registry.ofProviders w).connect c = c.connect w :=
  ⟨fun calls => RegistryIn.answersFor_ofCalls calls, fun w =>
    ⟨Registry.contains_ofProviders_iff w, Provider.mem_supported_iff,
      Registry.connect_ofProviders w⟩⟩

/-- Two connectors that never answer, and one in place of the first of them that refuses the graph
type of the configuration. -/
def sampleRegistrations : List (String × ConnectorIn Option) :=
  [("notes", fun _ => none), ("maps", fun _ => none),
    ("notes", fun c => some (.error (.configuration c.graphType)))]

/-- What was registered first for notes does not run any more, and for charts nothing does. -/
theorem registry_answers_replaced :
    (RegistryIn.ofCalls sampleRegistrations).connect { graphType := "notes" } =
        some (.error (.configuration "notes")) ∧
      (RegistryIn.ofCalls sampleRegistrations).connect { graphType := "maps" } = none ∧
      (RegistryIn.ofCalls sampleRegistrations).connect { graphType := "charts" } =
        some (.error (.unsupportedProvider "charts")) := by
  obtain ⟨hanswers, -⟩ := registry_answers
  have hnotes : RegisteredLast sampleRegistrations "notes"
      fun c => some (.error (.configuration c.graphType)) :=
    ⟨sampleRegistrations.take 2, [], rfl, fun _ h => (List.not_mem_nil h).elim⟩
  have hmaps : RegisteredLast sampleRegistrations "maps" fun _ => none := by
    refine ⟨sampleRegistrations.take 1, sampleRegistrations.drop 2, rfl, ?_⟩
    simp [sampleRegistrations]
  have hcharts : ∀ call ∈ sampleRegistrations, call.1 ≠ "charts" := by
    simp [sampleRegistrations]
  exact ⟨(hanswers sampleRegistrations).connects { graphType := "notes" } _ hnotes,
    (hanswers sampleRegistrations).connects { graphType := "maps" } _ hmaps,
    (hanswers sampleRegistrations).refuses { graphType := "charts" } hcharts⟩

end PropertyGraph
