import PodTelemetry.Lookup

/-!
# What procedures do in every cluster

The parts of a run are put together from the runs of the parts.  A contract
says which lookups a procedure makes, which events it logs and which results
it reaches, whatever the cluster answers; it holds in every run, also in one
that is cut short.
-/

namespace PodTelemetry

/-- Not a failure of the program's own. -/
def Event.NoError (event : Event) : Prop := event.level ≠ .error

namespace Procedure

variable {α β : Type}

/-! ## Runs of the parts -/

@[simp]
theorem run_pure (cluster : Cluster) (result : α) :
    (pure result : Procedure α).run cluster = { result } := rfl

@[simp]
theorem run_log (cluster : Cluster) (event : Event) :
    (log event).run cluster = { result := (), events := [event] } := rfl

@[simp]
theorem run_namespaceCalled (cluster : Cluster) (name : String) :
    (namespaceCalled name).run cluster =
      { result := cluster (.findNamespace name)
        lookups := [.findNamespace name] } := rfl

@[simp]
theorem run_agents (cluster : Cluster) :
    agents.run cluster =
      { result := cluster .listAgents, lookups := [.listAgents] } := rfl

@[simp]
theorem run_replicaSetCalled
    (cluster : Cluster) (inNamespace name : String) :
    (replicaSetCalled inNamespace name).run cluster =
      { result := cluster (.findReplicaSet inNamespace name)
        lookups := [.findReplicaSet inNamespace name] } := rfl

@[simp]
theorem result_run_bind
    (cluster : Cluster) (first : Procedure α) (next : α → Procedure β) :
    ((first >>= next).run cluster).result =
      ((next (first.run cluster).result).run cluster).result := by
  change ((first.bind next).run cluster).result = _
  rw [run_bind]

@[simp]
theorem lookups_run_bind
    (cluster : Cluster) (first : Procedure α) (next : α → Procedure β) :
    ((first >>= next).run cluster).lookups =
      (first.run cluster).lookups ++
        ((next (first.run cluster).result).run cluster).lookups := by
  change ((first.bind next).run cluster).lookups = _
  rw [run_bind]

/-- A run of two procedures in a row, in terms of the runs of the two. -/
theorem run_andThen
    (cluster : Cluster) (first : Procedure α) (next : α → Procedure β) :
    (first >>= next).run cluster =
      let earlier := first.run cluster
      let later := (next earlier.result).run cluster
      { result := later.result
        lookups := earlier.lookups ++ later.lookups
        events := earlier.events ++ later.events } :=
  run_bind cluster first next

@[simp]
theorem run_logAll (cluster : Cluster) (events : List Event) :
    (logAll events).run cluster = { result := (), events } := by
  induction events with
  | nil =>
      rfl
  | cons event rest inductionHypothesis =>
      have first :
          (logAll (event :: rest)).run cluster =
            { (logAll rest).run cluster with
              events := event :: ((logAll rest).run cluster).events } := rfl
      rw [first, inductionHypothesis]

/-- A run depends on the answers that it gets, and on no others. -/
theorem run_eq_of_agree
    {first second : Cluster} {procedure : Procedure α}
    (agree :
      ∀ lookup ∈ (procedure.run first).lookups,
        first lookup = second lookup) :
    procedure.run second = procedure.run first := by
  induction procedure with
  | done result =>
      rfl
  | emit event rest inductionHypothesis =>
      simp only [run, inductionHypothesis agree]
  | ask lookup rest inductionHypothesis =>
      obtain ⟨now, later⟩ := List.forall_mem_cons.1 agree
      simp only [run, ← now, inductionHypothesis (first lookup) later]

/-! ## Contracts -/

/-- Whatever is answered, only such lookups are made, only such events are
logged and only such a result is reached. -/
def Keeps
    (asked : Lookup → Prop) (logged : Event → Prop) (reached : α → Prop) :
    Procedure α → Prop
  | .done result => reached result
  | .emit event rest => logged event ∧ rest.Keeps asked logged reached
  | .ask lookup rest =>
      asked lookup ∧ ∀ answer, (rest answer).Keeps asked logged reached

section Contracts

variable {asked : Lookup → Prop} {logged : Event → Prop}

theorem Keeps.weaken
    {procedure : Procedure α} {reached : α → Prop}
    (keeps : procedure.Keeps asked logged reached)
    {allowed : Lookup → Prop}
    (allows : ∀ lookup, asked lookup → allowed lookup) :
    procedure.Keeps allowed logged reached := by
  induction procedure with
  | done result =>
      exact keeps
  | emit event rest inductionHypothesis =>
      exact ⟨keeps.1, inductionHypothesis keeps.2⟩
  | ask lookup rest inductionHypothesis =>
      exact
        ⟨allows lookup keeps.1, fun answer =>
          inductionHypothesis answer (keeps.2 answer)⟩

theorem Keeps.bind
    {first : Procedure α} {next : α → Procedure β}
    {between : α → Prop} {reached : β → Prop}
    (keeps : first.Keeps asked logged between)
    (nextKeeps : ∀ result, between result →
      (next result).Keeps asked logged reached) :
    (first >>= next).Keeps asked logged reached := by
  change (first.bind next).Keeps asked logged reached
  induction first with
  | done result =>
      exact nextKeeps result keeps
  | emit event rest inductionHypothesis =>
      exact ⟨keeps.1, inductionHypothesis keeps.2⟩
  | ask lookup rest inductionHypothesis =>
      exact
        ⟨keeps.1, fun answer => inductionHypothesis answer (keeps.2 answer)⟩

theorem Keeps.log_bind
    {event : Event} {next : Unit → Procedure β} {reached : β → Prop}
    (isLogged : logged event)
    (nextKeeps : (next ()).Keeps asked logged reached) :
    (log event >>= next).Keeps asked logged reached :=
  ⟨isLogged, nextKeeps⟩

theorem keeps_logAll
    {events : List Event} (areLogged : ∀ event ∈ events, logged event) :
    (logAll events).Keeps asked logged fun _ => True := by
  induction events with
  | nil =>
      trivial
  | cons event rest inductionHypothesis =>
      rw [List.forall_mem_cons] at areLogged
      exact ⟨areLogged.1, inductionHypothesis areLogged.2⟩

theorem Keeps.run
    {procedure : Procedure α} {reached : α → Prop}
    (keeps : procedure.Keeps asked logged reached) (cluster : Cluster) :
    reached (procedure.run cluster).result ∧
      (∀ lookup ∈ (procedure.run cluster).lookups, asked lookup) ∧
      ∀ event ∈ (procedure.run cluster).events, logged event := by
  induction procedure with
  | done result =>
      exact ⟨keeps, nofun, nofun⟩
  | emit event rest inductionHypothesis =>
      obtain ⟨result, lookups, events⟩ := inductionHypothesis keeps.2
      exact
        ⟨result, lookups, List.forall_mem_cons.2 ⟨keeps.1, events⟩⟩
  | ask lookup rest inductionHypothesis =>
      obtain ⟨result, lookups, events⟩ :=
        inductionHypothesis (cluster lookup) (keeps.2 (cluster lookup))
      exact
        ⟨result, List.forall_mem_cons.2 ⟨keeps.1, lookups⟩, events⟩

theorem Keeps.runWithin
    {procedure : Procedure α} {reached : α → Prop}
    (keeps : procedure.Keeps asked logged reached)
    (cluster : Cluster) (delay : Lookup → Nat) (limit : Nat) :
    (∀ result,
        (procedure.runWithin cluster delay limit).result = some result →
          reached result) ∧
      (∀ lookup ∈ (procedure.runWithin cluster delay limit).lookups,
        asked lookup) ∧
      ∀ event ∈ (procedure.runWithin cluster delay limit).events,
        logged event := by
  induction procedure generalizing limit with
  | done result =>
      refine ⟨fun other same => ?_, nofun, nofun⟩
      rw [← Option.some.inj same]
      exact keeps
  | emit event rest inductionHypothesis =>
      obtain ⟨result, lookups, events⟩ := inductionHypothesis keeps.2 limit
      exact
        ⟨result, lookups, List.forall_mem_cons.2 ⟨keeps.1, events⟩⟩
  | ask lookup rest inductionHypothesis =>
      rw [Procedure.runWithin]
      by_cases late : limit < delay lookup
      · rw [if_pos late]
        refine ⟨nofun, ?_, nofun⟩
        simpa using keeps.1
      · rw [if_neg late]
        obtain ⟨result, lookups, events⟩ :=
          inductionHypothesis (cluster lookup) (keeps.2 (cluster lookup))
            (limit - delay lookup)
        exact
          ⟨result, List.forall_mem_cons.2 ⟨keeps.1, lookups⟩, events⟩

end Contracts

end Procedure

end PodTelemetry
