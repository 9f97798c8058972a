import PodTelemetry.Proofs.Mutation.Decision

/-!
# Which lookups are made and which errors are returned

A pod that asks for nothing costs no lookup, and every lookup is made only
once the one before has been answered.  Only a namespace or a topology that
could not be found out keeps a pod from running.
-/

namespace PodTelemetry.Mutation

open PodTelemetry.Kubernetes

variable {operator : OperatorConfig} {cluster : Cluster}
variable {inNamespace : String} {pod : Pod}
variable {result : Except Error Mutation} {lookups : List Lookup}

theorem Ends.unchanged_iff
    (ends : Ends operator cluster inNamespace pod result lookups) :
    result = .ok .unchanged ↔ ¬ Concerned pod := by
  cases ends with
  | unconcerned notConcerned =>
      simp [notConcerned]
  | unread concerned | unlisted concerned | unclear concerned
  | patched concerned =>
      simp [concerned]

theorem Ends.lookups_of_unchanged
    (ends : Ends operator cluster inNamespace pod result lookups)
    (unchanged : result = .ok .unchanged) :
    lookups = [] := by
  cases ends with
  | unconcerned =>
      rfl
  | unread | unlisted | unclear | patched =>
      cases unchanged

theorem Ends.lookups_of_concerned
    (ends : Ends operator cluster inNamespace pod result lookups)
    (concerned : Concerned pod) :
    ∃ later,
      lookups = .findNamespace inNamespace :: later ∧
      ((∃ error, cluster (.findNamespace inNamespace) = .error error) →
        later = []) ∧
      ∀ found, cluster (.findNamespace inNamespace) = .ok found →
        ∃ owners,
          later = .listAgents :: owners ∧
          (owners ≠ [] → ∃ agent, cluster .listAgents = .ok [agent]) ∧
          ∀ lookup ∈ owners, ∃ name,
            lookup =
              .findReplicaSet (found.metadata.name.getD "") name := by
  cases ends with
  | unconcerned notConcerned =>
      exact absurd concerned notConcerned
  | unread _ failed =>
      refine ⟨[], rfl, fun _ => rfl, fun found isFound => ?_⟩
      rw [failed] at isFound
      cases isFound
  | unlisted _ isFound | unclear _ isFound =>
      refine ⟨[.listAgents], rfl, ?_, fun found _ => ?_⟩
      · rintro ⟨error, failed⟩
        rw [isFound] at failed
        cases failed
      · exact ⟨[], rfl, fun impossible => absurd rfl impossible, nofun⟩
  | @patched found agent _ isFound isListed =>
      refine ⟨_, rfl, ?_, fun other isOther => ?_⟩
      · rintro ⟨error, failed⟩
        rw [isFound] at failed
        cases failed
      · rw [isFound] at isOther
        cases isOther
        have asked :=
          ((Attributes.keeps_derive found pod).run cluster).2.1
        exact ⟨_, rfl, fun _ => ⟨agent, isListed⟩, asked⟩

theorem Ends.namespace_error_iff
    (ends : Ends operator cluster inNamespace pod result lookups) :
    (∃ error, result = .error error ∧ error.kind = .namespaceLookup) ↔
      Concerned pod ∧
        ∃ error, cluster (.findNamespace inNamespace) = .error error := by
  cases ends with
  | unconcerned notConcerned =>
      simp [notConcerned]
  | unread concerned failed =>
      simp [concerned, failed, namespaceUnread]
  | unlisted concerned isFound | unclear concerned isFound
  | patched concerned isFound =>
      simp [isFound, TopologyFault.error]

theorem Ends.topology_error_iff
    (ends : Ends operator cluster inNamespace pod result lookups) :
    (∃ error, result = .error error ∧ error.kind = .topology) ↔
      Concerned pod ∧
        (∃ found, cluster (.findNamespace inNamespace) = .ok found) ∧
        ((∃ error, cluster .listAgents = .error error) ∨
          ∃ agents, cluster .listAgents = .ok agents ∧
            agents.length ≠ 1) := by
  cases ends with
  | unconcerned notConcerned =>
      simp [notConcerned]
  | unread concerned failed =>
      simp [failed, namespaceUnread]
  | unlisted concerned isFound failed =>
      simp [concerned, isFound, failed, TopologyFault.error]
  | unclear concerned isFound areListed notOne =>
      simp [concerned, isFound, areListed, notOne, TopologyFault.error]
  | patched concerned isFound isListed =>
      simp [isListed]

theorem Ends.patched_iff
    (ends : Ends operator cluster inNamespace pod result lookups) :
    (∃ patch, result = .ok (.patched patch)) ↔
      Concerned pod ∧
        (∃ found, cluster (.findNamespace inNamespace) = .ok found) ∧
        ∃ agent, cluster .listAgents = .ok [agent] := by
  cases ends with
  | unconcerned notConcerned =>
      simp [notConcerned]
  | unread concerned failed =>
      simp [failed]
  | unlisted concerned isFound failed =>
      simp [failed]
  | unclear concerned isFound areListed notOne =>
      have several : ∀ agent, cluster .listAgents ≠ .ok [agent] := by
        intro agent isOne
        rw [areListed] at isOne
        cases isOne
        exact notOne rfl
      simp [several]
  | patched concerned isFound isListed =>
      simp [concerned, isFound, isListed]

/-- With the namespace and one agent found, nothing can go wrong any more. -/
theorem Ends.ne_error
    (ends : Ends operator cluster inNamespace pod result lookups)
    {found : Namespace} {agent : Agent}
    (isFound : cluster (.findNamespace inNamespace) = .ok found)
    (isListed : cluster .listAgents = .ok [agent]) (error : Error) :
    result ≠ .error error := by
  cases ends with
  | unconcerned | patched =>
      nofun
  | unread _ failed =>
      rw [isFound] at failed
      cases failed
  | unlisted _ _ failed =>
      rw [isListed] at failed
      cases failed
  | unclear _ _ areListed notOne =>
      rw [isListed] at areListed
      cases areListed
      exact absurd rfl notOne

/-! ## Responses -/

theorem keeps_respond
    (operator : OperatorConfig) (request : Admission.Request) :
    (Admission.respond operator request).Keeps (fun _ => True)
      Event.NoError fun _ => True := by
  unfold Admission.respond
  cases Admission.subject? request with
  | none =>
      exact .log_bind nofun trivial
  | some object =>
      dsimp only
      cases Admission.podOf request object with
      | error fault =>
          exact .log_bind nofun trivial
      | ok subject =>
          refine (keeps_decide operator subject.1 subject.2).bind ?_
          intro answered prerequisite
          match answered with
          | .error error =>
              have expected := prerequisite error rfl
              simp only [expected, if_true]
              exact .log_bind nofun trivial
          | .ok .unchanged =>
              trivial
          | .ok (.patched []) =>
              trivial
          | .ok (.patched (operation :: rest)) =>
              exact .log_bind nofun trivial

/-- No error of a decision is unexpected, so that none is reported so. -/
theorem unexpectedFailure_not_mem_events
    (settings : Admission.Settings) (cluster : Cluster)
    (delay : Lookup → Nat) (request : Admission.Request) (error : Error) :
    Admission.unexpectedFailure request error ∉
      (Admission.respondInTime settings cluster delay request).events := by
  have expected :=
    ((keeps_respond settings.operator request).runWithin cluster delay
      settings.deadlineMilliseconds).2.2
  unfold Admission.respondInTime
  intro member
  dsimp only at member
  split at member
  · exact expected _ member rfl
  · rcases List.mem_append.1 member with logged | late
    · exact expected _ logged rfl
    · cases List.mem_singleton.1 late

/-- Deciding about a pod that asks for nothing, or has no containers, looks
nothing up.  Otherwise the namespace is looked up, then the agents, then the
replica sets, each only when all before it was found; a namespace that cannot
be read and agents that are not exactly one are the only errors. -/
theorem decide_discipline
    (operator : OperatorConfig) (cluster : Cluster) (inNamespace : String)
    (pod : Pod) :
    let run := (decide operator inNamespace pod).run cluster
    (run.result = .ok .unchanged ↔ ¬ Concerned pod) ∧
    (run.result = .ok .unchanged → run.lookups = []) ∧
    (Concerned pod →
      ∃ later,
        run.lookups = .findNamespace inNamespace :: later ∧
        ((∃ error, cluster (.findNamespace inNamespace) = .error error) →
          later = []) ∧
        ∀ found, cluster (.findNamespace inNamespace) = .ok found →
          ∃ owners,
            later = .listAgents :: owners ∧
            (owners ≠ [] → ∃ agent, cluster .listAgents = .ok [agent]) ∧
            ∀ lookup ∈ owners, ∃ name,
              lookup =
                .findReplicaSet (found.metadata.name.getD "") name) ∧
    ((∃ error, run.result = .error error ∧
        error.kind = .namespaceLookup) ↔
      Concerned pod ∧
        ∃ error, cluster (.findNamespace inNamespace) = .error error) ∧
    ((∃ error, run.result = .error error ∧ error.kind = .topology) ↔
      Concerned pod ∧
        (∃ found, cluster (.findNamespace inNamespace) = .ok found) ∧
        ((∃ error, cluster .listAgents = .error error) ∨
          ∃ agents, cluster .listAgents = .ok agents ∧
            agents.length ≠ 1)) ∧
    ((∃ patch, run.result = .ok (.patched patch)) ↔
      Concerned pod ∧
        (∃ found, cluster (.findNamespace inNamespace) = .ok found) ∧
        ∃ agent, cluster .listAgents = .ok [agent]) ∧
    (∀ error, run.result = .error error → error.isPrerequisite) ∧
    ∀ settings delay request error,
      Admission.unexpectedFailure request error ∉
        (Admission.respondInTime settings cluster delay request).events := by
  intro run
  have ends := decide_ends operator cluster inNamespace pod
  have contract := keeps_decide operator inNamespace pod
  refine
    ⟨ends.unchanged_iff, ends.lookups_of_unchanged,
      ends.lookups_of_concerned, ends.namespace_error_iff,
      ends.topology_error_iff, ends.patched_iff, (contract.run cluster).1,
      ?_⟩
  intro settings delay request error
  exact
    unexpectedFailure_not_mem_events settings cluster delay request error

end PodTelemetry.Mutation
