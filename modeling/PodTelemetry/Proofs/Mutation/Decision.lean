import PodTelemetry.Admission.Webhook
import PodTelemetry.Proofs.Attributes.Derivation
import PodTelemetry.Proofs.Kubernetes.FirstContainer

/-!
# How a decision ends

Deciding about a pod ends in one of five ways, each with its own result and
its own lookups.  What is said about lookups and errors follows from these
cases.
-/

namespace PodTelemetry.Mutation

open PodTelemetry.Kubernetes

variable {operator : OperatorConfig} {cluster : Cluster}
variable {inNamespace : String} {pod : Pod}

/-- The pod asks for telemetry and has a container to put it into. -/
def Concerned (pod : Pod) : Prop :=
  (∃ injector text,
    pod.metadata.annotation? (Injector.annotation injector) = some text ∧
    Text.sameIgnoringCase text "true") ∧
  ∃ spec, pod.spec = some spec ∧ spec.containers ≠ []

theorem mem_selected_iff
    {annotations : Option (Dictionary String)} {injector : Injector} :
    injector ∈ Injector.selected annotations ↔
      ∃ text,
        annotations.bind (·.get? injector.annotation) = some text ∧
        Text.sameIgnoringCase text "true" := by
  have known : injector ∈ Injector.all := by
    cases injector <;> decide
  unfold Injector.selected
  rw [List.mem_filter]
  cases annotations.bind (·.get? injector.annotation) with
  | none =>
      simp
  | some text =>
      simp [known]

theorem selected_ne_nil_iff
    {annotations : Option (Dictionary String)} :
    Injector.selected annotations ≠ [] ↔
      ∃ injector text,
        annotations.bind (·.get? (Injector.annotation injector)) =
            some text ∧
        Text.sameIgnoringCase text "true" := by
  constructor
  · intro asked
    obtain ⟨injector, member⟩ := List.exists_mem_of_ne_nil _ asked
    exact ⟨injector, mem_selected_iff.1 member⟩
  · rintro ⟨injector, asked⟩
    exact List.ne_nil_of_mem (mem_selected_iff.2 asked)

theorem concerned_iff :
    Concerned pod ↔
      Injector.selected pod.metadata.annotations ≠ [] ∧
        ∃ container, pod.firstContainer? = some container := by
  rw [selected_ne_nil_iff]
  apply and_congr_right
  intro _
  constructor
  · rintro ⟨spec, isSpec, notEmpty⟩
    obtain ⟨container, others, containers⟩ :=
      List.exists_cons_of_ne_nil notEmpty
    exact
      ⟨container,
        Pod.firstContainer?_eq_some_iff.2 ⟨spec, others, isSpec, containers⟩⟩
  · rintro ⟨container, found⟩
    obtain ⟨spec, others, isSpec, containers⟩ :=
      Pod.firstContainer?_eq_some_iff.1 found
    refine ⟨spec, isSpec, ?_⟩
    rw [containers]
    exact List.cons_ne_nil container others

/-- What the injectors work with when an agent was found. -/
def contextOf
    (operator : OperatorConfig) (cluster : Cluster) (found : Namespace)
    (agent : Agent) (pod : Pod) : InjectionContext where
  config := InjectionConfig.ofSpec agent.spec operator
  attributes := ((Attributes.derive found pod).run cluster).result

/-- The ways in which a decision ends, with the lookups that were made. -/
inductive Ends
    (operator : OperatorConfig) (cluster : Cluster) (inNamespace : String)
    (pod : Pod) : Except Error Mutation → List Lookup → Prop
  | unconcerned (notConcerned : ¬ Concerned pod) :
      Ends operator cluster inNamespace pod (.ok .unchanged) []
  | unread {error : Error} (concerned : Concerned pod)
      (failed : cluster (.findNamespace inNamespace) = .error error) :
      Ends operator cluster inNamespace pod
        (.error (namespaceUnread inNamespace error))
        [.findNamespace inNamespace]
  | unlisted {found : Namespace} {error : Error}
      (concerned : Concerned pod)
      (isFound : cluster (.findNamespace inNamespace) = .ok found)
      (failed : cluster .listAgents = .error error) :
      Ends operator cluster inNamespace pod
        (.error (TopologyFault.unlisted error).error)
        [.findNamespace inNamespace, .listAgents]
  | unclear {found : Namespace} {agents : List Agent}
      {fault : TopologyFault} (concerned : Concerned pod)
      (isFound : cluster (.findNamespace inNamespace) = .ok found)
      (areListed : cluster .listAgents = .ok agents)
      (notOne : agents.length ≠ 1) :
      Ends operator cluster inNamespace pod (.error fault.error)
        [.findNamespace inNamespace, .listAgents]
  | patched {found : Namespace} {agent : Agent}
      (concerned : Concerned pod)
      (isFound : cluster (.findNamespace inNamespace) = .ok found)
      (isListed : cluster .listAgents = .ok [agent]) :
      Ends operator cluster inNamespace pod
        (.ok (.patched (patchFor pod
          (workingCopy (contextOf operator cluster found agent pod)
            (Injector.selected pod.metadata.annotations) pod))))
        (.findNamespace inNamespace :: .listAgents ::
          ((Attributes.derive found pod).run cluster).lookups)

theorem ofAgents_cases (agents : List Agent) (operator : OperatorConfig) :
    (agents.length ≠ 1 ∧
      ∃ fault, InjectionConfig.ofAgents agents operator = .error fault) ∨
    ∃ agent,
      agents = [agent] ∧
      InjectionConfig.ofAgents agents operator =
        .ok (InjectionConfig.ofSpec agent.spec operator) := by
  match agents with
  | [] =>
      exact Or.inl ⟨by decide, _, rfl⟩
  | [agent] =>
      exact Or.inr ⟨agent, rfl, rfl⟩
  | first :: second :: others =>
      exact Or.inl ⟨by simp, _, rfl⟩

theorem decide_ends
    (operator : OperatorConfig) (cluster : Cluster) (inNamespace : String)
    (pod : Pod) :
    Ends operator cluster inNamespace pod
      ((decide operator inNamespace pod).run cluster).result
      ((decide operator inNamespace pod).run cluster).lookups := by
  unfold decide
  by_cases asked : Injector.selected pod.metadata.annotations = []
  · have notConcerned : ¬ Concerned pod :=
      fun concerned => (concerned_iff.1 concerned).1 asked
    simp only [asked, List.isEmpty_nil, if_true]
    exact .unconcerned notConcerned
  · cases first : pod.firstContainer? with
    | none =>
        have notConcerned : ¬ Concerned pod := by
          intro concerned
          obtain ⟨container, found⟩ := (concerned_iff.1 concerned).2
          rw [first] at found
          cases found
        simp only [asked, List.isEmpty_iff, if_false, Option.isNone_none,
          if_true]
        exact .unconcerned notConcerned
    | some container =>
        have concerned : Concerned pod :=
          concerned_iff.2 ⟨asked, container, first⟩
        simp only [asked, List.isEmpty_iff, if_false, Option.isNone_some,
          Bool.false_eq_true, Procedure.result_run_bind,
          Procedure.lookups_run_bind, Procedure.run_namespaceCalled]
        cases isFound : cluster (.findNamespace inNamespace) with
        | error error =>
            exact .unread concerned isFound
        | ok found =>
            simp only [Procedure.result_run_bind,
              Procedure.lookups_run_bind, Procedure.run_agents]
            cases areListed : cluster .listAgents with
            | error error =>
                exact .unlisted concerned isFound areListed
            | ok agents =>
                rcases ofAgents_cases agents operator with
                  ⟨notOne, fault, refused⟩ | ⟨agent, rfl, accepted⟩
                · simp only [refused]
                  exact .unclear concerned isFound areListed notOne
                · simp only [accepted, injectInto,
                    Procedure.result_run_bind, Procedure.lookups_run_bind,
                    Procedure.run_logAll, Procedure.run_log,
                    Procedure.run_pure, List.append_nil]
                  exact .patched concerned isFound areListed

/-! ## Errors and events -/

theorem keeps_injectInto
    (inNamespace : String) (found : Namespace) (pod : Pod)
    (injectors : List Injector) (config : InjectionConfig) :
    (injectInto inNamespace found pod injectors config).Keeps
      (fun _ => True) Event.NoError fun _ => True := by
  unfold injectInto
  refine
    ((Attributes.keeps_derive found pod).weaken (fun _ _ => trivial)).bind
      fun attributes _ => ?_
  refine (Procedure.keeps_logAll ?_).bind fun _ _ => ?_
  · intro event member
    obtain ⟨piece, _, rfl⟩ := List.mem_map.1 member
    nofun
  · refine Procedure.Keeps.log_bind ?_ trivial
    split <;> nofun

/-- Errors are prerequisites that are missing, and nothing worse than a
warning is logged. -/
theorem keeps_decide
    (operator : OperatorConfig) (inNamespace : String) (pod : Pod) :
    (decide operator inNamespace pod).Keeps (fun _ => True)
      Event.NoError fun result =>
        ∀ error, result = .error error → error.isPrerequisite := by
  unfold decide
  by_cases asked :
      (Injector.selected pod.metadata.annotations).isEmpty
  · rw [if_pos asked]
    exact .log_bind nofun nofun
  · rw [if_neg asked]
    by_cases empty : pod.firstContainer?.isNone
    · rw [if_pos empty]
      exact .log_bind nofun nofun
    · rw [if_neg empty]
      refine ⟨trivial, fun answer => ?_⟩
      cases answer with
      | error error =>
          rintro _ ⟨⟩
          rfl
      | ok found =>
          refine ⟨trivial, fun answer => ?_⟩
          cases answer with
          | error error =>
              rintro _ ⟨⟩
              rfl
          | ok agents =>
              dsimp only [Procedure.bind]
              cases InjectionConfig.ofAgents agents operator with
              | error fault =>
                  rintro _ ⟨⟩
                  rfl
              | ok config =>
                  exact
                    (keeps_injectInto inNamespace found pod _ config).bind
                      fun mutation _ => nofun

end PodTelemetry.Mutation
