import PodTelemetry.Proofs.Attributes.Merging
import PodTelemetry.Proofs.Injection.Injectors

/-!
# The service name that is injected

The name comes from the first of its sources that has one: the annotations,
the attributes in effect in the first container, and that container's name.
-/

namespace PodTelemetry.Injection

open PodTelemetry.Attributes
open PodTelemetry.Kubernetes

variable {pod : Pod} {container : Container}
variable {sources : List (Option String)} {name : String}

/-! ## The first source that has a name -/

/-- Nothing is known from the source: it is not there, or it is empty. -/
def Unknown (source : Option String) : Prop :=
  source = none ∨ source = some ""

theorem unknown_some_iff : Unknown (some name) ↔ name = "" := by
  simp [Unknown]

/-- The name is that of the first source that has one, and empty when none
has. -/
inductive FirstKnown : List (Option String) → String → Prop
  | nowhere : FirstKnown [] ""
  | here {name : String} {rest : List (Option String)} :
      name ≠ "" → FirstKnown (some name :: rest) name
  | later {source : Option String} {rest : List (Option String)}
      {name : String} :
      Unknown source → FirstKnown rest name → FirstKnown (source :: rest) name

theorem FirstKnown.unique
    {other : String} (first : FirstKnown sources name)
    (second : FirstKnown sources other) :
    name = other := by
  induction first with
  | nowhere =>
      cases second
      rfl
  | here known =>
      cases second with
      | here _ =>
          rfl
      | later unknown _ =>
          exact absurd (unknown_some_iff.1 unknown) known
  | later unknown _ inductionHypothesis =>
      cases second with
      | here known =>
          exact absurd (unknown_some_iff.1 unknown) known
      | later _ rest =>
          exact inductionHypothesis rest

/-- The name is empty only when every source is. -/
theorem FirstKnown.eq_empty_iff (first : FirstKnown sources name) :
    name = "" ↔ ∀ source ∈ sources, Unknown source := by
  induction first with
  | nowhere =>
      simp
  | here known =>
      simp [unknown_some_iff, known]
  | later unknown _ inductionHypothesis =>
      simp [unknown, inductionHypothesis]

/-- Searching the sources that are there, with a last resort behind them. -/
theorem firstKnown_search
    (sources : List (Option String)) (last : Option String) :
    FirstKnown (sources ++ [last])
      (((sources.filterMap id).find? (· ≠ "")).getD (last.getD "")) := by
  induction sources with
  | nil =>
      cases last with
      | none =>
          exact .later (.inl rfl) .nowhere
      | some name =>
          by_cases empty : name = ""
          · subst empty
            exact .later (.inr rfl) .nowhere
          · exact .here empty
  | cons source rest inductionHypothesis =>
      cases source with
      | none =>
          exact .later (.inl rfl) inductionHypothesis
      | some name =>
          by_cases empty : name = ""
          · subst empty
            exact .later (.inr rfl) inductionHypothesis
          · simpa [empty] using FirstKnown.here empty

theorem firstKnown_serviceName (attributes : Attributes) (pod : Pod) :
    FirstKnown
      (serviceNameSources attributes pod ++
        [pod.firstContainer?.map fun container => container.name])
      (serviceName attributes pod) := by
  have search :=
    firstKnown_search (serviceNameSources attributes pod)
      (pod.firstContainer?.map fun container => container.name)
  unfold serviceName
  cases found :
      ((serviceNameSources attributes pod).filterMap id).find? (· ≠ "") with
  | none =>
      rw [found] at search
      exact search
  | some name =>
      rw [found] at search
      exact search

/-! ## The injected name -/

theorem literal_serviceName_mem_exporterVariables
    (config : InjectionConfig) (service : String) :
    EnvVar.literal Env.serviceName service ∈
      exporterVariables config service := by
  simp [exporterVariables]

/-- When no declaration of attributes has a source, the exporter is configured
with the name from the first of eight sources that has one.  The attributes
among them are those in effect: the last pair that the container declares with
the key, empty or not, and what is derived when it declares none. -/
theorem injected_serviceName
    (cluster : Cluster) (inNamespace : Namespace) (config : InjectionConfig)
    (found : pod.firstContainer? = some container)
    (unsourced :
      ∀ entry ∈ container.variables,
        entry.name = Env.resourceAttributes → entry.valueFrom = none) :
    let derived := ((derive inNamespace pod).run cluster).result
    let injected := Injector.config.inject ⟨config, derived⟩ pod
    ∃ (effective : String → Option String) (next : Container)
      (service : String),
      (∀ key value?,
        Effective container.variables derived key value? ↔
          effective key = value?) ∧
      injected.fault = none ∧
      injected.pod.firstContainer? = some next ∧
      EnvVar.literal "OTEL_SERVICE_NAME" service ∈ next.variables ∧
      let sources :=
        [ pod.metadata.annotation? "app",
          pod.metadata.annotation? "app.kubernetes.io/name",
          effective "k8s.deployment.name",
          effective "k8s.statefulset.name",
          effective "k8s.job.name",
          effective "k8s.cronjob.name",
          effective "k8s.pod.name",
          some container.name ]
      FirstKnown sources service ∧
        (service = "" ↔ ∀ source ∈ sources, Unknown source) := by
  intro derived injected
  let context : InjectionContext := ⟨config, derived⟩
  let merged := derived.mergedWith container.variables
  have plain : hasSourcedAttributes container.variables = false := by
    refine hasSourcedAttributes_eq_false_iff.2 fun entry member is => ?_
    exact unsourced entry member (by simpa [declares] using is)
  rcases injectConfig_cases context found with
    ⟨sourced, _, _⟩ | ⟨_, succeeded, isPod⟩
  · rw [plain] at sourced
    cases sourced
  · have isNext :=
      firstContainer?_withVariables found
        (configuredFor context pod container.variables)
    rw [← isPod] at isNext
    have first := firstKnown_serviceName merged.attributes pod
    rw [found] at first
    refine
      ⟨merged.attributes.get?, _, serviceName merged.attributes pod,
        fun key value? => effective_iff, succeeded, isNext, ?_, first,
        first.eq_empty_iff⟩
    exact
      mem_configuredVariables_of_exporter
        (literal_serviceName_mem_exporterVariables config _)

/-- A container that declares some attributes: the deployment with an empty
name, a job in what is no pair, and the stateful set twice. -/
def sampleDeclaring : Container where
  env :=
    some
      [EnvVar.literal Env.resourceAttributes
        ("k8s.deployment.name= ,k8s.job.name=a=b," ++
          "k8s.statefulset.name=old,k8s.statefulset.name = db ")]
  name := "web"

def sampleDeclaringPod : Pod where
  metadata :=
    { annotations := some (Dictionary.ofList [("app", "")])
      name := some "shop-0"
      ownerReferences := some [{ kind := "ReplicaSet", name := "shop-7f" }] }
  spec := some { containers := [sampleDeclaring] }

/-- Every replica set belongs to one deployment; nothing else is there. -/
def sampleOwning : Cluster
  | .findNamespace _ => .error ⟨.configuration, "no namespaces"⟩
  | .listAgents => .ok []
  | .findReplicaSet _ _ =>
      .ok
        { metadata :=
            { ownerReferences :=
                some [{ kind := "Deployment", name := "shop" }] } }

/-- The deployment is found among the owners, and hidden by the declaration
without a name; so the name is that of the stateful set. -/
theorem sampleDeclaring_serviceName :
    let derived := ((derive {} sampleDeclaringPod).run sampleOwning).result
    derived.get? "k8s.deployment.name" = some "shop" ∧
    ∃ next,
      (Injector.config.inject ⟨default, derived⟩
        sampleDeclaringPod).pod.firstContainer? = some next ∧
      EnvVar.literal "OTEL_SERVICE_NAME" "db" ∈ next.variables := by
  intro derived
  refine ⟨by decide +kernel, ?_⟩
  have unsourced :
      ∀ entry ∈ sampleDeclaring.variables,
        entry.name = Env.resourceAttributes → entry.valueFrom = none := by
    decide
  obtain
    ⟨effective, next, service, isEffective, _, isNext, injected, first, _⟩ :=
    injected_serviceName sampleOwning {} default
      (rfl : sampleDeclaringPod.firstContainer? = some sampleDeclaring)
      unsourced
  have noApp : sampleDeclaringPod.metadata.annotation? "app" = some "" := by
    decide +kernel
  have noAppName :
      sampleDeclaringPod.metadata.annotation? "app.kubernetes.io/name" =
        none := by
    decide +kernel
  have hidden : effective "k8s.deployment.name" = some "" :=
    (isEffective _ _).1 (effective_iff.2 (by decide +kernel))
  have shown : effective "k8s.statefulset.name" = some "db" :=
    (isEffective _ _).1 (effective_iff.2 (by decide +kernel))
  rw [noApp, noAppName, hidden, shown] at first
  have isService : service = "db" :=
    first.unique
      (.later (.inr rfl)
        (.later (.inl rfl) (.later (.inr rfl) (.here (by decide)))))
  rw [isService] at injected
  exact ⟨next, isNext, injected⟩

end PodTelemetry.Injection
