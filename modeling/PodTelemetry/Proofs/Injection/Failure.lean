import PodTelemetry.Proofs.Injection.Additive
import PodTelemetry.Proofs.Injection.Declarations

/-!
# What a failed injector leaves behind

An injector fails because of what the pod says before, and its failure leaves
no pod with half of an agent: the pod is as it was, or as the exporter's
configuration alone makes it.
-/

namespace PodTelemetry.Injection

open PodTelemetry.Kubernetes

variable {context : InjectionContext} {pod : Pod} {container : Container}
variable {env : List EnvVar}

/-! ## What an agent is loaded with -/

/-- What the Java agent is loaded with: the volumes and init containers of a
pod, and of every container the mounts and the options for Java. -/
structure Wiring where
  volumes : Option (List Volume)
  initContainers : Option (List Container)
  mounts : List (Option (List VolumeMount))
  javaOptions : List (List EnvVar)
  deriving DecidableEq

def wiringOf (spec : PodSpec) : Wiring where
  volumes := spec.volumes
  initContainers := spec.initContainers
  mounts := spec.containers.map fun each => each.volumeMounts
  javaOptions :=
    spec.containers.map fun each =>
      entriesNamed Env.javaOptions each.variables

/-- Other variables in the first container are no part of the wiring. -/
theorem wiring_withVariables
    (found : pod.firstContainer? = some container)
    (sameOptions :
      entriesNamed Env.javaOptions env =
        entriesNamed Env.javaOptions container.variables) :
    (withVariables env pod).spec.map wiringOf = pod.spec.map wiringOf := by
  obtain ⟨spec, others, isSpec, containers⟩ :=
    Pod.firstContainer?_eq_some_iff.1 found
  have isEnv :
      ({ container with env := some env } : Container).variables = env := rfl
  rw [withVariables_eq isSpec containers, isSpec]
  simp only [Option.map_some, wiringOf, containers, List.map_cons, isEnv,
    sameOptions]

/-- Configuring the exporter, whether it succeeds or not, is no part of it
either. -/
theorem wiring_injectConfig (context : InjectionContext) (pod : Pod) :
    (injectConfig context pod).pod.spec.map wiringOf =
      pod.spec.map wiringOf := by
  cases first : pod.firstContainer? with
  | none =>
      rw [injectConfig, first]
  | some container =>
      rcases injectConfig_cases context first with
        ⟨_, _, isPod⟩ | ⟨_, _, isPod⟩
      · rw [isPod]
      · rw [isPod]
        exact
          wiring_withVariables first
            filter_holdsJavaOptions_configuredVariables

/-! ## Failures -/

/-- The exporter fails before it changes anything. -/
theorem injectConfig_of_failure
    (failed : (injectConfig context pod).fault ≠ none) :
    (injectConfig context pod).pod = pod := by
  cases first : pod.firstContainer? with
  | none =>
      rw [injectConfig, first]
  | some container =>
      rcases injectConfig_cases context first with
        ⟨_, _, isPod⟩ | ⟨_, succeeded, _⟩
      · exact isPod
      · exact absurd succeeded failed

/-- The Java agent fails before it adds anything to what the exporter's
configuration makes. -/
theorem injectJava_of_failure
    (failed : (injectJava context pod).fault ≠ none) :
    (injectJava context pod).pod = (injectConfig context pod).pod := by
  unfold injectJava at failed ⊢
  generalize injectConfig context pod = configured at failed ⊢
  obtain ⟨made, fault, skipped⟩ := configured
  cases fault with
  | some fault =>
      rfl
  | none =>
      dsimp only at failed ⊢
      cases isFirst : made.firstContainer? with
      | none =>
          rfl
      | some container =>
          rw [isFirst] at failed
          dsimp only at failed ⊢
          cases reached : javaVariables? container.variables with
          | none =>
              rfl
          | some result =>
              rw [reached] at failed
              exact absurd rfl failed

theorem faultOf_config_ne_none_iff :
    faultOf env [.config] ≠ none ↔ hasSourcedAttributes env = true := by
  simp [faultOf]

theorem faultOf_java_ne_none_iff :
    faultOf env [.java] ≠ none ↔
      hasSourcedAttributes env = true ∨ javaVariables? env = none := by
  by_cases sourced : hasSourcedAttributes env = true <;>
    simp [faultOf, sourced]

/-- An injector that fails does so with an error of injection, and leaves the
pod as it was, or, for the Java agent, as the exporter's configuration alone
makes it, which has no part of an agent.  With a first container there is no
other reason than a source: of a declaration of attributes, or, for the Java
agent, of the first variable with options for Java. -/
theorem failed_injection (context : InjectionContext) (pod : Pod) :
    let config := Injector.config.inject context pod
    let java := Injector.java.inject context pod
    (config.fault ≠ none → config.pod = pod) ∧
      (java.fault ≠ none →
        java.pod = config.pod ∧
        (config.fault ≠ none → java.pod = pod) ∧
        java.pod.spec.map wiringOf = pod.spec.map wiringOf) ∧
      (∀ injector fault,
        (Injector.inject context pod injector).fault = some fault →
        fault.error.kind = .injection) ∧
      (pod.firstContainer? = none →
        ∀ injector,
          (Injector.inject context pod injector).fault =
            some .noContainers) ∧
      ∀ container, pod.firstContainer? = some container →
        let sourcedAttributes :=
          ∃ entry ∈ container.variables,
            entry.name = Env.resourceAttributes ∧ entry.valueFrom ≠ none
        let sourcedJavaOptions :=
          ∃ entry,
            container.variables.find?
                (fun entry => entry.name = Env.javaOptions) =
              some entry ∧
            entry.valueFrom ≠ none
        (config.fault ≠ none ↔ sourcedAttributes) ∧
          (java.fault ≠ none ↔ sourcedAttributes ∨ sourcedJavaOptions) := by
  intro config java
  refine
    ⟨injectConfig_of_failure, fun failed => ?_, fun _ _ _ => rfl,
      fun missing injector => ?_, fun container found => ?_⟩
  · have samePod : java.pod = config.pod := injectJava_of_failure failed
    refine ⟨samePod, fun unconfigured => ?_, ?_⟩
    · exact samePod.trans (injectConfig_of_failure unconfigured)
    · rw [samePod]
      exact wiring_injectConfig context pod
  · rw [inject_of_noContainers missing]
  · intro sourcedAttributes sourcedJavaOptions
    have configFault := (stepped_inject context found .config).fault
    have javaFault := (stepped_inject context found .java).fault
    constructor
    · rw [configFault, faultOf_config_ne_none_iff]
      exact hasSourcedAttributes_iff
    · rw [javaFault, faultOf_java_ne_none_iff]
      exact
        or_congr hasSourcedAttributes_iff javaVariables?_eq_none_iff_sourced

/-- A pod whose options for Java come from a field. -/
def sampleSourcedPod : Pod where
  spec :=
    some
      { containers :=
          [{ env := some [EnvVar.ofField Env.javaOptions "metadata.name"]
             name := "web" }] }

/-- The exporter is configured and the agent is not loaded. -/
theorem sampleSourced_failed_injection :
    let context : InjectionContext := ⟨default, Dictionary.empty⟩
    let java := Injector.java.inject context sampleSourcedPod
    java.fault ≠ none ∧
      java.pod = (Injector.config.inject context sampleSourcedPod).pod ∧
      java.pod ≠ sampleSourcedPod ∧
      java.pod.spec.map wiringOf = sampleSourcedPod.spec.map wiringOf := by
  intro context java
  obtain ⟨_, ofFailure, _, _, faults⟩ :=
    failed_injection context sampleSourcedPod
  obtain ⟨_, javaFails⟩ := faults _ rfl
  have failed : java.fault ≠ none :=
    javaFails.2 (.inr ⟨_, rfl, by decide⟩)
  obtain ⟨samePod, _, sameWiring⟩ := ofFailure failed
  exact ⟨failed, samePod, by decide +kernel, sameWiring⟩

end PodTelemetry.Injection
