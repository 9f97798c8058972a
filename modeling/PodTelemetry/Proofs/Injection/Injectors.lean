import PodTelemetry.Proofs.Injection.Variables
import PodTelemetry.Proofs.Kubernetes.FirstContainer

/-!
# What injectors do to a pod

Each injector is described by its cases once: whether it fails, with which
fault, and what the pod is afterwards.  From these follow the fault of a whole
sequence of injectors and the growth of the pod.
-/

namespace PodTelemetry.Injection

open PodTelemetry.Kubernetes
open PodTelemetry.Json.Decoder (Readable)

variable {context : InjectionContext} {pod : Pod} {container : Container}

/-- The pod with these variables in its first container. -/
def withVariables (env : List EnvVar) (pod : Pod) : Pod :=
  pod.updateFirstContainer fun first => { first with env := some env }

/-- The variables that the exporter's configuration makes of others. -/
def configuredFor
    (context : InjectionContext) (pod : Pod) (env : List EnvVar) :
    List EnvVar :=
  let merged := context.attributes.mergedWith env
  configuredVariables context.config
    (Attributes.serviceName merged.attributes pod) merged env

/-- The pod with these variables and the Java agent loaded. -/
def withAgent (image : String) (env : List EnvVar) (pod : Pod) : Pod :=
  let mounted := pod.updateFirstContainer (withAgentMounted env)
  { mounted with spec := mounted.spec.map (withAgentLoaded image) }

theorem firstContainer?_withVariables
    (found : pod.firstContainer? = some container) (env : List EnvVar) :
    (withVariables env pod).firstContainer? =
      some { container with env := some env } := by
  rw [withVariables, Pod.firstContainer?_updateFirstContainer, found]
  rfl

theorem firstContainer?_withAgent
    (found : pod.firstContainer? = some container)
    (image : String) (env : List EnvVar) :
    (withAgent image env pod).firstContainer? =
      some (withAgentMounted env container) := by
  have mounted :
      (pod.updateFirstContainer (withAgentMounted env)).firstContainer? =
        some (withAgentMounted env container) := by
    rw [Pod.firstContainer?_updateFirstContainer, found]
    rfl
  obtain ⟨spec, others, isSpec, containers⟩ :=
    Pod.firstContainer?_eq_some_iff.1 mounted
  refine
    Pod.firstContainer?_eq_some_iff.2
      ⟨withAgentLoaded image spec, others, ?_, containers⟩
  rw [withAgent, isSpec]
  rfl

/-! ## The cases of an injection -/

/-- The exporter is configured unless attributes are declared with a
source. -/
theorem injectConfig_cases
    (context : InjectionContext)
    (found : pod.firstContainer? = some container) :
    (hasSourcedAttributes container.variables = true ∧
      (injectConfig context pod).fault = some .sourcedAttributes ∧
      (injectConfig context pod).pod = pod) ∨
    (hasSourcedAttributes container.variables = false ∧
      (injectConfig context pod).fault = none ∧
      (injectConfig context pod).pod =
        withVariables (configuredFor context pod container.variables)
          pod) := by
  unfold injectConfig
  rw [found]
  cases sourced : hasSourcedAttributes container.variables with
  | true =>
      left
      simp [sourced]
  | false =>
      right
      simp [sourced, withVariables, configuredFor]

/-- The Java agent is loaded once the exporter is configured, unless the
options for Java have a source. -/
theorem injectJava_cases
    (context : InjectionContext)
    (found : pod.firstContainer? = some container) :
    let configured := configuredFor context pod container.variables
    (hasSourcedAttributes container.variables = true ∧
      (injectJava context pod).fault = some .sourcedAttributes ∧
      (injectJava context pod).pod = pod) ∨
    (hasSourcedAttributes container.variables = false ∧
      javaVariables? configured = none ∧
      (injectJava context pod).fault = some .sourcedJavaOptions ∧
      (injectJava context pod).pod = withVariables configured pod) ∨
    (hasSourcedAttributes container.variables = false ∧
      ∃ env,
        javaVariables? configured = some env ∧
        (injectJava context pod).fault = none ∧
        (injectJava context pod).pod =
          withAgent context.config.javaImage env
            (withVariables configured pod)) := by
  intro configured
  unfold injectJava
  rcases injectConfig_cases context found with
    ⟨sourced, fault, isPod⟩ | ⟨plain, fault, isPod⟩
  · refine Or.inl ⟨sourced, ?_⟩
    simp only [fault]
    exact ⟨trivial, isPod⟩
  · have first := firstContainer?_withVariables found configured
    have isConfigured :
        ({ container with env := some configured } : Container).variables =
          configured := rfl
    simp only [fault, isPod]
    rw [first]
    simp only [isConfigured]
    cases reached : javaVariables? configured with
    | none =>
        exact Or.inr (Or.inl ⟨plain, rfl, rfl, rfl⟩)
    | some env =>
        exact Or.inr (Or.inr ⟨plain, env, rfl, rfl, rfl⟩)

theorem inject_of_noContainers
    (missing : pod.firstContainer? = none) (injector : Injector) :
    injector.inject context pod = { pod, fault := some .noContainers } := by
  have config :
      injectConfig context pod = { pod, fault := some .noContainers } := by
    rw [injectConfig, missing]
  cases injector with
  | config =>
      exact config
  | java =>
      simp only [Injector.inject, injectJava, config]

theorem injectConfig_of_success
    (found : pod.firstContainer? = some container)
    (succeeded : (Injector.config.inject context pod).fault = none) :
    hasSourcedAttributes container.variables = false ∧
      (Injector.config.inject context pod).pod =
        withVariables (configuredFor context pod container.variables)
          pod := by
  have noFault : (injectConfig context pod).fault = none := succeeded
  rcases injectConfig_cases context found with
    ⟨_, fault, _⟩ | ⟨plain, _, isPod⟩
  · rw [noFault] at fault
    cases fault
  · exact ⟨plain, isPod⟩

theorem injectJava_of_success
    (found : pod.firstContainer? = some container)
    (succeeded : (Injector.java.inject context pod).fault = none) :
    let configured := configuredFor context pod container.variables
    hasSourcedAttributes container.variables = false ∧
      ∃ env,
        javaVariables? configured = some env ∧
        (Injector.java.inject context pod).pod =
          withAgent context.config.javaImage env
            (withVariables configured pod) := by
  have noFault : (injectJava context pod).fault = none := succeeded
  rcases injectJava_cases context found with
    ⟨_, fault, _⟩ | ⟨_, _, fault, _⟩ | ⟨plain, env, reached, _, isPod⟩
  · rw [noFault] at fault
    cases fault
  · rw [noFault] at fault
    cases fault
  · exact ⟨plain, env, reached, isPod⟩

/-! ## One injector after the other -/

/-- The fault that a sequence of injectors ends with. -/
def faultOf
    (env : List EnvVar) (injectors : List Injector) : Option InjectionFault :=
  if injectors = [] then none
  else if hasSourcedAttributes env then some .sourcedAttributes
  else if Injector.java ∈ injectors ∧ javaVariables? env = none then
    some .sourcedJavaOptions
  else none

theorem javaVariables?_configuredFor {env : List EnvVar} :
    javaVariables? (configuredFor context pod env) = none ↔
      javaVariables? env = none := by
  rw [javaVariables?_eq_none_iff, javaVariables?_eq_none_iff, configuredFor,
    holdsJavaOptions_configuredVariables.1]

theorem grown_withVariables
    (found : pod.firstContainer? = some container) {env : List EnvVar}
    (extended :
      Extends EnvVar.Revalued (Readable EnvVar.ofJson EnvVar.toJson)
        container.variables env) :
    pod.SpecGrown (withVariables env pod) := by
  apply Pod.SpecGrown.of_firstContainer
  intro first isFirst
  rw [found] at isFirst
  cases isFirst
  exact ⟨Grown.of_extends extended, .refl _, rfl⟩

theorem agentMount_readable :
    Readable VolumeMount.ofJson VolumeMount.toJson agentMount :=
  ⟨agentMount.ordered_toJson, by decide +kernel⟩

theorem agentVolume_readable :
    Readable Volume.ofJson Volume.toJson agentVolume := by
  refine ⟨?_, by decide +kernel⟩
  apply Json.ordered_ofMembers
  simp [agentVolume, Dictionary.empty]

theorem agentLoader_readable (image : String) :
    Readable Container.ofJson Container.toJson (agentLoader image) := by
  constructor
  · apply Json.ordered_ofMembers
    simp [agentLoader, Dictionary.empty, Json.ofList, Json.ordered_array_iff]
  · refine Container.ofJson_eq_ok_iff.2 ⟨_, rfl, ?_⟩
    have apart :
        ∀ key ∈ Container.carriedFields.keys,
          "command" ≠ key ∧ "image" ≠ key ∧ "name" ≠ key ∧
            "volumeMounts" ≠ key := by
      decide
    constructor
    case fits =>
      refine Json.Decoder.check_of_absent fun key known => ?_
      simp [Entries.read_sorted, apart key known, agentLoader,
        Dictionary.empty]
    case carried =>
      apply Dictionary.eq_of_get?_eq
      intro key
      rw [Json.Decoder.get?_carried (Entries.ascending_sorted _),
        Entries.read_sorted]
      by_cases known : key ∈ Container.carriedFields.keys
      · simp [apart key known, agentLoader, Dictionary.empty, Dictionary.get?]
      · simp [known, agentLoader, Dictionary.empty, Dictionary.get?]
    all_goals
      simp [Json.Decoder.optional, Json.Decoder.defaulted, agentLoader,
        Entries.read_sorted, Dictionary.empty]
    all_goals rfl

theorem grown_withAgent
    (found : pod.firstContainer? = some container)
    (image : String) {env : List EnvVar}
    (extended :
      Extends EnvVar.Revalued (Readable EnvVar.ofJson EnvVar.toJson)
        container.variables env) :
    pod.SpecGrown (withAgent image env pod) := by
  have mounted :
      pod.SpecGrown (pod.updateFirstContainer (withAgentMounted env)) := by
    apply Pod.SpecGrown.of_firstContainer
    intro first isFirst
    rw [found] at isFirst
    cases isFirst
    exact
      ⟨Grown.of_extends extended,
        grown_withNamed VolumeMount.name agentMount_readable _, rfl⟩
  refine mounted.trans (Pod.SpecGrown.of_spec fun spec => ?_)
  exact
    ⟨.refl .refl spec.containers,
      grown_withNamed Container.name (agentLoader_readable image) _,
      grown_withNamed Volume.name agentVolume_readable _, rfl⟩

/-- What can be said of a pod after an injector, whether it failed or not:
neither stage makes or hides what another one fails for. -/
structure Stepped
    (injectors : List Injector) (pod : Pod) (env : List EnvVar)
    (injected : Injected) : Prop where
  fault : injected.fault = faultOf env injectors
  grown : pod.SpecGrown injected.pod
  first :
    ∃ next,
      injected.pod.firstContainer? = some next ∧
      hasSourcedAttributes next.variables = hasSourcedAttributes env ∧
      (javaVariables? next.variables = none ↔ javaVariables? env = none)

theorem stepped_injectConfig
    (context : InjectionContext)
    (found : pod.firstContainer? = some container) :
    Stepped [.config] pod container.variables (injectConfig context pod) := by
  rcases injectConfig_cases context found with
    ⟨sourced, fault, isPod⟩ | ⟨plain, fault, isPod⟩
  · refine ⟨?_, ?_, container, ?_, rfl, Iff.rfl⟩
    · simp [fault, faultOf, sourced]
    · rw [isPod]
      exact Pod.SpecGrown.refl pod
    · rw [isPod]
      exact found
  · let configured := configuredFor context pod container.variables
    have isNext := firstContainer?_withVariables found configured
    rw [← isPod] at isNext
    refine ⟨?_, ?_, _, isNext, ?_, ?_⟩
    · simp [fault, faultOf, plain]
    · rw [isPod]
      exact grown_withVariables found (extends_configuredVariables plain)
    · rw [plain]
      exact hasSourcedAttributes_configuredVariables plain
    · exact javaVariables?_configuredFor

theorem stepped_injectJava
    (context : InjectionContext)
    (found : pod.firstContainer? = some container) :
    Stepped [.java] pod container.variables (injectJava context pod) := by
  rcases injectJava_cases context found with
    ⟨sourced, fault, isPod⟩ | ⟨plain, refused, fault, isPod⟩ |
      ⟨plain, env, reached, fault, isPod⟩
  · refine ⟨?_, ?_, container, ?_, rfl, Iff.rfl⟩
    · simp [fault, faultOf, sourced]
    · rw [isPod]
      exact Pod.SpecGrown.refl pod
    · rw [isPod]
      exact found
  · let configured := configuredFor context pod container.variables
    have isNext := firstContainer?_withVariables found configured
    rw [← isPod] at isNext
    refine ⟨?_, ?_, _, isNext, ?_, ?_⟩
    · simp [fault, faultOf, plain, javaVariables?_configuredFor.1 refused]
    · rw [isPod]
      exact grown_withVariables found (extends_configuredVariables plain)
    · rw [plain]
      exact hasSourcedAttributes_configuredVariables plain
    · exact javaVariables?_configuredFor
  · have accepted : javaVariables? container.variables ≠ none := by
      intro refused
      rw [javaVariables?_configuredFor.2 refused] at reached
      cases reached
    have isConfigured :=
      firstContainer?_withVariables found
        (configuredFor context pod container.variables)
    have isNext :=
      firstContainer?_withAgent isConfigured context.config.javaImage env
    rw [← isPod] at isNext
    refine ⟨?_, ?_, _, isNext, ?_, ?_⟩
    · simp [fault, faultOf, plain, accepted]
    · rw [isPod]
      refine
        (grown_withVariables found (extends_configuredVariables plain)).trans
          (grown_withAgent isConfigured context.config.javaImage ?_)
      exact extends_javaVariables reached
    · rw [plain]
      exact
        hasSourcedAttributes_javaVariables reached
          (hasSourcedAttributes_configuredVariables plain)
    · change javaVariables? env = none ↔ _
      rw [javaVariables?_javaVariables reached]
      simp [accepted]

theorem stepped_inject
    (context : InjectionContext)
    (found : pod.firstContainer? = some container) (injector : Injector) :
    Stepped [injector] pod container.variables
      (injector.inject context pod) := by
  cases injector with
  | config =>
      exact stepped_injectConfig context found
  | java =>
      exact stepped_injectJava context found

theorem faultOf_cons_of_some
    {env : List EnvVar} {injector : Injector} {fault : InjectionFault}
    (failed : faultOf env [injector] = some fault) (rest : List Injector) :
    faultOf env (injector :: rest) = some fault := by
  unfold faultOf at failed ⊢
  by_cases sourced : hasSourcedAttributes env
  · simpa [sourced] using failed
  · by_cases refused : javaVariables? env = none
    · cases injector with
      | config =>
          simp [sourced] at failed
      | java =>
          simpa [sourced, refused] using failed
    · simp [sourced, refused] at failed

theorem faultOf_cons_of_none
    {env next : List EnvVar} {injector : Injector}
    (succeeded : faultOf env [injector] = none)
    (sameSourced : hasSourcedAttributes next = hasSourcedAttributes env)
    (sameRefused : javaVariables? next = none ↔ javaVariables? env = none)
    (rest : List Injector) :
    faultOf env (injector :: rest) = faultOf next rest := by
  unfold faultOf at succeeded ⊢
  by_cases sourced : hasSourcedAttributes env
  · simp [sourced] at succeeded
  · simp only [sourced, sameSourced, sameRefused]
    cases injector with
    | config =>
        cases rest with
        | nil =>
            simp
        | cons second others =>
            simp
    | java =>
        have accepted : javaVariables? env ≠ none := by
          intro refused
          simp [sourced, refused] at succeeded
        simp [accepted]

/-- The variables there were before decide about the whole sequence. -/
theorem stepped_injectAll
    (context : InjectionContext)
    (found : pod.firstContainer? = some container)
    (injectors : List Injector) :
    Stepped injectors pod container.variables
      (Injector.injectAll context pod injectors) := by
  induction injectors generalizing pod container with
  | nil =>
      exact ⟨rfl, Pod.SpecGrown.refl pod, container, found, rfl, Iff.rfl⟩
  | cons injector rest inductionHypothesis =>
      have step := stepped_inject context found injector
      have stepFault := step.fault
      rw [Injector.injectAll]
      cases outcome : (injector.inject context pod).fault with
      | some fault =>
          rw [outcome] at stepFault
          dsimp only
          refine ⟨?_, step.grown, step.first⟩
          rw [outcome, faultOf_cons_of_some stepFault.symm]
      | none =>
          rw [outcome] at stepFault
          obtain ⟨next, isNext, sameSourced, sameRefused⟩ := step.first
          have later := inductionHypothesis isNext
          obtain ⟨last, isLast, lastSourced, lastRefused⟩ := later.first
          dsimp only
          refine ⟨?_, step.grown.trans later.grown, last, isLast, ?_, ?_⟩
          · rw [later.fault]
            exact
              (faultOf_cons_of_none stepFault.symm sameSourced sameRefused
                rest).symm
          · exact lastSourced.trans sameSourced
          · exact lastRefused.trans sameRefused

end PodTelemetry.Injection
