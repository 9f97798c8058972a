import PodTelemetry.Proofs.Attributes.RoundTrip
import PodTelemetry.Proofs.Injection.Injectors

/-!
# Injection into a pod that was injected into

An injector finds its own work and leaves it as it is, on success and on
failure, and it leaves the work of the others as it is.  So a sequence of
injectors that is run again changes nothing and ends with the same fault.
-/

namespace PodTelemetry.Injection

open PodTelemetry.Attributes (Settled declares)
open PodTelemetry.Kubernetes

variable {context : InjectionContext} {pod : Pod} {container : Container}
variable {env : List EnvVar}

/-! ## Configured variables -/

/-- The exporter is configured for the pod in these variables. -/
structure Configured
    (context : InjectionContext) (pod : Pod) (env : List EnvVar) : Prop where
  plain : hasSourcedAttributes env = false
  complete :
    ∃ merged : Attributes,
      env.find? declares = some (declaration merged) ∧
      Attributes.overlay context.attributes
          (Attributes.piecesOf merged.text) =
        merged ∧
      ∀ entry ∈
          exporterVariables context.config
            (Attributes.serviceName merged pod),
        entry ∈ env

/-- Commas and equals signs would be read as more pairs than were written. -/
theorem configured_configuredFor
    (settled : Settled context.attributes) (pod : Pod)
    (plain : hasSourcedAttributes env = false) :
    Configured context pod (configuredFor context pod env) := by
  refine
    ⟨hasSourcedAttributes_configuredVariables plain,
      (context.attributes.mergedWith env).attributes,
      find?_declares_configuredVariables,
      Attributes.overlay_mergedWith settled env, ?_⟩
  exact fun entry member => mem_configuredVariables_of_exporter member

theorem Configured.configuredFor_eq
    (configured : Configured context pod env) :
    configuredFor context pod env = env := by
  obtain ⟨merged, isFirst, sameMerged, present⟩ := configured.complete
  obtain ⟨index, isIndex, isDeclaration⟩ := exists_findIdx?_of_find? isFirst
  have pieces := Attributes.declaredPieces_of_find? isFirst rfl
  have attributes :
      (context.attributes.mergedWith env).attributes = merged := by
    simp only [Attributes.mergedWith, pieces, sameMerged]
  have place :
      (context.attributes.mergedWith env).existingIndex = some index :=
    isIndex
  unfold configuredFor configuredVariables
  simp only [attributes, place]
  change
    withAdditions (env.set index (declaration merged))
        (exporterVariables context.config
          (Attributes.serviceName merged pod)) =
      env
  rw [set_of_getElem? isDeclaration]
  exact withAdditions_of_subset present

/-- Options for Java do not disturb the exporter's configuration. -/
theorem Configured.javaVariables
    (configured : Configured context pod env) {result : List EnvVar}
    (reached : javaVariables? env = some result) :
    Configured context pod result := by
  obtain ⟨merged, isFirst, sameMerged, present⟩ := configured.complete
  refine
    ⟨hasSourcedAttributes_javaVariables reached configured.plain, merged, ?_,
      sameMerged, fun entry member => ?_⟩
  · rw [find?_declares_javaVariables reached]
    exact isFirst
  · exact
      mem_javaVariables reached (present entry member)
        (not_holdsJavaOptions_of_mem_exporterVariables member)

/-! ## Pods that report the same service -/

/-- The service name comes out the same, whatever the attributes. -/
def SameService (first second : Pod) : Prop :=
  ∀ attributes,
    Attributes.serviceName attributes first =
      Attributes.serviceName attributes second

theorem sameService_of_metadata
    {other : Pod}
    (app :
      other.metadata.annotation? Annotation.app =
        pod.metadata.annotation? Annotation.app)
    (appName :
      other.metadata.annotation? Annotation.appName =
        pod.metadata.annotation? Annotation.appName)
    (name :
      (other.firstContainer?.map fun first => first.name) =
        pod.firstContainer?.map fun first => first.name) :
    SameService other pod := by
  intro attributes
  unfold Attributes.serviceName Attributes.serviceNameSources
  rw [app, appName, name]

theorem sameService_withVariables
    (found : pod.firstContainer? = some container) (env : List EnvVar) :
    SameService (withVariables env pod) pod := by
  refine sameService_of_metadata rfl rfl ?_
  rw [firstContainer?_withVariables found, found]
  rfl

theorem sameService_withAgent
    (found : pod.firstContainer? = some container)
    (image : String) (env : List EnvVar) :
    SameService (withAgent image env pod) pod := by
  refine sameService_of_metadata rfl rfl ?_
  rw [firstContainer?_withAgent found, found]
  rfl

theorem Configured.of_sameService
    {other : Pod} (configured : Configured context pod env)
    (same : SameService other pod) :
    Configured context other env := by
  obtain ⟨merged, isFirst, sameMerged, present⟩ := configured.complete
  refine ⟨configured.plain, merged, isFirst, sameMerged, ?_⟩
  rw [same merged]
  exact present

/-! ## Work that is found again -/

theorem variables_of_env (present : container.env = some env) :
    container.variables = env := by
  rw [Container.variables, present]
  rfl

theorem withVariables_of_present
    (found : pod.firstContainer? = some container)
    (present : container.env = some env) :
    withVariables env pod = pod := by
  apply Pod.updateFirstContainer_of_fixed found
  rw [← present]

theorem withAgent_withAgent (image : String) (env : List EnvVar) (pod : Pod) :
    withAgent image env (withAgent image env pod) =
      withAgent image env pod := by
  unfold withAgent Pod.updateFirstContainer
  cases pod.spec with
  | none =>
      rfl
  | some spec =>
      cases containers : spec.containers with
      | nil =>
          simp [containers, withAgentLoaded, withNamed_withNamed]
      | cons first others =>
          simp [containers, withAgentLoaded, withAgentMounted,
            withNamed_withNamed]

/-- An injector succeeds and changes nothing. -/
def Stable
    (context : InjectionContext) (injector : Injector) (pod : Pod) : Prop :=
  (injector.inject context pod).fault = none ∧
    (injector.inject context pod).pod = pod

theorem stable_config
    (found : pod.firstContainer? = some container)
    (present : container.env = some env)
    (configured : Configured context pod env) :
    Stable context .config pod := by
  have isEnv := variables_of_env present
  rcases injectConfig_cases context found with
    ⟨sourced, _, _⟩ | ⟨_, fault, isPod⟩
  · rw [isEnv, configured.plain] at sourced
    cases sourced
  · rw [isEnv, configured.configuredFor_eq,
      withVariables_of_present found present] at isPod
    exact ⟨fault, isPod⟩

/-- The pod in which the Java agent was loaded has it loaded already. -/
theorem stable_java
    (found : pod.firstContainer? = some container)
    (present : container.env = some env)
    (configured : Configured context pod env)
    (reached : javaVariables? env = some env)
    (loaded : withAgent context.config.javaImage env pod = pod) :
    Stable context .java pod := by
  have isEnv := variables_of_env present
  rcases injectJava_cases context found with
    ⟨sourced, _, _⟩ | ⟨_, refused, _, _⟩ | ⟨_, other, isOther, fault, isPod⟩
  · rw [isEnv, configured.plain] at sourced
    cases sourced
  · rw [isEnv, configured.configuredFor_eq, reached] at refused
    cases refused
  · rw [isEnv, configured.configuredFor_eq] at isOther isPod
    rw [reached] at isOther
    cases isOther
    rw [withVariables_of_present found present, loaded] at isPod
    exact ⟨fault, isPod⟩

theorem injectJava_of_refused
    (found : pod.firstContainer? = some container)
    (present : container.env = some env)
    (configured : Configured context pod env)
    (refused : javaVariables? env = none) :
    (injectJava context pod).fault = some .sourcedJavaOptions ∧
      (injectJava context pod).pod = pod := by
  have isEnv := variables_of_env present
  rcases injectJava_cases context found with
    ⟨sourced, _, _⟩ | ⟨_, _, fault, isPod⟩ | ⟨_, other, reached, _, _⟩
  · rw [isEnv, configured.plain] at sourced
    cases sourced
  · rw [isEnv, configured.configuredFor_eq,
      withVariables_of_present found present] at isPod
    exact ⟨fault, isPod⟩
  · rw [isEnv, configured.configuredFor_eq, refused] at reached
    cases reached

theorem configured_withVariables
    (settled : Settled context.attributes)
    (found : pod.firstContainer? = some container)
    (plain : hasSourcedAttributes container.variables = false) :
    let configured := configuredFor context pod container.variables
    Configured context (withVariables configured pod) configured := by
  intro configured
  exact
    (configured_configuredFor settled pod plain).of_sameService
      (sameService_withVariables found configured)

theorem stable_of_injectConfig
    (settled : Settled context.attributes)
    (found : pod.firstContainer? = some container)
    (plain : hasSourcedAttributes container.variables = false) :
    Stable context .config
      (withVariables (configuredFor context pod container.variables)
        pod) :=
  stable_config (firstContainer?_withVariables found _) rfl
    (configured_withVariables settled found plain)

/-- After the Java agent was loaded, both injectors find their work. -/
theorem stable_withAgent
    (found : pod.firstContainer? = some container)
    (configured : Configured context pod env) {result : List EnvVar}
    (reached : javaVariables? env = some result) :
    let loaded := withAgent context.config.javaImage result pod
    Stable context .config loaded ∧ Stable context .java loaded := by
  intro loaded
  have first :=
    firstContainer?_withAgent found context.config.javaImage result
  have stays : Configured context loaded result :=
    (configured.javaVariables reached).of_sameService
      (sameService_withAgent found context.config.javaImage result)
  constructor
  · exact stable_config first rfl stays
  · exact
      stable_java first rfl stays (javaVariables?_javaVariables reached)
        (withAgent_withAgent _ _ _)

/-- An injector that is run again on what it left ends as it did before. -/
theorem inject_inject
    (settled : Settled context.attributes)
    (found : pod.firstContainer? = some container) (injector : Injector) :
    let injected := injector.inject context pod
    (injector.inject context injected.pod).fault = injected.fault ∧
      (injector.inject context injected.pod).pod = injected.pod := by
  intro injected
  cases injector with
  | config =>
      rcases injectConfig_cases context found with
        ⟨_, _, isPod⟩ | ⟨plain, fault, isPod⟩
      · have same : injected.pod = pod := isPod
        rw [same]
        exact ⟨rfl, isPod⟩
      · obtain ⟨againFault, againPod⟩ :=
          stable_of_injectConfig settled found plain
        rw [← isPod] at againFault againPod
        exact ⟨againFault.trans fault.symm, againPod⟩
  | java =>
      let configured := configuredFor context pod container.variables
      have first := firstContainer?_withVariables found configured
      rcases injectJava_cases context found with
        ⟨_, _, isPod⟩ | ⟨plain, refused, fault, isPod⟩ |
          ⟨plain, env, reached, fault, isPod⟩
      · have same : injected.pod = pod := isPod
        rw [same]
        exact ⟨rfl, isPod⟩
      · obtain ⟨againFault, againPod⟩ :=
          injectJava_of_refused first rfl
            (configured_withVariables settled found plain) refused
        rw [← isPod] at againFault againPod
        exact ⟨againFault.trans fault.symm, againPod⟩
      · obtain ⟨againFault, againPod⟩ :=
          (stable_withAgent first
            (configured_withVariables settled found plain) reached).2
        rw [← isPod] at againFault againPod
        exact ⟨againFault.trans fault.symm, againPod⟩

/-! ## Injectors beside each other -/

/-- Where the exporter's configuration changes nothing, it is there. -/
theorem Stable.configured
    (settled : Settled context.attributes)
    (found : pod.firstContainer? = some container)
    (stable : Stable context .config pod) :
    container.env = some container.variables ∧
      Configured context pod container.variables := by
  obtain ⟨noFault, isFixed⟩ := stable
  obtain ⟨plain, isPod⟩ := injectConfig_of_success found noFault
  have fixed :
      withVariables (configuredFor context pod container.variables) pod =
        pod :=
    isPod.symm.trans isFixed
  have first :=
    firstContainer?_withVariables found
      (configuredFor context pod container.variables)
  rw [fixed, found] at first
  have isEnv :
      container.env =
        some (configuredFor context pod container.variables) :=
    congrArg Container.env (Option.some.inj first)
  have isVariables := variables_of_env isEnv
  have configured := configured_configuredFor settled pod plain
  rw [← isVariables] at isEnv configured
  exact ⟨isEnv, configured⟩

/-- The exporter's configuration is a part of loading the Java agent. -/
theorem Stable.config_of_java
    (settled : Settled context.attributes)
    (found : pod.firstContainer? = some container)
    (stable : Stable context .java pod) :
    Stable context .config pod := by
  obtain ⟨noFault, isFixed⟩ := stable
  obtain ⟨plain, env, reached, isPod⟩ := injectJava_of_success found noFault
  have first :=
    firstContainer?_withVariables found
      (configuredFor context pod container.variables)
  have loaded :=
    (stable_withAgent first
      (configured_withVariables settled found plain) reached).1
  rw [← isPod, isFixed] at loaded
  exact loaded

/-- An injector leaves the work of another one as it is. -/
theorem Stable.inject
    (settled : Settled context.attributes)
    (found : pod.firstContainer? = some container)
    {injector : Injector} (stable : Stable context injector pod)
    (next : Injector) :
    Stable context injector (next.inject context pod).pod := by
  cases injector with
  | config =>
      cases next with
      | config =>
          rw [stable.2]
          exact stable
      | java =>
          obtain ⟨present, configured⟩ := stable.configured settled found
          have same := configured.configuredFor_eq
          have fixed := withVariables_of_present found present
          rcases injectJava_cases context found with
            ⟨_, _, isPod⟩ | ⟨_, _, _, isPod⟩ | ⟨_, env, reached, _, isPod⟩
          · change Stable context .config (injectJava context pod).pod
            rw [isPod]
            exact stable
          · change Stable context .config (injectJava context pod).pod
            rw [isPod, same, fixed]
            exact stable
          · change Stable context .config (injectJava context pod).pod
            rw [same] at reached isPod
            rw [isPod, fixed]
            exact (stable_withAgent found configured reached).1
  | java =>
      cases next with
      | config =>
          rw [(stable.config_of_java settled found).2]
          exact stable
      | java =>
          rw [stable.2]
          exact stable

/-- Run again, a sequence of injectors changes nothing and ends with the same
fault; what was in order before it ran is in order still. -/
theorem injectAll_injectAll
    (settled : Settled context.attributes)
    (found : pod.firstContainer? = some container)
    (injectors : List Injector) :
    let injected := Injector.injectAll context pod injectors
    (∀ injector, Stable context injector pod →
      Stable context injector injected.pod) ∧
    (Injector.injectAll context injected.pod injectors).fault =
      injected.fault ∧
    (Injector.injectAll context injected.pod injectors).pod =
      injected.pod := by
  -- What the first injector settled has to outlast the rest, so that this is
  -- shown along with the result.
  induction injectors generalizing pod container with
  | nil =>
      exact ⟨fun _ stable => stable, rfl, rfl⟩
  | cons injector rest inductionHypothesis =>
      obtain ⟨next, isNext, _⟩ := (stepped_inject context found injector).first
      have again := inject_inject settled found injector
      have stays :
          ∀ other, Stable context other pod →
            Stable context other (injector.inject context pod).pod :=
        fun other stable => stable.inject settled found injector
      simp only [Injector.injectAll]
      cases outcome : (injector.inject context pod).fault with
      | some fault =>
          have failsAgain := again.1.trans outcome
          simp only [failsAgain]
          exact ⟨stays, outcome.symm, again.2⟩
      | none =>
          have stable :
              Stable context injector (injector.inject context pod).pod :=
            ⟨again.1.trans outcome, again.2⟩
          obtain ⟨restStays, restFault, restPod⟩ :=
            inductionHypothesis isNext
          have stableStill := restStays injector stable
          simp only [stableStill.1, stableStill.2]
          exact
            ⟨fun other before => restStays other (stays other before),
              restFault, restPod⟩

/-! ## Other metadata -/

section Metadata

variable {metadata : ObjectMeta}

/-- Injection looks at the annotations that name the service, and at no
others. -/
theorem injectConfig_withMetadata
    (context : InjectionContext)
    (app :
      metadata.annotation? Annotation.app =
        pod.metadata.annotation? Annotation.app)
    (appName :
      metadata.annotation? Annotation.appName =
        pod.metadata.annotation? Annotation.appName) :
    injectConfig context { pod with metadata } =
      { injectConfig context pod with
        pod := { (injectConfig context pod).pod with metadata } } := by
  have service : SameService { pod with metadata } pod :=
    sameService_of_metadata app appName rfl
  have first :
      ({ pod with metadata } : Pod).firstContainer? = pod.firstContainer? :=
    rfl
  unfold injectConfig
  rw [first]
  cases pod.firstContainer? with
  | none =>
      rfl
  | some container =>
      dsimp only
      rw [service]
      cases hasSourcedAttributes container.variables <;> rfl

theorem inject_withMetadata
    (context : InjectionContext)
    (app :
      metadata.annotation? Annotation.app =
        pod.metadata.annotation? Annotation.app)
    (appName :
      metadata.annotation? Annotation.appName =
        pod.metadata.annotation? Annotation.appName)
    (injector : Injector) :
    injector.inject context { pod with metadata } =
      { injector.inject context pod with
        pod := { (injector.inject context pod).pod with metadata } } := by
  have sameConfigured := injectConfig_withMetadata context app appName
  cases injector with
  | config =>
      exact sameConfigured
  | java =>
      simp only [Injector.inject, injectJava, sameConfigured]
      generalize injectConfig context pod = injected
      obtain ⟨configured, fault, skipped⟩ := injected
      cases fault with
      | some fault =>
          rfl
      | none =>
          have first :
              ({ configured with metadata } : Pod).firstContainer? =
                configured.firstContainer? := rfl
          simp only [first]
          cases configured.firstContainer? with
          | none =>
              rfl
          | some container =>
              dsimp only
              cases javaVariables? container.variables <;> rfl

theorem injectAll_withMetadata
    (context : InjectionContext)
    (found : pod.firstContainer? = some container)
    (app :
      metadata.annotation? Annotation.app =
        pod.metadata.annotation? Annotation.app)
    (appName :
      metadata.annotation? Annotation.appName =
        pod.metadata.annotation? Annotation.appName)
    (injectors : List Injector) :
    Injector.injectAll context { pod with metadata } injectors =
      { Injector.injectAll context pod injectors with
        pod :=
          { (Injector.injectAll context pod injectors).pod with
            metadata } } := by
  induction injectors generalizing pod container with
  | nil =>
      rfl
  | cons injector rest inductionHypothesis =>
      have step := stepped_inject context found injector
      obtain ⟨next, isNext, _⟩ := step.first
      obtain ⟨spec, _, isStepped⟩ := step.grown
      have sameMetadata :
          (injector.inject context pod).pod.metadata = pod.metadata := by
        rw [isStepped]
      rw [← sameMetadata] at app appName
      have later := inductionHypothesis isNext app appName
      rw [sameMetadata] at app appName
      simp only [Injector.injectAll,
        inject_withMetadata context app appName injector]
      generalize injector.inject context pod = injected at later
      obtain ⟨steppedPod, fault, skipped⟩ := injected
      cases fault with
      | some fault =>
          rfl
      | none =>
          simp only [later]

end Metadata

end PodTelemetry.Injection
