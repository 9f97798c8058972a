import PodTelemetry.Proofs.Injection.Injectors

/-!
# What attributes have no influence on

The attributes of a pod show in two variables of its first container.  All
else that an injector makes of a pod depends on the configuration alone, so
that two runs with different attributes fail alike and leave pods that differ
in those variables at most.
-/

namespace PodTelemetry.Injection

open PodTelemetry.Attributes (declares)
open PodTelemetry.Kubernetes

variable {first second : InjectionContext} {left right pod : Pod}
variable {container : Container} {env result : List EnvVar}

/-! ## Variables without attributes -/

/-- Whether a variable is neither the declaration of attributes nor the name
of the service. -/
def isIndependent (entry : EnvVar) : Bool :=
  entry.name ≠ Env.resourceAttributes ∧ entry.name ≠ Env.serviceName

/-- The pod without the variables of its first container that attributes show
in. -/
def withoutAttributes (pod : Pod) : Pod :=
  pod.updateFirstContainer fun container =>
    { container with
      env := container.env.map fun env => env.filter isIndependent }

theorem not_isIndependent_of_declares
    {entry : EnvVar} (isDeclaration : declares entry) :
    isIndependent entry = false := by
  have named : entry.name = Env.resourceAttributes := by
    simpa [declares] using isDeclaration
  simp [isIndependent, named]

theorem isIndependent_of_holdsJavaOptions
    {entry : EnvVar} (holds : holdsJavaOptions entry) :
    isIndependent entry := by
  have named : entry.name = Env.javaOptions := by
    simpa [holdsJavaOptions] using holds
  rw [isIndependent, named]
  decide

theorem isIndependent_exporterVariables
    (config : InjectionConfig) (service : String) :
    (exporterVariables config service).filter isIndependent =
      [hostVariable, EnvVar.literal Env.endpoint config.endpoint,
        EnvVar.literal Env.tracesExporter config.exporter.name] := by
  have names :
      isIndependent hostVariable ∧
        (∀ value, isIndependent (EnvVar.literal Env.endpoint value)) ∧
        (∀ value, isIndependent (EnvVar.literal Env.tracesExporter value)) ∧
        ∀ value,
          isIndependent (EnvVar.literal Env.serviceName value) = false := by
    have endpoint :
        Env.endpoint ≠ Env.resourceAttributes ∧
          Env.endpoint ≠ Env.serviceName := by
      decide
    have exporter :
        Env.tracesExporter ≠ Env.resourceAttributes ∧
          Env.tracesExporter ≠ Env.serviceName := by
      decide
    refine
      ⟨by decide, fun _ => decide_eq_true endpoint,
        fun _ => decide_eq_true exporter, ?_⟩
    simp [isIndependent, EnvVar.literal]
  simp [exporterVariables, names]

/-- The other variables come out the same whatever the attributes and the
service name. -/
theorem isIndependent_configuredFor
    (sameConfig : first.config = second.config)
    {other : List EnvVar}
    (sameOthers : env.filter isIndependent = other.filter isIndependent) :
    (configuredFor first left env).filter isIndependent =
      (configuredFor second right other).filter isIndependent := by
  have notDeclared :
      ∀ entry, declares entry → isIndependent entry = false :=
    fun _ => not_isIndependent_of_declares
  unfold configuredFor
  dsimp only
  rw [filter_configuredVariables notDeclared,
    filter_configuredVariables notDeclared, isIndependent_exporterVariables,
    isIndependent_exporterVariables, sameConfig, sameOthers]

/-! ## Options for Java -/

theorem find?_holdsJavaOptions_filter (env : List EnvVar) :
    (env.filter isIndependent).find? holdsJavaOptions =
      env.find? holdsJavaOptions := by
  rw [List.find?_filter]
  congr 1
  funext entry
  cases holds : holdsJavaOptions entry with
  | false =>
      simp
  | true =>
      simpa using isIndependent_of_holdsJavaOptions holds

theorem javaVariables?_filter_eq_none_iff :
    javaVariables? (env.filter isIndependent) = none ↔
      javaVariables? env = none := by
  rw [javaVariables?_eq_none_iff, javaVariables?_eq_none_iff,
    find?_holdsJavaOptions_filter]

/-- The agent's option goes into the other variables as into all of them. -/
theorem javaVariables?_filter
    (reached : javaVariables? env = some result) :
    javaVariables? (env.filter isIndependent) =
      some (result.filter isIndependent) := by
  rcases javaVariables?_places reached with
    ⟨absent, rfl⟩ |
      ⟨front, entry, back, rfl, others, holds, unsourced, rfl⟩
  · have isKept :
        isIndependent
          (EnvVar.literal Env.javaOptions Instrumentation.agentOption) :=
      isIndependent_of_holdsJavaOptions (by decide)
    rw [javaVariables?_of_absent fun entry member =>
        absent entry (List.mem_of_mem_filter member),
      List.filter_append, List.filter_singleton, isKept, cond_true]
  · have isKept := isIndependent_of_holdsJavaOptions holds
    let rewritten : EnvVar :=
      { entry with
        value := some (withAgentOption (entry.value.getD "")) }
    have isKeptStill : isIndependent rewritten :=
      isIndependent_of_holdsJavaOptions holds
    have othersStill :
        ∀ other ∈ front.filter isIndependent,
          holdsJavaOptions other = false :=
      fun other member => others other (List.mem_of_mem_filter member)
    rw [List.filter_append, List.filter_append,
      List.filter_cons_of_pos isKept, List.filter_cons_of_pos isKeptStill,
      javaVariables?_append_cons othersStill holds unsourced]

theorem isIndependent_javaVariables
    {other otherResult : List EnvVar}
    (sameOthers : env.filter isIndependent = other.filter isIndependent)
    (reached : javaVariables? env = some result)
    (otherReached : javaVariables? other = some otherResult) :
    result.filter isIndependent = otherResult.filter isIndependent := by
  have one := javaVariables?_filter reached
  rw [sameOthers, javaVariables?_filter otherReached] at one
  exact (Option.some.inj one).symm

/-! ## Pods without attributes -/

theorem withoutAttributes_withVariables (env : List EnvVar) (pod : Pod) :
    withoutAttributes (withVariables env pod) =
      withVariables (env.filter isIndependent) (withoutAttributes pod) := by
  unfold withoutAttributes withVariables
  rw [Pod.updateFirstContainer_updateFirstContainer,
    Pod.updateFirstContainer_updateFirstContainer]
  rfl

theorem withoutAttributes_withAgent
    (image : String) (env : List EnvVar) (pod : Pod) :
    withoutAttributes (withAgent image env pod) =
      withAgent image (env.filter isIndependent) (withoutAttributes pod) := by
  unfold withoutAttributes withAgent Pod.updateFirstContainer
  cases pod.spec with
  | none =>
      rfl
  | some spec =>
      cases containers : spec.containers <;>
        simp [containers, withAgentLoaded, withAgentMounted]

/-- Pods that differ in the variables at most that attributes show in, and
that injection into fails alike. -/
structure Alike (left right : Pod) : Prop where
  rest : withoutAttributes left = withoutAttributes right
  sourced :
    (left.firstContainer?.map fun container =>
        hasSourcedAttributes container.variables) =
      right.firstContainer?.map fun container =>
        hasSourcedAttributes container.variables

theorem Alike.refl (pod : Pod) : Alike pod pod := ⟨rfl, rfl⟩

theorem Alike.firstContainer?_eq_some
    (alike : Alike left right)
    (found : left.firstContainer? = some container) :
    ∃ other,
      right.firstContainer? = some other ∧
      container.variables.filter isIndependent =
        other.variables.filter isIndependent ∧
      hasSourcedAttributes container.variables =
        hasSourcedAttributes other.variables := by
  have rest := congrArg Pod.firstContainer? alike.rest
  have sourced := alike.sourced
  unfold withoutAttributes at rest
  rw [Pod.firstContainer?_updateFirstContainer,
    Pod.firstContainer?_updateFirstContainer, found] at rest
  rw [found] at sourced
  cases isOther : right.firstContainer? with
  | none =>
      rw [isOther] at rest
      cases rest
  | some other =>
      rw [isOther] at rest sourced
      refine ⟨other, rfl, ?_, Option.some.inj sourced⟩
      have sameEnv := congrArg Container.env (Option.some.inj rest)
      have sameVariables :=
        congrArg (fun env : Option (List EnvVar) => env.getD []) sameEnv
      have filtered :
          ∀ env : Option (List EnvVar),
            (env.map fun env => env.filter isIndependent).getD [] =
              (env.getD []).filter isIndependent := by
        intro env
        cases env <;> rfl
      dsimp only at sameVariables
      rw [filtered, filtered] at sameVariables
      exact sameVariables

/-! ## Two runs -/

/-- Whatever the attributes, the same is done for alike pods. -/
theorem Alike.rest_inject
    (alike : Alike left right) (sameConfig : first.config = second.config)
    {other : Container} (found : left.firstContainer? = some container)
    (otherFound : right.firstContainer? = some other)
    (sameOthers :
      container.variables.filter isIndependent =
        other.variables.filter isIndependent)
    (injector : Injector)
    (sameFault :
      (injector.inject first left).fault =
        (injector.inject second right).fault) :
    withoutAttributes (injector.inject first left).pod =
      withoutAttributes (injector.inject second right).pod := by
  have configured :
      (configuredFor first left container.variables).filter isIndependent =
        (configuredFor second right other.variables).filter
          isIndependent :=
    isIndependent_configuredFor sameConfig sameOthers
  -- Both runs end in the same case, since each case has a fault of its own.
  cases injector with
  | config =>
      change
        (injectConfig first left).fault = (injectConfig second right).fault
        at sameFault
      change
        withoutAttributes (injectConfig first left).pod =
          withoutAttributes (injectConfig second right).pod
      rcases injectConfig_cases first found with
        ⟨_, fault, isPod⟩ | ⟨_, fault, isPod⟩ <;>
        rcases injectConfig_cases second otherFound with
          ⟨_, otherFault, isOther⟩ | ⟨_, otherFault, isOther⟩ <;>
        rw [fault, otherFault] at sameFault <;>
        cases sameFault
      · rw [isPod, isOther]
        exact alike.rest
      · rw [isPod, isOther, withoutAttributes_withVariables,
          withoutAttributes_withVariables, configured, alike.rest]
  | java =>
      change (injectJava first left).fault = (injectJava second right).fault
        at sameFault
      change
        withoutAttributes (injectJava first left).pod =
          withoutAttributes (injectJava second right).pod
      rcases injectJava_cases first found with
        ⟨_, fault, isPod⟩ | ⟨_, _, fault, isPod⟩ |
          ⟨_, env, reached, fault, isPod⟩ <;>
        rcases injectJava_cases second otherFound with
          ⟨_, otherFault, isOther⟩ | ⟨_, _, otherFault, isOther⟩ |
            ⟨_, otherEnv, otherReached, otherFault, isOther⟩ <;>
        rw [fault, otherFault] at sameFault <;>
        cases sameFault
      · rw [isPod, isOther]
        exact alike.rest
      · rw [isPod, isOther, withoutAttributes_withVariables,
          withoutAttributes_withVariables, configured, alike.rest]
      · rw [isPod, isOther, withoutAttributes_withAgent,
          withoutAttributes_withAgent, withoutAttributes_withVariables,
          withoutAttributes_withVariables, configured, alike.rest,
          isIndependent_javaVariables configured reached otherReached,
          sameConfig]

/-- One injector ends alike on alike pods, and leaves alike pods. -/
theorem Alike.inject
    (alike : Alike left right) (sameConfig : first.config = second.config)
    (found : left.firstContainer? = some container) (injector : Injector) :
    (injector.inject first left).fault =
        (injector.inject second right).fault ∧
      Alike (injector.inject first left).pod
        (injector.inject second right).pod := by
  obtain ⟨other, otherFound, sameOthers, sameSourced⟩ :=
    alike.firstContainer?_eq_some found
  have leftStep := stepped_inject first found injector
  have rightStep := stepped_inject second otherFound injector
  have sameRefused :
      javaVariables? container.variables = none ↔
        javaVariables? other.variables = none := by
    rw [← javaVariables?_filter_eq_none_iff, sameOthers,
      javaVariables?_filter_eq_none_iff]
  have sameFault :
      (injector.inject first left).fault =
        (injector.inject second right).fault := by
    rw [leftStep.fault, rightStep.fault]
    simp only [faultOf, sameSourced, sameRefused]
  obtain ⟨next, isNext, nextSourced, _⟩ := leftStep.first
  obtain ⟨otherNext, isOtherNext, otherSourced, _⟩ := rightStep.first
  refine
    ⟨sameFault,
      alike.rest_inject sameConfig found otherFound sameOthers injector
        sameFault, ?_⟩
  rw [isNext, isOtherNext, Option.map_some, Option.map_some, nextSourced,
    otherSourced, sameSourced]

/-- So does a sequence of injectors. -/
theorem Alike.injectAll
    (alike : Alike left right) (sameConfig : first.config = second.config)
    (found : left.firstContainer? = some container)
    (injectors : List Injector) :
    (Injector.injectAll first left injectors).fault =
        (Injector.injectAll second right injectors).fault ∧
      Alike (Injector.injectAll first left injectors).pod
        (Injector.injectAll second right injectors).pod := by
  induction injectors generalizing left right container with
  | nil =>
      exact ⟨rfl, alike⟩
  | cons injector rest inductionHypothesis =>
      obtain ⟨sameFault, stillAlike⟩ := alike.inject sameConfig found injector
      obtain ⟨next, isNext, _⟩ := (stepped_inject first found injector).first
      rw [Injector.injectAll, Injector.injectAll]
      cases outcome : (injector.inject first left).fault with
      | some fault =>
          rw [outcome] at sameFault
          rw [← sameFault]
          exact ⟨outcome.trans sameFault, stillAlike⟩
      | none =>
          rw [outcome] at sameFault
          rw [← sameFault]
          exact inductionHypothesis stillAlike isNext

end PodTelemetry.Injection
