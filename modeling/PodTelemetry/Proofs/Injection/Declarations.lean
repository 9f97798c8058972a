import PodTelemetry.Proofs.Injection.Injectors

/-!
# Settings that are declared again

A setting of the exporter is declared behind the declarations that there are,
unless one of them is the same.  Neither the declaration of attributes nor the
options for Java make a difference to that.
-/

namespace PodTelemetry.Injection

open PodTelemetry.Attributes (declares)
open PodTelemetry.Kubernetes

variable {context : InjectionContext} {pod : Pod} {container : Container}
variable {env : List EnvVar}

/-! ## Declarations of one name -/

/-- The declarations of a name, in order. -/
def entriesNamed (name : String) (env : List EnvVar) : List EnvVar :=
  env.filter fun entry => entry.name = name

/-- Configuring the exporter adds to the declarations of every name but the
one for attributes. -/
theorem entriesNamed_configuredVariables
    {config : InjectionConfig} {service : String} {attributes : Attributes}
    {name : String} (other : name ≠ Env.resourceAttributes) :
    entriesNamed name
        (configuredVariables config service (attributes.mergedWith env)
          env) =
      withAdditions (entriesNamed name env)
        (entriesNamed name (exporterVariables config service)) := by
  refine filter_configuredVariables fun entry isDeclaration => ?_
  have named : entry.name = Env.resourceAttributes := by
    simpa [declares] using isDeclaration
  simp [named, other.symm]

theorem entriesNamed_javaVariables
    {name : String} (other : name ≠ Env.javaOptions) {result : List EnvVar}
    (reached : javaVariables? env = some result) :
    entriesNamed name result = entriesNamed name env := by
  refine filter_javaVariables (fun entry holds => ?_) reached
  have named : entry.name = Env.javaOptions := by
    simpa [holdsJavaOptions] using holds
  simp [named, other.symm]

/-! ## Settings -/

/-- The settings that follow from the topology. -/
inductive Setting
  | exporter
  | endpoint
  deriving DecidableEq

namespace Setting

/-- The variable that the setting is declared with. -/
def name : Setting → String
  | .exporter => Env.tracesExporter
  | .endpoint => Env.endpoint

def valueIn (config : InjectionConfig) : Setting → String
  | .exporter => config.exporter.name
  | .endpoint => config.endpoint

def declarationIn (config : InjectionConfig) (setting : Setting) : EnvVar :=
  EnvVar.literal setting.name (setting.valueIn config)

/-- The declarations of the setting, in order. -/
def declarations (setting : Setting) (env : List EnvVar) : List EnvVar :=
  env.filter fun entry => entry.name = setting.name

theorem name_ne (setting : Setting) :
    Env.resourceAttributes ≠ setting.name ∧
      Env.javaOptions ≠ setting.name := by
  cases setting <;> decide

theorem declarations_exporterVariables
    (setting : Setting) (config : InjectionConfig) (service : String) :
    setting.declarations (exporterVariables config service) =
      [setting.declarationIn config] := by
  have others :
      Env.nodeAgent ≠ setting.name ∧ Env.serviceName ≠ setting.name := by
    cases setting <;> decide
  have apart : Env.endpoint ≠ Env.tracesExporter := by
    decide
  unfold declarations exporterVariables hostVariable
  cases setting <;>
    simp_all [EnvVar.literal, EnvVar.ofField, declarationIn, name, valueIn,
      apart.symm]

/-- Configuring the exporter adds one declaration at most. -/
theorem declarations_configuredVariables
    (setting : Setting) (config : InjectionConfig) (service : String)
    (attributes : Attributes) (env : List EnvVar) :
    setting.declarations
        (configuredVariables config service (attributes.mergedWith env)
          env) =
      withAdditions (setting.declarations env)
        [setting.declarationIn config] := by
  rw [← setting.declarations_exporterVariables config service]
  exact entriesNamed_configuredVariables setting.name_ne.1.symm

theorem declarations_javaVariables
    (setting : Setting) {result : List EnvVar}
    (reached : javaVariables? env = some result) :
    setting.declarations result = setting.declarations env :=
  entriesNamed_javaVariables setting.name_ne.2.symm reached

/-! ## After injection -/

/-- Unless attributes are declared with a source, an injector declares the
setting, whether it comes to its end or not. -/
theorem declarations_inject
    (setting : Setting) (context : InjectionContext)
    (found : pod.firstContainer? = some container)
    (plain : hasSourcedAttributes container.variables = false)
    (injector : Injector) :
    ∃ next,
      (injector.inject context pod).pod.firstContainer? = some next ∧
      setting.declarations next.variables =
        withAdditions (setting.declarations container.variables)
          [setting.declarationIn context.config] := by
  let configured := configuredFor context pod container.variables
  have isNext := firstContainer?_withVariables found configured
  have isDeclared :
      setting.declarations configured =
        withAdditions (setting.declarations container.variables)
          [setting.declarationIn context.config] :=
    setting.declarations_configuredVariables _ _ _ _
  cases injector with
  | config =>
      rcases injectConfig_cases context found with
        ⟨sourced, _, _⟩ | ⟨_, _, isPod⟩
      · rw [plain] at sourced
        cases sourced
      · rw [← isPod] at isNext
        exact ⟨_, isNext, isDeclared⟩
  | java =>
      rcases injectJava_cases context found with
        ⟨sourced, _, _⟩ | ⟨_, _, _, isPod⟩ | ⟨_, env, reached, _, isPod⟩
      · rw [plain] at sourced
        cases sourced
      · rw [← isPod] at isNext
        exact ⟨_, isNext, isDeclared⟩
      · have isLast :=
          firstContainer?_withAgent isNext context.config.javaImage env
        rw [← isPod] at isLast
        exact
          ⟨_, isLast,
            (setting.declarations_javaVariables reached).trans isDeclared⟩

/-- However many injectors there are, the setting is declared once. -/
theorem declarations_injectAll
    (setting : Setting) (context : InjectionContext)
    (found : pod.firstContainer? = some container)
    (plain : hasSourcedAttributes container.variables = false)
    {injectors : List Injector} (asked : injectors ≠ []) :
    ∃ last,
      (Injector.injectAll context pod injectors).pod.firstContainer? =
        some last ∧
      setting.declarations last.variables =
        withAdditions (setting.declarations container.variables)
          [setting.declarationIn context.config] := by
  induction injectors generalizing pod container with
  | nil =>
      exact absurd rfl asked
  | cons injector rest inductionHypothesis =>
      obtain ⟨next, isNext, declared⟩ :=
        setting.declarations_inject context found plain injector
      obtain ⟨stepped, isStepped, samePlain, _⟩ :=
        (stepped_inject context found injector).first
      have same : stepped = next :=
        Option.some.inj (isStepped.symm.trans isNext)
      rw [same, plain] at samePlain
      rw [Injector.injectAll]
      cases (injector.inject context pod).fault with
      | some fault =>
          exact ⟨next, isNext, declared⟩
      | none =>
          by_cases more : rest = []
          · rw [more]
            exact ⟨next, isNext, declared⟩
          · obtain ⟨last, isLast, again⟩ :=
              inductionHypothesis isNext samePlain more
            refine ⟨last, isLast, ?_⟩
            rw [again, declared]
            refine withAdditions_of_subset fun entry member => ?_
            exact mem_withAdditions (Or.inr member)

end Setting

end PodTelemetry.Injection
