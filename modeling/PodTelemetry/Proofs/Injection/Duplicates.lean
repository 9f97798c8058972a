import Mathlib.Data.List.Nodup
import PodTelemetry.Proofs.Injection.Declarations

/-!
# Names that are declared twice

Where the author declared every name once, a setting of the exporter that was
declared otherwise is declared a second time behind the author's.  No other
name is declared twice.
-/

namespace PodTelemetry.Injection

open PodTelemetry.Attributes (declares)
open PodTelemetry.Kubernetes

variable {context : InjectionContext} {pod : Pod} {container : Container}
variable {env result : List EnvVar} {name : String}

/-! ## Entries of one name -/

/-- No name is declared twice. -/
def Distinct (env : List EnvVar) : Prop :=
  (env.map fun entry => entry.name).Nodup

instance (env : List EnvVar) : Decidable (Distinct env) :=
  inferInstanceAs (Decidable (env.map fun entry => entry.name).Nodup)

theorem length_entriesNamed (name : String) (env : List EnvVar) :
    (entriesNamed name env).length =
      (env.map fun entry => entry.name).count name := by
  rw [List.count, List.countP_map, entriesNamed,
    ← List.countP_eq_length_filter]
  rfl

theorem distinct_iff :
    Distinct env ↔ ∀ name, (entriesNamed name env).length ≤ 1 := by
  simp only [length_entriesNamed]
  exact List.nodup_iff_count_le_one

theorem mem_entriesNamed {entry : EnvVar} :
    entry ∈ entriesNamed name env ↔ entry ∈ env ∧ entry.name = name := by
  simp [entriesNamed]

theorem entriesNamed_of_mem
    (distinct : Distinct env) {entry : EnvVar} (member : entry ∈ env) :
    entriesNamed entry.name env = [entry] := by
  have isEntry : entry ∈ entriesNamed entry.name env :=
    mem_entriesNamed.2 ⟨member, rfl⟩
  have single := distinct_iff.1 distinct entry.name
  cases whole : entriesNamed entry.name env with
  | nil =>
      rw [whole] at isEntry
      cases isEntry
  | cons first others =>
      rw [whole, List.length_cons] at single
      have noOthers : others = [] := List.length_eq_zero_iff.1 (by omega)
      rw [whole, noOthers, List.mem_singleton] at isEntry
      rw [noOthers, isEntry]

theorem entriesNamed_of_absent
    (absent : ∀ entry ∈ env, entry.name ≠ name) :
    entriesNamed name env = [] := by
  simpa [entriesNamed, List.filter_eq_nil_iff] using absent

theorem Distinct.sublist
    {fewer : List EnvVar} (distinct : Distinct env)
    (among : fewer.Sublist env) : Distinct fewer :=
  List.Nodup.sublist (among.map _) distinct

theorem distinct_additions
    (config : InjectionConfig) (service : String) (attributes : Attributes) :
    Distinct
      (exporterVariables config service ++ [declaration attributes]) := by
  have names :
      [Env.nodeAgent, Env.serviceName, Env.endpoint, Env.tracesExporter,
        Env.resourceAttributes].Nodup := by
    decide
  exact names

theorem entriesNamed_append (name : String) (front back : List EnvVar) :
    entriesNamed name (front ++ back) =
      entriesNamed name front ++ entriesNamed name back :=
  List.filter_append ..

/-! ## Entries of one name after injection -/

/-- The declaration of attributes is rewritten where there is one. -/
theorem length_entriesNamed_attributes
    (distinct : Distinct env) :
    (entriesNamed Env.resourceAttributes
      (configuredFor context pod env)).length ≤ 1 := by
  rcases configuredVariables_cases context.config
      (Attributes.serviceName
        (context.attributes.mergedWith env).attributes pod)
      context.attributes env with
    ⟨index, old, added, _, isOld, isDeclaration, whole, wanted⟩ |
      ⟨undeclared, added, whole, wanted⟩
  · have sameName :
        (declaration (context.attributes.mergedWith env).attributes).name =
          old.name := by
      simpa [declares, declaration, EnvVar.literal, eq_comm]
        using isDeclaration
    have noSetting : entriesNamed Env.resourceAttributes added = [] :=
      entriesNamed_of_absent fun entry member =>
        (name_of_mem_exporterVariables (wanted.subset member)).1
    rw [configuredFor, whole, entriesNamed_append, noSetting,
      List.append_nil, length_entriesNamed,
      map_set_of_getElem? isOld sameName, ← length_entriesNamed]
    exact distinct_iff.1 distinct Env.resourceAttributes
  · have nothing : entriesNamed Env.resourceAttributes env = [] := by
      refine entriesNamed_of_absent fun entry member => ?_
      simpa [declares] using List.find?_eq_none.1 undeclared entry member
    rw [configuredFor, whole, entriesNamed_append, nothing, List.nil_append]
    exact distinct_iff.1 ((distinct_additions _ _ _).sublist wanted) _

/-- Options for Java are rewritten where there are some. -/
theorem length_entriesNamed_javaOptions
    (single : (entriesNamed Env.javaOptions env).length ≤ 1)
    (reached : javaVariables? env = some result) :
    (entriesNamed Env.javaOptions result).length ≤ 1 := by
  rcases javaVariables?_cases reached with
    ⟨absent, rfl⟩ | ⟨index, entry, _, isEntry, _, _, rfl⟩
  · have nothing : entriesNamed Env.javaOptions env = [] := by
      refine entriesNamed_of_absent fun entry member => ?_
      simpa [holdsJavaOptions] using List.find?_eq_none.1 absent entry member
    rw [entriesNamed_append, nothing, List.nil_append]
    exact List.length_filter_le _ _
  · have sameName :
        { entry with
          value := some (withAgentOption (entry.value.getD "")) }.name =
          entry.name := rfl
    rw [length_entriesNamed, map_set_of_getElem? isEntry sameName,
      ← length_entriesNamed]
    exact single

/-! ## After a success -/

/-- What an injector that succeeds makes of the variables. -/
def Reached
    (context : InjectionContext) (pod : Pod) (env result : List EnvVar) :
    Prop :=
  result = configuredFor context pod env ∨
    javaVariables? (configuredFor context pod env) = some result

theorem reached_of_success
    (found : pod.firstContainer? = some container) {injector : Injector}
    (succeeded : (injector.inject context pod).fault = none) :
    ∃ next,
      (injector.inject context pod).pod.firstContainer? = some next ∧
      Reached context pod container.variables next.variables := by
  have isNext :=
    firstContainer?_withVariables found
      (configuredFor context pod container.variables)
  cases injector with
  | config =>
      obtain ⟨_, isPod⟩ := injectConfig_of_success found succeeded
      rw [← isPod] at isNext
      exact ⟨_, isNext, Or.inl rfl⟩
  | java =>
      obtain ⟨_, env, reached, isPod⟩ :=
        injectJava_of_success found succeeded
      have isLast :=
        firstContainer?_withAgent isNext context.config.javaImage env
      rw [← isPod] at isLast
      exact ⟨_, isLast, Or.inr reached⟩

theorem Reached.entriesNamed_eq
    (reached : Reached context pod env result)
    (other : name ≠ Env.javaOptions) :
    entriesNamed name result =
      entriesNamed name (configuredFor context pod env) := by
  rcases reached with same | reached
  · rw [same]
  · exact entriesNamed_javaVariables other reached

theorem Reached.length_attributes
    (reached : Reached context pod env result) (distinct : Distinct env) :
    (entriesNamed Env.resourceAttributes result).length ≤ 1 := by
  rw [reached.entriesNamed_eq (by decide)]
  exact length_entriesNamed_attributes distinct

theorem Reached.length_javaOptions
    (reached : Reached context pod env result) (distinct : Distinct env) :
    (entriesNamed Env.javaOptions result).length ≤ 1 := by
  have single :
      (entriesNamed Env.javaOptions
        (configuredFor context pod env)).length ≤ 1 := by
    have same :
        entriesNamed Env.javaOptions (configuredFor context pod env) =
          entriesNamed Env.javaOptions env :=
      filter_holdsJavaOptions_configuredVariables
    rw [same]
    exact distinct_iff.1 distinct Env.javaOptions
  rcases reached with same | reached
  · rw [same]
    exact single
  · exact length_entriesNamed_javaOptions single reached

/-- Both declare one name, and not in the same way. -/
def Conflict (entry setting : EnvVar) : Prop :=
  entry.name = setting.name ∧ entry ≠ setting

instance (entry setting : EnvVar) : Decidable (Conflict entry setting) :=
  inferInstanceAs
    (Decidable (entry.name = setting.name ∧ entry ≠ setting))

theorem length_withAdditions_le_one
    {settings : List EnvVar} (distinct : Distinct env)
    (distinctSettings : Distinct settings)
    (noConflict :
      ∀ entry ∈ env, ∀ setting ∈ settings, Conflict entry setting →
        setting.name ≠ name) :
    (withAdditions (entriesNamed name env)
      (entriesNamed name settings)).length ≤ 1 := by
  -- With a declaration there already, the setting is that declaration.
  by_cases undeclared : entriesNamed name env = []
  · obtain ⟨added, whole, wanted⟩ :=
      exists_withAdditions_eq_append [] (entriesNamed name settings)
    rw [undeclared, whole, List.nil_append]
    exact Nat.le_trans wanted.length_le (distinct_iff.1 distinctSettings name)
  · obtain ⟨entry, isEntry⟩ := List.exists_mem_of_ne_nil _ undeclared
    obtain ⟨isOld, named⟩ := mem_entriesNamed.1 isEntry
    have present :
        ∀ setting ∈ entriesNamed name settings,
          setting ∈ entriesNamed name env := by
      intro setting member
      obtain ⟨isSetting, settingNamed⟩ := mem_entriesNamed.1 member
      have same : entry = setting := by
        by_contra different
        exact
          noConflict entry isOld setting isSetting
            ⟨named.trans settingNamed.symm, different⟩ settingNamed
      rw [← same]
      exact isEntry
    rw [withAdditions_of_subset present]
    exact distinct_iff.1 distinct name

/-- A setting that the author declared otherwise is declared a second time,
behind the author's declaration.  No other name is declared twice, whether
attributes or options for Java were declared or not. -/
theorem declared_twice
    (context : InjectionContext)
    (found : pod.firstContainer? = some container)
    (distinct : Distinct container.variables) {injector : Injector}
    (succeeded : (injector.inject context pod).fault = none) :
    let olds := container.variables
    let settings :=
      exporterVariables context.config
        (Attributes.serviceName
          (context.attributes.mergedWith olds).attributes pod)
    ∃ next,
      (injector.inject context pod).pod.firstContainer? = some next ∧
      (∀ entry ∈ olds, ∀ setting ∈ settings, Conflict entry setting →
        entriesNamed setting.name next.variables = [entry, setting]) ∧
      (∀ name,
        (∀ entry ∈ olds, ∀ setting ∈ settings, Conflict entry setting →
          setting.name ≠ name) →
        (entriesNamed name next.variables).length ≤ 1) ∧
      (Distinct next.variables ↔
        ∀ entry ∈ olds, ∀ setting ∈ settings, ¬ Conflict entry setting) := by
  intro olds settings
  obtain ⟨next, isNext, reached⟩ := reached_of_success found succeeded
  have distinctSettings : Distinct settings :=
    (distinct_additions _ _ .empty).sublist (List.sublist_append_left _ _)
  have twice :
      ∀ entry ∈ olds, ∀ setting ∈ settings, Conflict entry setting →
        entriesNamed setting.name next.variables = [entry, setting] := by
    rintro entry isOld setting isSetting ⟨sameName, different⟩
    obtain ⟨notAttributes, notOptions⟩ :=
      name_of_mem_exporterVariables isSetting
    have old := entriesNamed_of_mem distinct isOld
    rw [sameName] at old
    have absent : setting ∉ [entry] := by
      simpa using different.symm
    rw [reached.entriesNamed_eq notOptions,
      configuredFor, entriesNamed_configuredVariables notAttributes, old,
      entriesNamed_of_mem distinctSettings isSetting, withAdditions_cons,
      if_neg absent]
    rfl
  have once :
      ∀ name,
        (∀ entry ∈ olds, ∀ setting ∈ settings, Conflict entry setting →
          setting.name ≠ name) →
        (entriesNamed name next.variables).length ≤ 1 := by
    intro name noConflict
    -- Attributes and options for Java are rewritten in place, so that no
    -- addition has to agree with what the author declared.
    by_cases isAttributes : name = Env.resourceAttributes
    · rw [isAttributes]
      exact reached.length_attributes distinct
    · by_cases isOptions : name = Env.javaOptions
      · rw [isOptions]
        exact reached.length_javaOptions distinct
      · rw [reached.entriesNamed_eq isOptions, configuredFor,
          entriesNamed_configuredVariables isAttributes]
        exact
          length_withAdditions_le_one distinct distinctSettings noConflict
  refine ⟨next, isNext, twice, once, fun distinctNext => ?_, ?_⟩
  · intro entry isOld setting isSetting conflict
    have single := distinct_iff.1 distinctNext setting.name
    rw [twice entry isOld setting isSetting conflict] at single
    simp at single
  · intro noConflict
    refine distinct_iff.2 fun name => once name ?_
    exact fun entry isOld setting isSetting conflict =>
      absurd conflict (noConflict entry isOld setting isSetting)

/-- The author names the service, and not after the pod. -/
def sampleServiceName : EnvVar := EnvVar.literal Env.serviceName "cart"

def sampleNamed : Container where
  name := "app"
  env := some [sampleServiceName]

def sampleNamedPod : Pod where
  metadata := { name := some "cart-0" }
  spec := some { containers := [sampleNamed] }

def sampleNamedContext : InjectionContext where
  config :=
    { exporter := .otlp, endpoint := "http://splunk:4317"
      javaImage := "agent:1" }
  attributes :=
    Dictionary.ofList
      [("k8s.container.name", "app"), ("k8s.namespace.name", "shop"),
        ("k8s.pod.name", "cart-0")]

theorem sampleNamed_declared_twice :
    ∃ next,
      (Injector.config.inject sampleNamedContext
        sampleNamedPod).pod.firstContainer? = some next ∧
      entriesNamed Env.serviceName next.variables =
        [sampleServiceName, EnvVar.literal Env.serviceName "cart-0"] ∧
      (entriesNamed Env.endpoint next.variables).length ≤ 1 := by
  have found : sampleNamedPod.firstContainer? = some sampleNamed := rfl
  have distinct : Distinct sampleNamed.variables := by decide
  have succeeded :
      (Injector.config.inject sampleNamedContext sampleNamedPod).fault =
        none := rfl
  obtain ⟨next, isNext, twice, once, _⟩ :=
    declared_twice sampleNamedContext found distinct succeeded
  refine ⟨next, isNext, ?_, once Env.endpoint ?_⟩
  · exact
      twice sampleServiceName (by decide)
        (EnvVar.literal Env.serviceName "cart-0") (by decide +kernel)
        (by decide)
  · decide +kernel

/-- The names are no longer distinct after the injector succeeded. -/
theorem sampleNamed_not_distinct :
    Distinct sampleNamed.variables ∧
    sampleNamedPod.firstContainer? = some sampleNamed ∧
    (Injector.config.inject sampleNamedContext sampleNamedPod).fault = none ∧
    ∃ next,
      (Injector.config.inject sampleNamedContext
        sampleNamedPod).pod.firstContainer? = some next ∧
      ¬ Distinct next.variables := by
  refine ⟨by decide, rfl, rfl, _, rfl, ?_⟩
  decide +kernel

end PodTelemetry.Injection
