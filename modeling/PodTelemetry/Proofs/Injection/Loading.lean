import PodTelemetry.Proofs.Injection.Additive
import PodTelemetry.Proofs.Text.Pieces

/-!
# Whether the Java agent is loaded

The agent is loaded when the options that count hand it over, and when its
volume is filled and mounted where they look.  After an injection that
succeeded this is so for every pod that had nothing of the kind, but not for
every pod that had something that looked like it.
-/

namespace PodTelemetry.Injection

open PodTelemetry.Kubernetes

variable {context : InjectionContext} {pod : Pod}
variable {env result : List EnvVar}

/-! ## Options that count -/

/-- The options that a text gives, between spaces. -/
def optionsOf (text : String) : List (List Char) :=
  Text.pieces ' ' text.toList

/-- The variable is a text, and the agent's option is among its options. -/
def HandsOverAgent (entry : EnvVar) : Prop :=
  entry.valueFrom = none ∧
    ∃ text,
      entry.value = some text ∧
      Instrumentation.agentOption.toList ∈ optionsOf text

/-- The agent's option stands in the text, as an option or within another. -/
def MentionsAgent (text : String) : Prop :=
  Text.contains Instrumentation.agentOption.toList text.toList

/-- The agent's option is appended to a text that does not mention it. -/
theorem mem_optionsOf_withAgentOption_iff {text : String} :
    Instrumentation.agentOption.toList ∈ optionsOf (withAgentOption text) ↔
      ¬ MentionsAgent text ∨
        Instrumentation.agentOption.toList ∈ optionsOf text := by
  have single :
      Text.pieces ' ' Instrumentation.agentOption.toList =
        [Instrumentation.agentOption.toList] :=
    Text.pieces_of_not_mem (by decide)
  by_cases mentioned : MentionsAgent text
  · rw [withAgentOption_of_contains mentioned]
    simp [mentioned]
  · have appended :
        Instrumentation.agentOption.toList ∈
          optionsOf (withAgentOption text) := by
      unfold withAgentOption
      rw [if_neg (show ¬ Text.contains _ _ from mentioned)]
      by_cases empty : text = ""
      · rw [if_pos empty, optionsOf, single]
        exact List.mem_singleton_self _
      · have whole :
            (text ++ " " ++ Instrumentation.agentOption).toList =
              text.toList ++ ' ' :: Instrumentation.agentOption.toList := by
          simp [String.toList_append]
        rw [if_neg empty, optionsOf, whole, Text.pieces_append, single]
        exact List.mem_append_right _ (List.mem_singleton_self _)
    simp [mentioned, appended]

/-- The last variable for Java options, the one that counts, hands the agent
over. -/
def HandedOver (env : List EnvVar) : Prop :=
  ∃ entry,
    (env.filter holdsJavaOptions).getLast? = some entry ∧
    HandsOverAgent entry

/-- The agent is handed over, or can be by one more option. -/
def CanHandOver (env : List EnvVar) : Prop :=
  let declared := env.filter holdsJavaOptions
  declared = [] ∨
    (∃ only, declared = [only] ∧ ¬ MentionsAgent (only.value.getD "")) ∨
    HandedOver env

theorem filter_javaVariables_eq
    (reached : javaVariables? env = some result) :
    (env.filter holdsJavaOptions = [] ∧
      result.filter holdsJavaOptions =
        [EnvVar.literal Env.javaOptions Instrumentation.agentOption]) ∨
    ∃ first others,
      env.filter holdsJavaOptions = first :: others ∧
      first.valueFrom = none ∧
      result.filter holdsJavaOptions =
        { first with
          value := some (withAgentOption (first.value.getD "")) } ::
          others := by
  rcases javaVariables?_places reached with
    ⟨absent, rfl⟩ | ⟨front, entry, back, rfl, before, holds, unsourced, rfl⟩
  · have nothing : env.filter holdsJavaOptions = [] := by
      simpa [List.filter_eq_nil_iff] using absent
    refine Or.inl ⟨nothing, ?_⟩
    rw [List.filter_append, nothing]
    decide
  · have nothing : front.filter holdsJavaOptions = [] := by
      simpa [List.filter_eq_nil_iff] using before
    have holdsStill :
        holdsJavaOptions
          { entry with
            value := some (withAgentOption (entry.value.getD "")) } := holds
    refine Or.inr ⟨entry, back.filter holdsJavaOptions, ?_, unsourced, ?_⟩
    · rw [List.filter_append, nothing, List.filter_cons_of_pos holds]
      rfl
    · rw [List.filter_append, nothing, List.filter_cons_of_pos holdsStill]
      rfl

theorem handsOverAgent_literal :
    HandsOverAgent
      (EnvVar.literal Env.javaOptions Instrumentation.agentOption) :=
  ⟨rfl, _, rfl, by decide⟩

theorem handsOverAgent_withAgentOption_iff
    {entry : EnvVar} (unsourced : entry.valueFrom = none) :
    HandsOverAgent
        { entry with
          value := some (withAgentOption (entry.value.getD "")) } ↔
      ¬ MentionsAgent (entry.value.getD "") ∨ HandsOverAgent entry := by
  have rewritten :
      HandsOverAgent
          { entry with
            value := some (withAgentOption (entry.value.getD "")) } ↔
        Instrumentation.agentOption.toList ∈
          optionsOf (withAgentOption (entry.value.getD "")) := by
    simp [HandsOverAgent, unsourced]
  rw [rewritten, mem_optionsOf_withAgentOption_iff]
  cases isValue : entry.value with
  | none =>
      have unmentioned : ¬ MentionsAgent "" := by
        unfold MentionsAgent
        decide
      simp [unmentioned]
  | some text =>
      simp [HandsOverAgent, unsourced, isValue]

/-- Only the first variable for Java options is looked at. -/
theorem handedOver_javaVariables_iff
    (reached : javaVariables? env = some result) :
    HandedOver result ↔ CanHandOver env := by
  unfold CanHandOver HandedOver
  rcases filter_javaVariables_eq reached with
    ⟨nothing, isResult⟩ | ⟨first, others, declared, unsourced, isResult⟩
  · rw [nothing, isResult]
    simp [handsOverAgent_literal]
  · rw [declared, isResult]
    -- The first declaration counts only if it is the last as well.
    by_cases more : others = []
    · subst more
      simp only [List.getLast?_singleton, Option.some.injEq,
        exists_eq_left', handsOverAgent_withAgentOption_iff unsourced]
      simp
    · have isLast := List.getLast?_eq_some_getLast more
      simp [List.getLast?_cons, isLast, more]

/-- Configuring the exporter does not touch the options for Java. -/
theorem canHandOver_configuredFor_iff :
    CanHandOver (configuredFor context pod env) ↔ CanHandOver env := by
  have same :
      (configuredFor context pod env).filter holdsJavaOptions =
        env.filter holdsJavaOptions :=
    filter_holdsJavaOptions_configuredVariables
  unfold CanHandOver HandedOver
  rw [same]

/-! ## The agent's volume -/

/-- The agent's volume is mounted where the agent's option looks for it. -/
def MountsAgent (container : Container) : Prop :=
  ∃ mount ∈ container.volumeMounts.getD [],
    mount.name = Instrumentation.volumeName ∧
    mount.mountPath = Instrumentation.mountPath

/-- An init container of the agent's name has the volume to copy the agent
to. -/
def FillsVolume (spec : PodSpec) : Prop :=
  ∃ loader ∈ spec.initContainers.getD [],
    loader.name = Instrumentation.volumeName ∧ MountsAgent loader

/-- The Java in the first container is told to load the agent and finds it. -/
structure AgentReady (spec : PodSpec) (first : Container) : Prop where
  handedOver : HandedOver first.variables
  mounted : MountsAgent first
  volume :
    ∃ volume ∈ spec.volumes.getD [],
      volume.name = Instrumentation.volumeName
  filled : FillsVolume spec

/-- Everything that the agent needs is there by name. -/
structure LooksReady (spec : PodSpec) (first : Container) : Prop where
  mentioned :
    ∃ entry text,
      first.variables.find? holdsJavaOptions = some entry ∧
      entry.valueFrom = none ∧ entry.value = some text ∧ MentionsAgent text
  mounted :
    ∃ mount ∈ first.volumeMounts.getD [],
      mount.name = Instrumentation.volumeName
  volume :
    ∃ volume ∈ spec.volumes.getD [],
      volume.name = Instrumentation.volumeName
  loader :
    ∃ loader ∈ spec.initContainers.getD [],
      loader.name = Instrumentation.volumeName

/-- Where a name that the agent needs is taken, it is taken by what the agent
needs. -/
structure CanBeReady (spec : PodSpec) (first : Container) : Prop where
  handedOver : CanHandOver first.variables
  mounted :
    MountsAgent first ∨
      ∀ mount ∈ first.volumeMounts.getD [],
        mount.name ≠ Instrumentation.volumeName
  filled :
    FillsVolume spec ∨
      ∀ loader ∈ spec.initContainers.getD [],
        loader.name ≠ Instrumentation.volumeName

theorem mountsAgent_agentLoader (image : String) :
    MountsAgent (agentLoader image) :=
  ⟨agentMount, List.mem_singleton_self _, rfl, rfl⟩

theorem mentioned_javaVariables
    (reached : javaVariables? env = some result) :
    ∃ entry text,
      result.find? holdsJavaOptions = some entry ∧
      entry.valueFrom = none ∧ entry.value = some text ∧
      MentionsAgent text := by
  rcases filter_javaVariables_eq reached with
    ⟨_, isResult⟩ | ⟨first, others, _, unsourced, isResult⟩
  · refine
      ⟨EnvVar.literal Env.javaOptions Instrumentation.agentOption, _, ?_,
        rfl, rfl, Text.contains_append _ []⟩
    rw [← List.head?_filter, isResult]
    rfl
  · refine
      ⟨{ first with
          value := some (withAgentOption (first.value.getD "")) }, _, ?_,
        unsourced, rfl, contains_withAgentOption _⟩
    rw [← List.head?_filter, isResult]
    rfl

section Records

variable {spec : PodSpec} {first : Container}

theorem mountsAgent_withAgentMounted_iff :
    MountsAgent (withAgentMounted env first) ↔
      MountsAgent first ∨
        ∀ mount ∈ first.volumeMounts.getD [],
          mount.name ≠ Instrumentation.volumeName := by
  have added :
      MountsAgent (withAgentMounted env first) ↔
        MountsAgent first ∨
          (∀ mount ∈ first.volumeMounts.getD [],
            mount.name ≠ Instrumentation.volumeName) ∧
          agentMount.mountPath = Instrumentation.mountPath :=
    exists_mem_withNamed_iff VolumeMount.name agentMount _
  have samePath : agentMount.mountPath = Instrumentation.mountPath := rfl
  rw [added, and_iff_left samePath]

theorem fillsVolume_withAgentLoaded_iff (image : String) :
    FillsVolume (withAgentLoaded image spec) ↔
      FillsVolume spec ∨
        ∀ loader ∈ spec.initContainers.getD [],
          loader.name ≠ Instrumentation.volumeName := by
  have added :
      FillsVolume (withAgentLoaded image spec) ↔
        FillsVolume spec ∨
          (∀ loader ∈ spec.initContainers.getD [],
            loader.name ≠ Instrumentation.volumeName) ∧
          MountsAgent (agentLoader image) :=
    exists_mem_withNamed_iff Container.name (agentLoader image) _
  rw [added, and_iff_left (mountsAgent_agentLoader image)]

theorem looksReady_withAgent
    {before : List EnvVar} (reached : javaVariables? before = some env)
    (image : String) :
    LooksReady (withAgentLoaded image spec) (withAgentMounted env first) where
  mentioned := mentioned_javaVariables reached
  mounted := exists_mem_withNamed VolumeMount.name agentMount _
  volume := exists_mem_withNamed Volume.name agentVolume _
  loader := exists_mem_withNamed Container.name (agentLoader image) _

theorem agentReady_withAgent_iff
    (reached :
      javaVariables? (configuredFor context pod first.variables) = some env)
    (image : String) (containers : List Container) :
    AgentReady (withAgentLoaded image { spec with containers })
        (withAgentMounted env first) ↔
      CanBeReady spec first := by
  have options :
      HandedOver (withAgentMounted env first).variables ↔
        CanHandOver first.variables :=
    (handedOver_javaVariables_iff reached).trans
      canHandOver_configuredFor_iff
  constructor
  · rintro ⟨handedOver, mounted, _, filled⟩
    exact
      ⟨options.1 handedOver, mountsAgent_withAgentMounted_iff.1 mounted,
        (fillsVolume_withAgentLoaded_iff image).1 filled⟩
  · rintro ⟨handedOver, mounted, filled⟩
    exact
      ⟨options.2 handedOver, mountsAgent_withAgentMounted_iff.2 mounted,
        exists_mem_withNamed Volume.name agentVolume _,
        (fillsVolume_withAgentLoaded_iff image).2 filled⟩

end Records

/-- After a success everything is there by name; the agent is loaded exactly
if nothing was taken for the agent's that only looks like it. -/
theorem agentReady_iff
    (context : InjectionContext) (pod : Pod)
    (succeeded : (Injector.java.inject context pod).fault = none) :
    ∃ spec first others nextSpec next,
      pod.spec = some spec ∧
      spec.containers = first :: others ∧
      (Injector.java.inject context pod).pod.spec = some nextSpec ∧
      nextSpec.containers = next :: others ∧
      LooksReady nextSpec next ∧
      (AgentReady nextSpec next ↔ CanBeReady spec first) := by
  cases found : pod.firstContainer? with
  | none =>
      simp [Injector.inject, injectJava, injectConfig, found] at succeeded
  | some first =>
      obtain ⟨spec, others, isSpec, containers⟩ :=
        Pod.firstContainer?_eq_some_iff.1 found
      obtain ⟨_, env, reached, isPod⟩ :=
        injectJava_of_success found succeeded
      rw [withAgent_withVariables isSpec containers] at isPod
      let next := withAgentMounted env first
      let image := context.config.javaImage
      refine
        ⟨spec, first, others,
          withAgentLoaded image { spec with containers := next :: others },
          next, isSpec, containers, ?_, rfl, ?_, ?_⟩
      · exact congrArg Pod.spec isPod
      · exact looksReady_withAgent reached image
      · exact agentReady_withAgent_iff reached image (next :: others)

/-- A container with these options for Java. -/
def sampleOptioned (options : String) : Container where
  name := "app"
  env := some [EnvVar.literal Env.javaOptions options]

def sampleOptionedPod (options : String) : Pod where
  metadata := { name := some "cart-0" }
  spec := some { containers := [sampleOptioned options] }

def sampleAgentContext : InjectionContext where
  config :=
    { exporter := .otlp, endpoint := "http://splunk:4317"
      javaImage := "agent:1" }
  attributes := .empty

theorem agentReady_sampleOptioned :
    ∃ nextSpec next,
      (Injector.java.inject sampleAgentContext
        (sampleOptionedPod "-Xmx512m")).pod.spec = some nextSpec ∧
      nextSpec.containers = [next] ∧ AgentReady nextSpec next := by
  obtain ⟨spec, first, others, nextSpec, next, isSpec, containers, isNextSpec,
      nextContainers, _, ready⟩ :=
    agentReady_iff sampleAgentContext (sampleOptionedPod "-Xmx512m") rfl
  cases isSpec
  cases containers
  refine ⟨nextSpec, next, isNextSpec, nextContainers, ready.2 ?_⟩
  have unmentioned : ¬ MentionsAgent "-Xmx512m" := by
    unfold MentionsAgent
    decide
  exact
    ⟨Or.inr (Or.inl ⟨_, rfl, unmentioned⟩), Or.inr nofun, Or.inr nofun⟩

/-- The name of another file begins like that of the agent, and so the agent's
option is not among the options after a success. -/
theorem not_agentReady_sampleOptioned :
    let options := Instrumentation.agentOption ++ ".old"
    let injected :=
      Injector.java.inject sampleAgentContext (sampleOptionedPod options)
    injected.fault = none ∧
    ∃ nextSpec next,
      injected.pod.spec = some nextSpec ∧
      nextSpec.containers = [next] ∧ ¬ AgentReady nextSpec next := by
  intro options injected
  refine ⟨by decide +kernel, _, _, rfl, rfl, fun ready => ?_⟩
  obtain ⟨entry, isLast, _, text, isText, isOption⟩ := ready.handedOver
  have isEntry :
      some entry = some (EnvVar.literal Env.javaOptions options) := by
    rw [← isLast]
    decide +kernel
  cases isEntry
  cases isText
  have noOption :
      Instrumentation.agentOption.toList ∉ optionsOf options := by
    decide +kernel
  exact noOption isOption

end PodTelemetry.Injection
