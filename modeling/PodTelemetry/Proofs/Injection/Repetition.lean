import PodTelemetry.Proofs.Injection.Loading

/-!
# Injecting again and again

However often injectors run on a pod, and with whatever contexts, the Java
agent is wired in by the first of them that loads it.  The others find its
volume, init container, mount and option and leave them as they are.
-/

namespace PodTelemetry.Injection

open PodTelemetry.Kubernetes

variable {context : InjectionContext} {pod : Pod} {container : Container}
variable {env result : List EnvVar}

/-! ## Runs -/

/-- An injector with the context that it runs in. -/
structure Turn where
  context : InjectionContext
  injector : Injector

/-- The pod after all turns, none as soon as one of them fails. -/
def injectEach? (pod : Pod) : List Turn → Option Pod
  | [] => some pod
  | turn :: rest =>
      let injected := turn.injector.inject turn.context pod
      if injected.fault = none then injectEach? injected.pod rest else none

theorem injectEach?_cons_eq_some_iff
    {turn : Turn} {rest : List Turn} {last : Pod} :
    injectEach? pod (turn :: rest) = some last ↔
      (turn.injector.inject turn.context pod).fault = none ∧
        injectEach? (turn.injector.inject turn.context pod).pod rest =
          some last := by
  rw [injectEach?]
  by_cases succeeded : (turn.injector.inject turn.context pod).fault = none
  · simp [succeeded]
  · simp [succeeded]

/-! ## The lists that the agent is wired into -/

/-- The four lists that loading the Java agent adds to, empty where there is
none. -/
structure AgentLists where
  volumes : List Volume
  loaders : List Container
  mounts : List VolumeMount
  env : List EnvVar

def agentLists (pod : Pod) : AgentLists where
  volumes := (pod.spec.bind fun spec => spec.volumes).getD []
  loaders := (pod.spec.bind fun spec => spec.initContainers).getD []
  mounts := (pod.firstContainer?.bind fun first => first.volumeMounts).getD []
  env := (pod.firstContainer?.bind fun first => first.env).getD []

/-- Options for Java stay as they are and where they are. -/
structure SameOptions (olds news : List EnvVar) : Prop where
  entries : news.filter holdsJavaOptions = olds.filter holdsJavaOptions
  place : news.findIdx? holdsJavaOptions = olds.findIdx? holdsJavaOptions
  stays :
    ∀ (index : Nat) (entry : EnvVar),
      olds[index]? = some entry → holdsJavaOptions entry →
        news[index]? = some entry

theorem SameOptions.refl (env : List EnvVar) : SameOptions env env :=
  ⟨rfl, rfl, fun _ _ isEntry _ => isEntry⟩

theorem SameOptions.trans
    {first second third : List EnvVar}
    (earlier : SameOptions first second) (later : SameOptions second third) :
    SameOptions first third where
  entries := later.entries.trans earlier.entries
  place := later.place.trans earlier.place
  stays := fun index entry isEntry holds =>
    later.stays index entry (earlier.stays index entry isEntry holds) holds

theorem sameOptions_configuredFor
    (context : InjectionContext) (pod : Pod) (env : List EnvVar) :
    SameOptions env (configuredFor context pod env) where
  entries := filter_holdsJavaOptions_configuredVariables
  place := holdsJavaOptions_configuredVariables.2
  stays := by
    intro index entry isEntry holds
    let merged := context.attributes.mergedWith env
    obtain ⟨kept, added, whole, _, places, _⟩ :=
      configuredVariables_places context.config
        (Attributes.serviceName merged.attributes pod) context.attributes env
    have isKept :=
      (places index entry (not_declares_of_holdsJavaOptions holds)).2 isEntry
    have inRange := (List.getElem?_eq_some_iff.1 isKept).1
    rw [configuredFor, whole, List.getElem?_append_left inRange]
    exact isKept

/-- What the agent is wired with stays as it is, whatever becomes of other
variables. -/
structure SameWiring (olds news : AgentLists) : Prop where
  volumes : news.volumes = olds.volumes
  loaders : news.loaders = olds.loaders
  mounts : news.mounts = olds.mounts
  options : SameOptions olds.env news.env

theorem SameWiring.refl (lists : AgentLists) : SameWiring lists lists :=
  ⟨rfl, rfl, rfl, SameOptions.refl _⟩

theorem SameWiring.trans
    {first second third : AgentLists}
    (earlier : SameWiring first second) (later : SameWiring second third) :
    SameWiring first third where
  volumes := later.volumes.trans earlier.volumes
  loaders := later.loaders.trans earlier.loaders
  mounts := later.mounts.trans earlier.mounts
  options := earlier.options.trans later.options

/-- Loading the agent from the image makes the one of the other. -/
structure Loaded (image : String) (olds news : AgentLists) : Prop where
  volumes : news.volumes = withNamed Volume.name agentVolume olds.volumes
  loaders :
    news.loaders = withNamed Container.name (agentLoader image) olds.loaders
  mounts : news.mounts = withNamed VolumeMount.name agentMount olds.mounts
  options : javaVariables? olds.env = some news.env

/-! ## One turn -/

theorem agentLists_eq
    {spec : PodSpec} {others : List Container}
    (isSpec : pod.spec = some spec)
    (containers : spec.containers = container :: others) :
    agentLists pod =
      { volumes := spec.volumes.getD []
        loaders := spec.initContainers.getD []
        mounts := container.volumeMounts.getD []
        env := container.variables } := by
  have found : pod.firstContainer? = some container :=
    Pod.firstContainer?_eq_some_iff.2 ⟨spec, others, isSpec, containers⟩
  simp only [agentLists, isSpec, found, Option.bind_some, Container.variables]

theorem sameWiring_withVariables
    (found : pod.firstContainer? = some container)
    (same : SameOptions container.variables env) :
    SameWiring (agentLists pod) (agentLists (withVariables env pod)) := by
  obtain ⟨spec, others, isSpec, containers⟩ :=
    Pod.firstContainer?_eq_some_iff.1 found
  rw [agentLists_eq isSpec containers, withVariables_eq isSpec containers,
    agentLists_eq rfl rfl]
  exact ⟨rfl, rfl, rfl, same⟩

theorem loaded_withAgent
    (found : pod.firstContainer? = some container)
    (reached : javaVariables? container.variables = some env)
    (image : String) :
    Loaded image (agentLists pod) (agentLists (withAgent image env pod)) := by
  obtain ⟨spec, others, isSpec, containers⟩ :=
    Pod.firstContainer?_eq_some_iff.1 found
  have isLoaded :
      (withAgent image env pod).spec =
        some
          (withAgentLoaded image
            { spec with
              containers := withAgentMounted env container :: others }) := by
    simp [withAgent, Pod.updateFirstContainer, isSpec, containers]
  rw [agentLists_eq isSpec containers, agentLists_eq isLoaded rfl]
  exact ⟨rfl, rfl, rfl, reached⟩

/-- Configuring the exporter leaves the wiring alone. -/
theorem sameWiring_config
    (succeeded : (Injector.config.inject context pod).fault = none) :
    SameWiring (agentLists pod)
      (agentLists (Injector.config.inject context pod).pod) := by
  cases found : pod.firstContainer? with
  | none =>
      rw [inject_of_noContainers found] at succeeded
      cases succeeded
  | some container =>
      obtain ⟨_, isPod⟩ := injectConfig_of_success found succeeded
      rw [isPod]
      exact
        sameWiring_withVariables found (sameOptions_configuredFor _ _ _)

/-- The Java agent is loaded into a pod that was configured before. -/
theorem loaded_java
    (succeeded : (Injector.java.inject context pod).fault = none) :
    ∃ configured,
      SameWiring (agentLists pod) configured ∧
      Loaded context.config.javaImage configured
        (agentLists (Injector.java.inject context pod).pod) := by
  cases found : pod.firstContainer? with
  | none =>
      rw [inject_of_noContainers found] at succeeded
      cases succeeded
  | some container =>
      obtain ⟨_, env, reached, isPod⟩ := injectJava_of_success found succeeded
      rw [isPod]
      exact
        ⟨_, sameWiring_withVariables found (sameOptions_configuredFor _ _ _),
          loaded_withAgent (firstContainer?_withVariables found _) reached _⟩

/-! ## Turns that come later -/

/-- Options for Java that mention the agent are left as they are. -/
theorem javaVariables?_eq_self_iff :
    javaVariables? env = some env ↔
      ∃ entry text,
        env.find? holdsJavaOptions = some entry ∧
        entry.valueFrom = none ∧ entry.value = some text ∧
        MentionsAgent text := by
  constructor
  · exact mentioned_javaVariables
  · rintro ⟨entry, text, isFirst, unsourced, isText, mentioned⟩
    obtain ⟨index, isIndex, isEntry⟩ := exists_findIdx?_of_find? isFirst
    have same :
        { entry with
          value := some (withAgentOption (entry.value.getD "")) } = entry := by
      rw [isText, Option.getD_some, withAgentOption_of_contains mentioned,
        ← isText]
    unfold javaVariables?
    rw [findIdx?_javaOptions]
    simp only [isIndex, isEntry]
    rw [if_neg (by simp [unsourced]), same, set_of_getElem? isEntry]

/-- Loading the agent, from whatever image, changes nothing. -/
def Ready (lists : AgentLists) : Prop :=
  ∀ image, Loaded image lists lists

theorem Loaded.ready
    {image : String} {olds news : AgentLists}
    (loaded : Loaded image olds news) : Ready news := by
  intro other
  constructor
  case volumes =>
    rw [loaded.volumes, withNamed_withNamed]
  case loaders =>
    -- The loader of the other image has the same name.
    have sameName : (agentLoader other).name = (agentLoader image).name := rfl
    rw [loaded.loaders, withNamed_withNamed_of_name_eq sameName]
  case mounts =>
    rw [loaded.mounts, withNamed_withNamed]
  case options =>
    exact javaVariables?_javaVariables loaded.options

theorem Ready.of_sameWiring
    {olds news : AgentLists} (ready : Ready olds)
    (same : SameWiring olds news) : Ready news := by
  intro image
  obtain ⟨volumes, loaders, mounts, options⟩ := ready image
  refine ⟨?_, ?_, ?_, ?_⟩
  · rw [same.volumes]
    exact volumes
  · rw [same.loaders]
    exact loaders
  · rw [same.mounts]
    exact mounts
  · rw [javaVariables?_eq_self_iff] at options ⊢
    rw [← List.head?_filter] at options ⊢
    rw [same.options.entries]
    exact options

/-- Whatever injector comes next, the wiring stays. -/
theorem Ready.inject
    (ready : Ready (agentLists pod)) {injector : Injector}
    (succeeded : (injector.inject context pod).fault = none) :
    SameWiring (agentLists pod)
      (agentLists (injector.inject context pod).pod) := by
  cases injector with
  | config =>
      exact sameWiring_config succeeded
  | java =>
      obtain ⟨configured, same, loaded⟩ := loaded_java succeeded
      have nothing :=
        ready.of_sameWiring same context.config.javaImage
      refine same.trans ⟨?_, ?_, ?_, ?_⟩
      · exact loaded.volumes.trans nothing.volumes.symm
      · exact loaded.loaders.trans nothing.loaders.symm
      · exact loaded.mounts.trans nothing.mounts.symm
      · have kept :=
          Option.some.inj (nothing.options.symm.trans loaded.options)
        rw [← kept]
        exact SameOptions.refl _

theorem Ready.injectEach
    {turns : List Turn} {last : Pod} (ready : Ready (agentLists pod))
    (reached : injectEach? pod turns = some last) :
    SameWiring (agentLists pod) (agentLists last) := by
  induction turns generalizing pod with
  | nil =>
      cases reached
      exact SameWiring.refl _
  | cons turn rest inductionHypothesis =>
      obtain ⟨succeeded, later⟩ := injectEach?_cons_eq_some_iff.1 reached
      have same := ready.inject succeeded
      exact same.trans (inductionHypothesis (ready.of_sameWiring same) later)

/-! ## What is added once -/

/-- Unless an item of the kind was there, the new one comes last; nothing else
happens to the list, then or later. -/
structure AddedOnce
    {α : Type} (wanted : α → Bool) (new : α) (olds early news : List α) :
    Prop where
  count : news.countP wanted = max 1 (olds.countP wanted)
  added : (∀ item ∈ olds, wanted item = false) → early = olds ++ [new]
  kept : (∃ item ∈ olds, wanted item) → early = olds
  settled : news = early

theorem addedOnce_withNamed
    {α : Type} (name : α → String) (element : α) {olds early news : List α}
    (isEarly : early = withNamed name element olds) (settled : news = early) :
    AddedOnce (fun item => name item = name element) element olds early
      news := by
  subst settled
  by_cases taken : ∃ item ∈ olds, name item = name element
  · have kept : news = olds := isEarly.trans (withNamed_of_taken taken)
    have some :
        0 < olds.countP fun item => name item = name element := by
      simpa [List.countP_pos_iff] using taken
    refine ⟨?_, fun absent => ?_, fun _ => kept, rfl⟩
    · rw [kept]
      omega
    · obtain ⟨item, member, named⟩ := taken
      simpa [named] using absent item member
  · have added : news = olds ++ [element] := by
      rw [isEarly, withNamed, if_neg (by simpa using taken)]
    have none :
        (olds.countP fun item => name item = name element) = 0 := by
      rw [List.countP_eq_zero]
      simpa using taken
    refine ⟨?_, fun _ => added, fun present => ?_, rfl⟩
    · rw [added, List.countP_append, none]
      simp
    · exact absurd (by simpa using present) taken

/-- The text of the first options for Java with the agent's option in them:
the text that was there if it mentions the agent, else the option behind it. -/
def AppendedOnce (old new : String) : Prop :=
  MentionsAgent new ∧
    ((MentionsAgent old ∧ new = old) ∨
      (¬ MentionsAgent old ∧ old = "" ∧
        new = "-javaagent:/splunk/splunk-otel-javaagent-all.jar") ∨
      (¬ MentionsAgent old ∧ old ≠ "" ∧
        new = old ++ " -javaagent:/splunk/splunk-otel-javaagent-all.jar"))

theorem appendedOnce_withAgentOption (text : String) :
    AppendedOnce text (withAgentOption text) := by
  refine ⟨contains_withAgentOption text, ?_⟩
  by_cases mentioned : MentionsAgent text
  · exact Or.inl ⟨mentioned, withAgentOption_of_contains mentioned⟩
  · refine Or.inr ?_
    unfold withAgentOption
    rw [if_neg (show ¬ Text.contains _ _ from mentioned)]
    by_cases empty : text = ""
    · exact Or.inl ⟨mentioned, empty, if_pos empty⟩
    · refine Or.inr ⟨mentioned, empty, ?_⟩
      rw [if_neg empty, String.append_assoc]
      rfl

/-- Options for Java with the agent's among them.  Without any before, the
new entry comes last; else the first one has the agent's option appended at
most once, and the others stay. -/
structure OptionAddedOnce (olds early news : List EnvVar) : Prop where
  count :
    (news.countP fun entry => entry.name = "JAVA_TOOL_OPTIONS") =
      max 1 (olds.countP fun entry => entry.name = "JAVA_TOOL_OPTIONS")
  added :
    (∀ entry ∈ olds, entry.name ≠ "JAVA_TOOL_OPTIONS") →
      early.getLast? =
        some
          (EnvVar.literal "JAVA_TOOL_OPTIONS"
            "-javaagent:/splunk/splunk-otel-javaagent-all.jar")
  settled :
    ∀ (index : Nat) (entry : EnvVar),
      early[index]? = some entry → entry.name = "JAVA_TOOL_OPTIONS" →
        news[index]? = some entry
  first :
    ∀ (index : Nat) (old : EnvVar),
      (olds.findIdx? fun entry => entry.name = "JAVA_TOOL_OPTIONS") =
          some index →
        olds[index]? = some old →
          (news.findIdx? fun entry => entry.name = "JAVA_TOOL_OPTIONS") =
              some index ∧
            ∃ text,
              news[index]? = some { old with value := some text } ∧
              AppendedOnce (old.value.getD "") text
  others :
    ∀ (index : Nat) (old : EnvVar),
      olds[index]? = some old → old.name = "JAVA_TOOL_OPTIONS" →
        (olds.findIdx? fun entry => entry.name = "JAVA_TOOL_OPTIONS") ≠
            some index →
          news[index]? = some old

theorem countP_javaVariables (reached : javaVariables? env = some result) :
    result.countP holdsJavaOptions =
      max 1 (env.countP holdsJavaOptions) := by
  rw [List.countP_eq_length_filter, List.countP_eq_length_filter]
  rcases filter_javaVariables_eq reached with
    ⟨nothing, isResult⟩ | ⟨first, others, declared, _, isResult⟩
  · rw [nothing, isResult]
    rfl
  · rw [declared, isResult, List.length_cons, List.length_cons]
    omega

/-- The first options for Java stay where they are when the agent's option is
put into them. -/
theorem findIdx?_javaVariables
    {index : Nat} (reached : javaVariables? env = some result)
    (isIndex : env.findIdx? holdsJavaOptions = some index) :
    result.findIdx? holdsJavaOptions = some index := by
  rcases javaVariables?_cases reached with
    ⟨absent, _⟩ | ⟨place, entry, isPlace, isEntry, holds, _, rfl⟩
  · rw [findIdx?_eq_none_of_find? absent] at isIndex
    cases isIndex
  · rw [isIndex] at isPlace
    cases isPlace
    obtain ⟨inRange, _, before⟩ :=
      List.findIdx?_eq_some_iff_getElem.1 isIndex
    refine
      List.findIdx?_eq_some_iff_getElem.2
        ⟨by simpa using inRange, ?_, fun earlier isEarlier => ?_⟩
    · rw [List.getElem_set_self]
      exact holds
    · rw [List.getElem_set_ne (by omega)]
      exact before earlier isEarlier

theorem SameOptions.countP_eq
    {olds news : List EnvVar} (same : SameOptions olds news) :
    news.countP holdsJavaOptions = olds.countP holdsJavaOptions := by
  rw [List.countP_eq_length_filter, same.entries,
    ← List.countP_eq_length_filter]

theorem holds_of_findIdx?
    {index : Nat} {entry : EnvVar}
    (isIndex : env.findIdx? holdsJavaOptions = some index)
    (isEntry : env[index]? = some entry) : holdsJavaOptions entry := by
  obtain ⟨_, holds, _⟩ := List.findIdx?_eq_some_iff_getElem.1 isIndex
  rw [(List.getElem?_eq_some_iff.1 isEntry).2] at holds
  exact holds

theorem optionAddedOnce
    {olds configured early news : List EnvVar}
    (before : SameOptions olds configured)
    (reached : javaVariables? configured = some early)
    (after : SameOptions early news) : OptionAddedOnce olds early news where
  count := by
    have counted := countP_javaVariables reached
    rw [← after.countP_eq, before.countP_eq] at counted
    exact counted
  added := by
    intro absent
    have nothing : configured.filter holdsJavaOptions = [] := by
      rw [before.entries, List.filter_eq_nil_iff]
      intro entry member
      have other : holdsJavaOptions entry = false :=
        decide_eq_false (absent entry member)
      simp [other]
    rcases javaVariables?_cases reached with
      ⟨_, rfl⟩ | ⟨_, entry, _, isEntry, holds, _, _⟩
    · rw [List.getLast?_append]
      rfl
    · rw [List.filter_eq_nil_iff] at nothing
      exact absurd holds (nothing entry (List.mem_of_getElem? isEntry))
  settled := by
    intro index entry isEntry named
    exact after.stays index entry isEntry (decide_eq_true named)
  first := by
    intro index old isIndex isOld
    have stillIndex := before.place.trans isIndex
    have isPlace :=
      after.place.trans (findIdx?_javaVariables reached stillIndex)
    refine ⟨isPlace, withAgentOption (old.value.getD ""), ?_,
      appendedOnce_withAgentOption _⟩
    rcases javaVariables?_cases reached with
      ⟨absent, _⟩ | ⟨place, entry, isFirst, isEntry, holds, _, rfl⟩
    · rw [findIdx?_eq_none_of_find? absent] at stillIndex
      cases stillIndex
    · cases stillIndex.symm.trans isFirst
      have isStill :=
        before.stays index old isOld (holds_of_findIdx? isIndex isOld)
      cases isStill.symm.trans isEntry
      refine after.stays index _ ?_ holds
      exact
        List.getElem?_set_self (List.getElem?_eq_some_iff.1 isEntry).1
  others := by
    intro index old isOld named notFirst
    have holds : holdsJavaOptions old := decide_eq_true named
    have isStill := before.stays index old isOld holds
    refine after.stays index old ?_ holds
    rcases javaVariables?_cases reached with
      ⟨absent, _⟩ | ⟨place, _, isFirst, _, _, _, rfl⟩
    · exact
        absurd holds
          (List.find?_eq_none.1 absent old (List.mem_of_getElem? isStill))
    · have elsewhere : place ≠ index := by
        intro same
        rw [before.place, same] at isFirst
        exact notFirst isFirst
      rw [List.getElem?_set_ne elsewhere]
      exact isStill

/-- What comes of the four lists of a pod: of those it had, of those that the
first loading of the agent left, and of those at the end. -/
structure WiredOnce
    (image : String) (olds early news : AgentLists) : Prop where
  volumes :
    AddedOnce (fun volume => volume.name = "splunk-instrumentation")
      { name := "splunk-instrumentation", emptyDir := some {} }
      olds.volumes early.volumes news.volumes
  loaders :
    AddedOnce (fun loader => loader.name = "splunk-instrumentation")
      { name := "splunk-instrumentation"
        image := some image
        command :=
          some
            ["cp", "/splunk-otel-javaagent-all.jar",
              "/splunk/splunk-otel-javaagent-all.jar"]
        volumeMounts :=
          some [{ name := "splunk-instrumentation", mountPath := "/splunk" }] }
      olds.loaders early.loaders news.loaders
  mounts :
    AddedOnce (fun mount => mount.name = "splunk-instrumentation")
      { name := "splunk-instrumentation", mountPath := "/splunk" }
      olds.mounts early.mounts news.mounts
  options : OptionAddedOnce olds.env early.env news.env

theorem wiredOnce
    {image : String} {olds configured early news : AgentLists}
    (before : SameWiring olds configured)
    (loaded : Loaded image configured early)
    (after : SameWiring early news) : WiredOnce image olds early news where
  volumes :=
    addedOnce_withNamed Volume.name agentVolume
      (before.volumes ▸ loaded.volumes) after.volumes
  loaders :=
    addedOnce_withNamed Container.name (agentLoader image)
      (before.loaders ▸ loaded.loaders) after.loaders
  mounts :=
    addedOnce_withNamed VolumeMount.name agentMount
      (before.mounts ▸ loaded.mounts) after.mounts
  options := optionAddedOnce before.options loaded.options after.options

/-- The agent is wired in by the first injector that loads it, and only by
that one. -/
theorem wiredOnce_injectEach
    {turns : List Turn} {last : Pod} {olds : AgentLists}
    (unwired : SameWiring olds (agentLists pod))
    (reached : injectEach? pod turns = some last)
    (asked : ∃ turn ∈ turns, turn.injector = .java) :
    ∃ place turn early,
      (turns.findIdx? fun turn => turn.injector = .java) = some place ∧
      turns[place]? = some turn ∧
      injectEach? pod (turns.take (place + 1)) = some early ∧
      WiredOnce turn.context.config.javaImage olds (agentLists early)
        (agentLists last) := by
  induction turns generalizing pod with
  | nil =>
      simp at asked
  | cons turn rest inductionHypothesis =>
      obtain ⟨context, injector⟩ := turn
      obtain ⟨succeeded, later⟩ := injectEach?_cons_eq_some_iff.1 reached
      cases injector with
      | config =>
          have same := unwired.trans (sameWiring_config succeeded)
          obtain ⟨place, turn, early, isPlace, isTurn, isEarly, once⟩ :=
            inductionHypothesis same later (by simpa using asked)
          refine ⟨place + 1, turn, early, ?_, isTurn, ?_, once⟩
          · simp [List.findIdx?_cons, isPlace]
          · rw [List.take_succ_cons, injectEach?_cons_eq_some_iff]
            exact ⟨succeeded, isEarly⟩
      | java =>
          obtain ⟨configured, same, loaded⟩ := loaded_java succeeded
          have after := loaded.ready.injectEach later
          refine
            ⟨0, ⟨context, .java⟩, _, by simp [List.findIdx?_cons], rfl,
              ?_, wiredOnce (unwired.trans same) loaded after⟩
          exact injectEach?_cons_eq_some_iff.2 ⟨succeeded, rfl⟩

/-- In a run in which the agent is loaded, and that comes to its end, the
agent's volume, init container, mount and option are added by the injector that
loads it first, each unless it was there; no injector after that one adds any
of them again or changes them. -/
theorem java_wired_once
    {turns : List Turn} {last : Pod}
    (reached : injectEach? pod turns = some last)
    (asked : ∃ turn ∈ turns, turn.injector = .java) :
    ∃ place turn early,
      (turns.findIdx? fun turn => turn.injector = .java) = some place ∧
      turns[place]? = some turn ∧
      injectEach? pod (turns.take (place + 1)) = some early ∧
      WiredOnce turn.context.config.javaImage (agentLists pod)
        (agentLists early) (agentLists last) :=
  wiredOnce_injectEach (SameWiring.refl _) reached asked

/-- The agent from another image. -/
def sampleOtherAgentContext : InjectionContext where
  config :=
    { exporter := .otlp, endpoint := "http://splunk:4317"
      javaImage := "agent:2" }
  attributes := .empty

/-- The exporter is configured before the agent is loaded from one image and
from another. -/
def sampleTurns : List Turn :=
  [⟨sampleOtherAgentContext, .config⟩, ⟨sampleAgentContext, .java⟩,
    ⟨sampleOtherAgentContext, .java⟩]

/-- The agent of the first image stays. -/
theorem sampleTurns_wired_once :
    ∃ early last,
      injectEach? (sampleOptionedPod "-Xmx512m") sampleTurns = some last ∧
      WiredOnce "agent:1" (agentLists (sampleOptionedPod "-Xmx512m"))
        (agentLists early) (agentLists last) := by
  have reached :
      ∃ last,
        injectEach? (sampleOptionedPod "-Xmx512m") sampleTurns =
          some last :=
    Option.isSome_iff_exists.1 (by decide +kernel)
  obtain ⟨last, isLast⟩ := reached
  obtain ⟨place, turn, early, isPlace, isTurn, _, once⟩ :=
    java_wired_once isLast ⟨⟨sampleAgentContext, .java⟩, by simp [sampleTurns]⟩
  cases isPlace
  cases isTurn
  exact ⟨early, last, isLast, once⟩

end PodTelemetry.Injection
