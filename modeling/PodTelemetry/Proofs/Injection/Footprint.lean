import PodTelemetry.Proofs.Injection.Injectors

/-!
# What a run of injectors touches

Whatever injectors are run one after the other, and wherever they stop, the pod
at the end is the one at the start with texts put into two variables of the
first container at most and with items behind the ends of four lists.  The
places are those in the pod at the start, also for the injectors that come
later.
-/

namespace PodTelemetry.Injection

open PodTelemetry.Attributes (declares)
open PodTelemetry.Kubernetes

variable {mayChange : Nat → Prop} {olds news : List EnvVar}

/-! ## Variables in their places -/

/-- The old variables stand in their places, and those that may change have
another text at most. -/
def Reworked
    (mayChange : Nat → Prop) (olds news : List EnvVar) : Prop :=
  ∀ index old, olds[index]? = some old →
    ∃ new,
      news[index]? = some new ∧
      (new = old ∨
        mayChange index ∧ ∃ text, new = { old with value := some text })

theorem Reworked.refl
    (mayChange : Nat → Prop) (olds : List EnvVar) :
    Reworked mayChange olds olds :=
  fun _ old isOld => ⟨old, isOld, Or.inl rfl⟩

theorem Reworked.append
    (reworked : Reworked mayChange olds news) (added : List EnvVar) :
    Reworked mayChange olds (news ++ added) := by
  intro index old isOld
  obtain ⟨new, isNew, change⟩ := reworked index old isOld
  refine ⟨new, ?_, change⟩
  rw [List.getElem?_append_left (List.getElem?_eq_some_iff.1 isNew).1]
  exact isNew

theorem Reworked.set
    (reworked : Reworked mayChange olds news) {place : Nat} {entry : EnvVar}
    (isEntry : news[place]? = some entry)
    (allowed : place < olds.length → mayChange place) (text : String) :
    Reworked mayChange olds
      (news.set place { entry with value := some text }) := by
  intro index old isOld
  obtain ⟨new, isNew, change⟩ := reworked index old isOld
  by_cases here : place = index
  · subst here
    have inRange := (List.getElem?_eq_some_iff.1 isOld).1
    rw [isEntry] at isNew
    cases isNew
    refine ⟨_, List.getElem?_set_self (List.getElem?_eq_some_iff.1 isEntry).1,
      Or.inr ⟨allowed inRange, text, ?_⟩⟩
    rcases change with rfl | ⟨_, before, rfl⟩
    · rfl
    · rfl
  · exact ⟨new, (List.getElem?_set_ne here).trans isNew, change⟩

/-- What is looked for by name is found first in the same place, unless there
was none before. -/
theorem Reworked.findIdx?_eq_some
    {wanted : EnvVar → Bool}
    (byName :
      ∀ (entry : EnvVar) (text : String),
        wanted { entry with value := some text } = wanted entry)
    (reworked : Reworked mayChange olds news) {place : Nat}
    (isPlace : news.findIdx? wanted = some place)
    (inRange : place < olds.length) :
    olds.findIdx? wanted = some place := by
  have sameWanted :
      ∀ index (before : index < olds.length) (after : index < news.length),
        wanted news[index] = wanted olds[index] := by
    intro index before after
    obtain ⟨new, isNew, change⟩ :=
      reworked index olds[index] (List.getElem?_eq_getElem before)
    rw [List.getElem?_eq_getElem after] at isNew
    rw [Option.some.inj isNew]
    rcases change with rfl | ⟨_, text, rfl⟩
    · rfl
    · exact byName _ text
  obtain ⟨inNews, isWanted, noneBefore⟩ :=
    List.findIdx?_eq_some_iff_getElem.1 isPlace
  refine
    List.findIdx?_eq_some_iff_getElem.2
      ⟨inRange, ?_, fun index before => ?_⟩
  · rw [← sameWanted place inRange inNews]
    exact isWanted
  · rw [← sameWanted index (Nat.lt_trans before inRange)
      (Nat.lt_trans before inNews)]
    exact noneBefore index before

/-- The first declaration of attributes and, when the Java agent may be loaded,
the first options for Java. -/
def Rewritable
    (withJava : Prop) (olds : List EnvVar) (index : Nat) : Prop :=
  olds.findIdx? declares = some index ∨
    (withJava ∧ olds.findIdx? holdsJavaOptions = some index)

section Steps

variable {withJava : Prop}

theorem Reworked.configuredFor
    (reworked : Reworked (Rewritable withJava olds) olds news)
    (plain : hasSourcedAttributes news = false)
    (context : InjectionContext) (pod : Pod) :
    Reworked (Rewritable withJava olds) olds
      (configuredFor context pod news) := by
  let merged := context.attributes.mergedWith news
  rcases configuredVariables_cases context.config
      (Attributes.serviceName merged.attributes pod) context.attributes news
    with
    ⟨place, declared, added, isPlace, isDeclared, declares, whole, _⟩ |
      ⟨_, added, whole, _⟩
  · have unsourced : declared.valueFrom = none :=
      hasSourcedAttributes_eq_false_iff.1 plain declared
        (List.mem_of_getElem? isDeclared) declares
    have isConfigured : Injection.configuredFor context pod news = _ := whole
    rw [isConfigured, declaration_eq_of_declares declares unsourced]
    refine (reworked.set isDeclared (fun inRange => Or.inl ?_) _).append added
    exact reworked.findIdx?_eq_some (fun _ _ => rfl) isPlace inRange
  · have isConfigured : Injection.configuredFor context pod news = _ := whole
    rw [isConfigured]
    exact reworked.append added

theorem Reworked.javaVariables
    (reworked : Reworked (Rewritable withJava olds) olds news)
    (allowed : withJava) {env : List EnvVar}
    (reached : javaVariables? news = some env) :
    Reworked (Rewritable withJava olds) olds env := by
  rcases javaVariables?_cases reached with
    ⟨_, rfl⟩ | ⟨place, entry, isPlace, isEntry, _, _, rfl⟩
  · exact reworked.append _
  · refine reworked.set isEntry (fun inRange => Or.inr ⟨allowed, ?_⟩) _
    exact reworked.findIdx?_eq_some (fun _ _ => rfl) isPlace inRange

end Steps

/-! ## The pod around them -/

/-- A list that only loading the Java agent makes longer. -/
def Appended
    {α : Type} (withJava : Prop) (old new : Option (List α)) : Prop :=
  new = old ∨ (withJava ∧ ∃ added, new = some (old.getD [] ++ added))

theorem Appended.withNamed
    {α : Type} {withJava : Prop} {old new : Option (List α)}
    (appended : Appended withJava old new) (allowed : withJava)
    (name : α → String) (element : α) :
    Appended withJava old
      (some (withNamed name element (new.getD []))) := by
  have items : ∃ added, new.getD [] = old.getD [] ++ added := by
    rcases appended with rfl | ⟨_, added, rfl⟩
    · exact ⟨[], (List.append_nil _).symm⟩
    · exact ⟨added, rfl⟩
  obtain ⟨added, isItems⟩ := items
  refine Or.inr ⟨allowed, ?_⟩
  rw [isItems]
  rcases withNamed_eq_or_append name element (old.getD [] ++ added) with
    same | more
  · exact ⟨added, congrArg some same⟩
  · exact
      ⟨added ++ [element],
        congrArg some (more.trans (List.append_assoc _ _ _))⟩

/-- What a run of injectors may make of the spec of a pod and of its first
container. -/
structure Rework (withJava : Prop) (spec : PodSpec) (first : Container) where
  env : Option (List EnvVar)
  entries :
    env = first.env ∨
      ∃ written,
        env = some written ∧
        Reworked (Rewritable withJava first.variables) first.variables
          written
  volumeMounts : Option (List VolumeMount)
  mounts : Appended withJava first.volumeMounts volumeMounts
  initContainers : Option (List Container)
  loaders : Appended withJava spec.initContainers initContainers
  volumes : Option (List Volume)
  storage : Appended withJava spec.volumes volumes

section Runs

variable {withJava : Prop} {spec : PodSpec} {first : Container}
variable {others : List Container} {context : InjectionContext} {pod : Pod}

/-- The first container after the run. -/
def Rework.container (rework : Rework withJava spec first) : Container :=
  { first with env := rework.env, volumeMounts := rework.volumeMounts }

/-- The spec after the run. -/
def Rework.outcome
    (rework : Rework withJava spec first) (others : List Container) :
    PodSpec :=
  { spec with
    containers := rework.container :: others
    initContainers := rework.initContainers
    volumes := rework.volumes }

/-- Nothing is made of the pod. -/
def Rework.start
    (withJava : Prop) (spec : PodSpec) (first : Container) :
    Rework withJava spec first where
  env := first.env
  entries := Or.inl rfl
  volumeMounts := first.volumeMounts
  mounts := Or.inl rfl
  initContainers := spec.initContainers
  loaders := Or.inl rfl
  volumes := spec.volumes
  storage := Or.inl rfl

theorem Rework.outcome_start
    (containers : spec.containers = first :: others) :
    (start withJava spec first).outcome others = spec := by
  simp only [outcome, container, start, ← containers]

theorem Rework.reworked (rework : Rework withJava spec first) :
    Reworked (Rewritable withJava first.variables) first.variables
      rework.container.variables := by
  rcases rework.entries with same | ⟨written, isEnv, reworked⟩
  · have sameVariables : rework.container.variables = first.variables :=
      congrArg (·.getD []) same
    rw [sameVariables]
    exact .refl _ _
  · have isVariables : rework.container.variables = written :=
      congrArg (·.getD []) isEnv
    rw [isVariables]
    exact reworked

/-- The pod with another spec. -/
def withSpec (spec : PodSpec) (pod : Pod) : Pod :=
  { pod with spec := some spec }

theorem Rework.firstContainer?
    (rework : Rework withJava spec first) (others : List Container)
    (pod : Pod) :
    (withSpec (rework.outcome others) pod).firstContainer? =
      some rework.container := rfl

theorem Rework.withVariables
    (rework : Rework withJava spec first) {written : List EnvVar}
    (reworked :
      Reworked (Rewritable withJava first.variables) first.variables
        written) :
    ∃ next : Rework withJava spec first,
      Injection.withVariables written
          (withSpec (rework.outcome others) pod) =
        withSpec (next.outcome others) pod :=
  ⟨{ rework with
      env := some written
      entries := Or.inr ⟨written, rfl, reworked⟩ },
    rfl⟩

theorem Rework.withAgent
    (rework : Rework withJava spec first) (allowed : withJava)
    {written : List EnvVar}
    (reworked :
      Reworked (Rewritable withJava first.variables) first.variables
        written)
    (image : String) :
    ∃ next : Rework withJava spec first,
      Injection.withAgent image written
          (withSpec (rework.outcome others) pod) =
        withSpec (next.outcome others) pod :=
  ⟨{ env := some written
     entries := Or.inr ⟨written, rfl, reworked⟩
     volumeMounts := _
     mounts := rework.mounts.withNamed allowed VolumeMount.name agentMount
     initContainers := _
     loaders :=
      rework.loaders.withNamed allowed Container.name (agentLoader image)
     volumes := _
     storage := rework.storage.withNamed allowed Volume.name agentVolume },
    rfl⟩

theorem Rework.injectConfig
    (rework : Rework withJava spec first) (context : InjectionContext)
    (others : List Container) (pod : Pod) :
    ∃ next : Rework withJava spec first,
      (injectConfig context (withSpec (rework.outcome others) pod)).pod =
        withSpec (next.outcome others) pod := by
  have found := rework.firstContainer? others pod
  rcases injectConfig_cases context found with
    ⟨_, _, isPod⟩ | ⟨plain, _, isPod⟩
  · exact ⟨rework, isPod⟩
  · obtain ⟨next, isNext⟩ :=
      rework.withVariables (rework.reworked.configuredFor plain context _)
    exact ⟨next, isPod.trans isNext⟩

theorem Rework.injectJava
    (rework : Rework withJava spec first) (allowed : withJava)
    (context : InjectionContext) (others : List Container) (pod : Pod) :
    ∃ next : Rework withJava spec first,
      (injectJava context (withSpec (rework.outcome others) pod)).pod =
        withSpec (next.outcome others) pod := by
  have found := rework.firstContainer? others pod
  rcases injectJava_cases context found with
    ⟨_, _, isPod⟩ | ⟨plain, _, _, isPod⟩ |
      ⟨plain, env, reached, _, isPod⟩
  · exact ⟨rework, isPod⟩
  · obtain ⟨next, isNext⟩ :=
      rework.withVariables (rework.reworked.configuredFor plain context _)
    exact ⟨next, isPod.trans isNext⟩
  · have configured :=
      rework.reworked.configuredFor plain context
        (withSpec (rework.outcome others) pod)
    obtain ⟨middle, isMiddle⟩ := rework.withVariables configured
    obtain ⟨next, isNext⟩ :=
      middle.withAgent allowed (configured.javaVariables allowed reached)
        context.config.javaImage
    rw [isMiddle, isNext] at isPod
    exact ⟨next, isPod⟩

theorem Rework.inject
    (rework : Rework withJava spec first) {injector : Injector}
    (allowed : injector = .java → withJava) (context : InjectionContext)
    (others : List Container) (pod : Pod) :
    ∃ next : Rework withJava spec first,
      (injector.inject context (withSpec (rework.outcome others) pod)).pod =
        withSpec (next.outcome others) pod := by
  cases injector with
  | config =>
      exact rework.injectConfig context others pod
  | java =>
      exact rework.injectJava (allowed rfl) context others pod

/-- What the injectors touch in the pod that they find counts in the pod that
the first of them found. -/
theorem Rework.injectAll
    (rework : Rework withJava spec first) {injectors : List Injector}
    (allowed : .java ∈ injectors → withJava) (context : InjectionContext)
    (others : List Container) (pod : Pod) :
    ∃ last : Rework withJava spec first,
      (Injector.injectAll context (withSpec (rework.outcome others) pod)
          injectors).pod =
        withSpec (last.outcome others) pod := by
  induction injectors generalizing rework with
  | nil =>
      exact ⟨rework, rfl⟩
  | cons injector rest inductionHypothesis =>
      obtain ⟨next, isNext⟩ :=
        rework.inject
          (fun isJava => allowed (isJava ▸ List.mem_cons_self)) context
          others pod
      rw [Injector.injectAll]
      cases outcome :
          (injector.inject context
            (withSpec (rework.outcome others) pod)).fault with
      | some fault =>
          exact ⟨next, isNext⟩
      | none =>
          dsimp only
          rw [isNext]
          exact
            inductionHypothesis next fun inRest =>
              allowed (List.mem_cons_of_mem _ inRest)

theorem exists_rework_injectAll
    (context : InjectionContext) (isSpec : pod.spec = some spec)
    (containers : spec.containers = first :: others)
    (injectors : List Injector) :
    ∃ rework : Rework (.java ∈ injectors) spec first,
      (Injector.injectAll context pod injectors).pod =
        withSpec (rework.outcome others) pod := by
  have isPod :
      pod =
        withSpec
          ((Rework.start (.java ∈ injectors) spec first).outcome others)
          pod := by
    rw [Rework.outcome_start containers, withSpec, ← isSpec]
  rw [isPod]
  exact Rework.injectAll _ id context others _

end Runs

end PodTelemetry.Injection
