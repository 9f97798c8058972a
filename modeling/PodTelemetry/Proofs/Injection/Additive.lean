import PodTelemetry.Proofs.Injection.Injectors

/-!
# Injection only adds

Whatever an injector comes to, the pod that it leaves is the pod that it
found, with the first container's variables rewritten in two places at most
and with further items behind those in four lists.
-/

namespace PodTelemetry.Injection

open PodTelemetry.Attributes (declares)
open PodTelemetry.Kubernetes

variable {context : InjectionContext} {pod : Pod}
variable {olds kept fromConfig env : List EnvVar}

/-! ## Variables in their places -/

/-- What an injector may make of the variable at the index: the first
declaration of attributes becomes a literal, and the first options for Java, if
they have no source, get a text that begins with the one before. -/
def Retained
    (injector : Injector) (olds : List EnvVar) (index : Nat)
    (old new : EnvVar) : Prop :=
  if olds.findIdx? declares = some index then
    ∃ text, new = EnvVar.literal Env.resourceAttributes text
  else if
      injector = .java ∧ olds.findIdx? holdsJavaOptions = some index ∧
        old.valueFrom = none then
    ∃ text,
      new = { old with value := some text } ∧
      (old.value.getD "").toList <+: text.toList
  else new = old

/-- The names of what the exporter's configuration may append, in order. -/
def appendedNames : List String :=
  [Env.nodeAgent, Env.serviceName, Env.endpoint, Env.tracesExporter,
    Env.resourceAttributes]

/-- Variables in the places of the old ones, and what comes behind them. -/
structure AddedTo
    (injector : Injector) (olds kept fromConfig fromJava : List EnvVar) :
    Prop where
  sameLength : kept.length = olds.length
  retained :
    ∀ index old new,
      olds[index]? = some old → kept[index]? = some new →
        Retained injector olds index old new
  inOrder : (fromConfig.map fun entry => entry.name).Sublist appendedNames
  declaredOnce :
    (∃ entry ∈ fromConfig, entry.name = Env.resourceAttributes) →
      ∀ old ∈ olds, old.name ≠ Env.resourceAttributes
  optionsOnce :
    fromJava = [] ∨
      (injector = .java ∧ (∀ old ∈ olds, old.name ≠ Env.javaOptions) ∧
        fromJava =
          [EnvVar.literal Env.javaOptions Instrumentation.agentOption])

theorem names_of_sublist
    {config : InjectionConfig} {service : String} (attributes : Attributes)
    (wanted :
      fromConfig.Sublist
        (exporterVariables config service ++ [declaration attributes])) :
    (fromConfig.map fun entry => entry.name).Sublist appendedNames :=
  wanted.map fun entry => entry.name

/-- The exporter's configuration appends behind the variables and rewrites the
first declaration of attributes. -/
theorem addedTo_configuredFor
    (context : InjectionContext) (pod : Pod) (olds : List EnvVar) :
    ∃ kept fromConfig,
      configuredFor context pod olds = kept ++ fromConfig ∧
      AddedTo .config olds kept fromConfig [] := by
  let merged := context.attributes.mergedWith olds
  rcases configuredVariables_cases context.config
      (Attributes.serviceName merged.attributes pod) context.attributes olds
    with
    ⟨place, declared, added, isPlace, _, _, whole, wanted⟩ |
      ⟨undeclared, added, whole, wanted⟩
  · refine
      ⟨olds.set place (declaration merged.attributes), added, whole,
        List.length_set, ?_, ?_, ?_, Or.inl rfl⟩
    · intro index old new isOld isNew
      unfold Retained
      rw [isPlace]
      by_cases here : place = index
      · subst here
        rw [List.getElem?_set_self (List.getElem?_eq_some_iff.1 isOld).1]
          at isNew
        rw [if_pos rfl]
        exact ⟨_, (Option.some.inj isNew).symm⟩
      · rw [List.getElem?_set_ne here, isOld] at isNew
        have elsewhere : some place ≠ some index :=
          fun same => here (Option.some.inj same)
        rw [if_neg elsewhere, if_neg (by simp)]
        exact (Option.some.inj isNew).symm
    · exact
        names_of_sublist merged.attributes
          (wanted.trans (List.sublist_append_left _ _))
    · rintro ⟨entry, member, named⟩
      exact
        absurd named
          (name_of_mem_exporterVariables (wanted.subset member)).1
  · have nowhere : olds.findIdx? declares = none :=
      findIdx?_eq_none_of_find? undeclared
    refine
      ⟨olds, added, whole, rfl, ?_, names_of_sublist _ wanted, ?_,
        Or.inl rfl⟩
    · intro index old new isOld isNew
      rw [isOld] at isNew
      unfold Retained
      rw [nowhere, if_neg (by simp), if_neg (by simp)]
      exact (Option.some.inj isNew).symm
    · intro _ old member named
      have noDeclaration := List.find?_eq_none.1 undeclared old member
      simp [declares, named] at noDeclaration

theorem not_declares_place_of_holdsJavaOptions
    {index : Nat} {old : EnvVar} (isOld : olds[index]? = some old)
    (holds : holdsJavaOptions old) :
    olds.findIdx? declares ≠ some index := by
  intro isPlace
  obtain ⟨inRange, isDeclared, _⟩ :=
    List.findIdx?_eq_some_iff_getElem.1 isPlace
  have same : olds[index] = old :=
    Option.some.inj ((List.getElem?_eq_getElem inRange).symm.trans isOld)
  rw [same, not_declares_of_holdsJavaOptions holds] at isDeclared
  cases isDeclared

/-- Where there are no options for Java to rewrite, both injectors leave the
variables alike. -/
theorem Retained.java
    {index : Nat} {old new : EnvVar}
    (retained : Retained .config olds index old new)
    (notRewritten :
      ¬ (olds.findIdx? holdsJavaOptions = some index ∧
        old.valueFrom = none)) :
    Retained .java olds index old new := by
  unfold Retained at retained ⊢
  split
  · next isPlace =>
      rw [if_pos isPlace] at retained
      exact retained
  · next notPlace =>
      rw [if_neg notPlace, if_neg (by simp)] at retained
      rw [if_neg fun rewritten => notRewritten rewritten.2]
      exact retained

theorem prefix_withAgentOption (options : String) :
    options.toList <+: (withAgentOption options).toList := by
  unfold withAgentOption
  split
  · exact List.prefix_refl _
  · split
    · next empty =>
        rw [empty]
        exact List.nil_prefix
    · rw [String.toList_append, String.toList_append, List.append_assoc]
      exact List.prefix_append _ _

/-- The first options for Java stand in their place until they are
rewritten. -/
theorem AddedTo.getElem?_kept
    {index : Nat} {old : EnvVar}
    (added : AddedTo .config olds kept fromConfig [])
    (isIndex : olds.findIdx? holdsJavaOptions = some index)
    (isOld : olds[index]? = some old) :
    kept[index]? = some old := by
  have inRange : index < kept.length := by
    rw [added.sameLength]
    exact (List.getElem?_eq_some_iff.1 isOld).1
  have isKept := List.getElem?_eq_getElem inRange
  have retained := added.retained index old _ isOld isKept
  have holds : holdsJavaOptions old := by
    obtain ⟨_, holds, _⟩ := List.findIdx?_eq_some_iff_getElem.1 isIndex
    rw [(List.getElem?_eq_some_iff.1 isOld).2] at holds
    exact holds
  unfold Retained at retained
  rw [if_neg (not_declares_place_of_holdsJavaOptions isOld holds),
    if_neg (by simp)] at retained
  rw [isKept, retained]

theorem AddedTo.withAgentOption
    {index : Nat} {old : EnvVar}
    (added : AddedTo .config olds kept fromConfig [])
    (isIndex : olds.findIdx? holdsJavaOptions = some index)
    (isOld : olds[index]? = some old)
    (holds : holdsJavaOptions old) (unsourced : old.valueFrom = none) :
    AddedTo .java olds
      (kept.set index
        { old with
          value := some (withAgentOption (old.value.getD "")) })
      fromConfig [] := by
  refine
    ⟨List.length_set.trans added.sameLength, ?_, added.inOrder,
      added.declaredOnce, Or.inl rfl⟩
  intro place other new isOther isNew
  by_cases here : index = place
  · subst here
    have isKept := added.getElem?_kept isIndex isOld
    rw [List.getElem?_set_self (List.getElem?_eq_some_iff.1 isKept).1]
      at isNew
    rw [isOld] at isOther
    cases isOther
    cases isNew
    unfold Retained
    rw [if_neg (not_declares_place_of_holdsJavaOptions isOld holds),
      if_pos ⟨rfl, isIndex, unsourced⟩]
    exact ⟨_, rfl, prefix_withAgentOption _⟩
  · rw [List.getElem?_set_ne here] at isNew
    refine (added.retained place other new isOther isNew).java ?_
    rintro ⟨isPlace, _⟩
    exact here (Option.some.inj (isIndex.symm.trans isPlace))

/-- Loading the Java agent rewrites the first options for Java, appends some
behind everything else, or gives up. -/
theorem AddedTo.java
    (added : AddedTo .config olds kept fromConfig [])
    (samePlace :
      (kept ++ fromConfig).findIdx? holdsJavaOptions =
        olds.findIdx? holdsJavaOptions) :
    ∃ rewritten fromJava,
      (javaVariables? (kept ++ fromConfig)).getD (kept ++ fromConfig) =
        rewritten ++ fromConfig ++ fromJava ∧
      AddedTo .java olds rewritten fromConfig fromJava := by
  have elementAt :
      ∀ {index : Nat} {old : EnvVar},
        olds.findIdx? holdsJavaOptions = some index →
        olds[index]? = some old →
        (kept ++ fromConfig)[index]? = some old := by
    intro index old isIndex isOld
    have isKept := added.getElem?_kept isIndex isOld
    rw [List.getElem?_append_left (List.getElem?_eq_some_iff.1 isKept).1]
    exact isKept
  cases reached : javaVariables? (kept ++ fromConfig) with
  | none =>
      refine
        ⟨kept, [], (List.append_nil _).symm, added.sameLength, ?_,
          added.inOrder, added.declaredOnce, Or.inl rfl⟩
      intro index old new isOld isNew
      refine (added.retained index old new isOld isNew).java ?_
      rintro ⟨isIndex, unsourced⟩
      obtain ⟨entry, isEntry, sourced⟩ :=
        javaVariables?_eq_none_iff.1 reached
      obtain ⟨place, isPlace, atPlace⟩ := exists_findIdx?_of_find? isEntry
      rw [samePlace, isIndex] at isPlace
      cases isPlace
      rw [elementAt isIndex isOld] at atPlace
      cases atPlace
      rw [unsourced] at sourced
      cases sourced
  | some result =>
      rw [Option.getD_some]
      rcases javaVariables?_cases reached with
        ⟨absent, rfl⟩ |
          ⟨index, entry, isIndex, isEntry, holds, unsourced, rfl⟩
      · have nowhere : olds.findIdx? holdsJavaOptions = none :=
          samePlace.symm.trans (findIdx?_eq_none_of_find? absent)
        refine
          ⟨kept, _, rfl, added.sameLength, ?_, added.inOrder,
            added.declaredOnce, Or.inr ⟨rfl, ?_, rfl⟩⟩
        · intro index old new isOld isNew
          refine (added.retained index old new isOld isNew).java ?_
          simp [nowhere]
        · simpa [holdsJavaOptions] using nowhere
      · rw [samePlace] at isIndex
        obtain ⟨inRange, _⟩ := List.findIdx?_eq_some_iff_getElem.1 isIndex
        have isOld := List.getElem?_eq_getElem inRange
        have isKept := added.getElem?_kept isIndex isOld
        rw [elementAt isIndex isOld] at isEntry
        cases isEntry
        refine
          ⟨_, [], ?_,
            added.withAgentOption isIndex isOld holds unsourced⟩
        rw [List.append_nil]
        exact
          List.set_append_left _ _ (List.getElem?_eq_some_iff.1 isKept).1

/-! ## The pod around them -/

/-- A list that only loading the Java agent may make longer. -/
def Lengthened
    {α : Type} (injector : Injector) (old new : Option (List α)) : Prop :=
  new = old ∨
    (injector = .java ∧ ∃ items, new = some items ∧ old.getD [] <+: items)

theorem lengthened_withNamed
    {α : Type} (name : α → String) (element : α)
    (old : Option (List α)) :
    Lengthened .java old
      (some (withNamed name element (old.getD []))) := by
  refine Or.inr ⟨rfl, _, rfl, ?_⟩
  rcases withNamed_eq_or_append name element (old.getD []) with same | more
  · exact same.symm ▸ List.prefix_refl _
  · exact more.symm ▸ List.prefix_append _ _

/-- What an injector may add to a pod. -/
structure Addition (injector : Injector) (pod : Pod) where
  spec : PodSpec
  first : Container
  others : List Container
  isSpec : pod.spec = some spec
  containers : spec.containers = first :: others
  kept : List EnvVar
  fromConfig : List EnvVar
  fromJava : List EnvVar
  entries : AddedTo injector first.variables kept fromConfig fromJava
  volumeMounts : Option (List VolumeMount)
  mounts : Lengthened injector first.volumeMounts volumeMounts
  initContainers : Option (List Container)
  loaders : Lengthened injector spec.initContainers initContainers
  volumes : Option (List Volume)
  storage : Lengthened injector spec.volumes volumes

/-- The pod with the addition: everything that is not named is as it was. -/
def Addition.outcome
    {injector : Injector} (addition : Addition injector pod) : Pod :=
  { pod with
    spec :=
      some
        { addition.spec with
          containers :=
            { addition.first with
              env :=
                some
                  (addition.kept ++ addition.fromConfig ++
                    addition.fromJava)
              volumeMounts := addition.volumeMounts } ::
              addition.others
          initContainers := addition.initContainers
          volumes := addition.volumes } }

section Records

variable {spec : PodSpec} {first : Container} {others : List Container}

theorem withVariables_eq
    (isSpec : pod.spec = some spec)
    (containers : spec.containers = first :: others) (env : List EnvVar) :
    withVariables env pod =
      { pod with
        spec :=
          some
            { spec with
              containers := { first with env := some env } :: others } } := by
  simp [withVariables, Pod.updateFirstContainer, isSpec, containers]

theorem withAgent_withVariables
    (isSpec : pod.spec = some spec)
    (containers : spec.containers = first :: others)
    (image : String) (before env : List EnvVar) :
    withAgent image env (withVariables before pod) =
      { pod with
        spec :=
          some
            { spec with
              containers :=
                { first with
                  env := some env
                  volumeMounts :=
                    some
                      (withNamed VolumeMount.name agentMount
                        (first.volumeMounts.getD [])) } ::
                  others
              initContainers :=
                some
                  (withNamed Container.name (agentLoader image)
                    (spec.initContainers.getD []))
              volumes :=
                some
                  (withNamed Volume.name agentVolume
                    (spec.volumes.getD [])) } } := by
  rw [withVariables_eq isSpec containers]
  rfl

end Records

/-- The variables that the Java agent finds, and that it leaves if it gives
up. -/
theorem addedTo_javaVariables
    (context : InjectionContext) (pod : Pod) (olds : List EnvVar) :
    let configured := configuredFor context pod olds
    ∃ kept fromConfig fromJava,
      (javaVariables? configured).getD configured =
        kept ++ fromConfig ++ fromJava ∧
      AddedTo .java olds kept fromConfig fromJava := by
  intro configured
  obtain ⟨kept, fromConfig, isConfigured, added⟩ :=
    addedTo_configuredFor context pod olds
  have samePlace :
      configured.findIdx? holdsJavaOptions =
        olds.findIdx? holdsJavaOptions :=
    holdsJavaOptions_configuredVariables.2
  have isWhole : configured = kept ++ fromConfig := isConfigured
  rw [isWhole] at samePlace ⊢
  obtain ⟨rewritten, fromJava, isResult, addedJava⟩ := added.java samePlace
  exact ⟨rewritten, fromConfig, fromJava, isResult, addedJava⟩

section Injectors

variable {container : Container}

theorem added_injectConfig
    (context : InjectionContext)
    (found : pod.firstContainer? = some container)
    (plain : hasSourcedAttributes container.variables = false) :
    ∃ addition : Addition .config pod,
      (injectConfig context pod).pod = addition.outcome := by
  obtain ⟨spec, others, isSpec, containers⟩ :=
    Pod.firstContainer?_eq_some_iff.1 found
  obtain ⟨kept, fromConfig, isConfigured, entries⟩ :=
    addedTo_configuredFor context pod container.variables
  rcases injectConfig_cases context found with
    ⟨sourced, _, _⟩ | ⟨_, _, isPod⟩
  · rw [plain] at sourced
    cases sourced
  · refine
      ⟨{ spec, first := container, others, isSpec, containers
         kept, fromConfig, fromJava := [], entries
         volumeMounts := container.volumeMounts
         mounts := Or.inl rfl
         initContainers := spec.initContainers
         loaders := Or.inl rfl
         volumes := spec.volumes
         storage := Or.inl rfl }, isPod.trans ?_⟩
    rw [withVariables_eq isSpec containers, isConfigured]
    simp only [Addition.outcome, List.append_nil]

theorem added_injectJava
    (context : InjectionContext)
    (found : pod.firstContainer? = some container)
    (plain : hasSourcedAttributes container.variables = false) :
    ∃ addition : Addition .java pod,
      (injectJava context pod).pod = addition.outcome := by
  obtain ⟨spec, others, isSpec, containers⟩ :=
    Pod.firstContainer?_eq_some_iff.1 found
  obtain ⟨kept, fromConfig, fromJava, isResult, entries⟩ :=
    addedTo_javaVariables context pod container.variables
  rcases injectJava_cases context found with
    ⟨sourced, _, _⟩ | ⟨_, refused, _, isPod⟩ | ⟨_, env, reached, _, isPod⟩
  · rw [plain] at sourced
    cases sourced
  · rw [refused, Option.getD_none] at isResult
    refine
      ⟨{ spec, first := container, others, isSpec, containers
         kept, fromConfig, fromJava, entries
         volumeMounts := container.volumeMounts
         mounts := Or.inl rfl
         initContainers := spec.initContainers
         loaders := Or.inl rfl
         volumes := spec.volumes
         storage := Or.inl rfl }, isPod.trans ?_⟩
    rw [withVariables_eq isSpec containers, isResult]
    rfl
  · rw [reached, Option.getD_some] at isResult
    refine
      ⟨{ spec, first := container, others, isSpec, containers
         kept, fromConfig, fromJava, entries
         volumeMounts := _
         mounts := lengthened_withNamed VolumeMount.name agentMount _
         initContainers := _
         loaders :=
          lengthened_withNamed Container.name
            (agentLoader context.config.javaImage) _
         volumes := _
         storage := lengthened_withNamed Volume.name agentVolume _ },
        isPod.trans ?_⟩
    rw [withAgent_withVariables isSpec containers, isResult]
    rfl

end Injectors

/-- Unless the exporter cannot be configured, when nothing happens, an injector
only adds: whether it comes to its end or not. -/
theorem inject_adds
    (context : InjectionContext) (injector : Injector) (pod : Pod) :
    let injected := (injector.inject context pod).pod
    ((injectConfig context pod).fault ≠ none ∧ injected = pod) ∨
    ((injectConfig context pod).fault = none ∧
      ∃ addition : Addition injector pod, injected = addition.outcome) := by
  intro injected
  cases found : pod.firstContainer? with
  | none =>
      have stops :
          injectConfig context pod = { pod, fault := some .noContainers } := by
        simp only [injectConfig, found]
      refine Or.inl ⟨by simp [stops], ?_⟩
      cases injector <;>
        simp [injected, Injector.inject, injectJava, stops]
  | some container =>
      rcases injectConfig_cases context found with
        ⟨sourced, fault, isPod⟩ | ⟨plain, fault, _⟩
      · refine Or.inl ⟨by simp [fault], ?_⟩
        cases injector with
        | config =>
            exact isPod
        | java =>
            simp only [injected, Injector.inject, injectJava, fault]
            exact isPod
      · refine Or.inr ⟨fault, ?_⟩
        cases injector with
        | config =>
            exact added_injectConfig context found plain
        | java =>
            exact added_injectJava context found plain

end PodTelemetry.Injection
