import PodTelemetry.Proofs.Injection.Lists
import PodTelemetry.Proofs.Kubernetes.Growth

/-!
# Variables that injection rewrites

What the injectors make of the variables of a container, apart from the pod
around them: which entries they find, what stays as it was, and what an
injector finds when it comes upon its own work.
-/

namespace PodTelemetry.Injection

open PodTelemetry.Attributes (declares)
open PodTelemetry.Kubernetes
open PodTelemetry.Json.Decoder (Readable)

variable {config : InjectionConfig} {service : String}
variable {attributes : Attributes} {env : List EnvVar}

/-- Whether a variable holds options for Java. -/
def holdsJavaOptions (entry : EnvVar) : Bool := entry.name = Env.javaOptions

/-- The variable that declares attributes as one text. -/
def declaration (attributes : Attributes) : EnvVar :=
  EnvVar.literal Env.resourceAttributes attributes.text

theorem hasSourcedAttributes_iff :
    hasSourcedAttributes env = true ↔
      ∃ entry ∈ env,
        entry.name = Env.resourceAttributes ∧ entry.valueFrom ≠ none := by
  simp [hasSourcedAttributes, Option.isSome_iff_ne_none]

theorem hasSourcedAttributes_eq_false_iff :
    hasSourcedAttributes env = false ↔
      ∀ entry ∈ env, declares entry → entry.valueFrom = none := by
  simp [hasSourcedAttributes, declares]

/-! ## Configured variables -/

theorem name_of_mem_exporterVariables
    {entry : EnvVar} (member : entry ∈ exporterVariables config service) :
    entry.name ≠ Env.resourceAttributes ∧ entry.name ≠ Env.javaOptions := by
  have named :
      entry.name ∈
        [Env.nodeAgent, Env.serviceName, Env.endpoint, Env.tracesExporter] :=
    List.mem_map_of_mem member
  have others :
      ∀ name ∈
          [Env.nodeAgent, Env.serviceName, Env.endpoint, Env.tracesExporter],
        name ≠ Env.resourceAttributes ∧ name ≠ Env.javaOptions := by
    decide
  exact others entry.name named

theorem not_declares_of_mem_exporterVariables
    {entry : EnvVar} (member : entry ∈ exporterVariables config service) :
    declares entry = false := by
  simp [declares, (name_of_mem_exporterVariables member).1]

theorem not_holdsJavaOptions_of_mem_exporterVariables
    {entry : EnvVar} (member : entry ∈ exporterVariables config service) :
    holdsJavaOptions entry = false := by
  simp [holdsJavaOptions, (name_of_mem_exporterVariables member).2]

/-- Either the first declaration is rewritten where it stands, or a new one is
among the additions. -/
theorem configuredVariables_cases
    (config : InjectionConfig) (service : String) (attributes : Attributes)
    (env : List EnvVar) :
    let merged := attributes.mergedWith env
    let configured := configuredVariables config service merged env
    (∃ index old added,
      env.findIdx? declares = some index ∧ env[index]? = some old ∧
      declares old ∧
      configured = env.set index (declaration merged.attributes) ++ added ∧
      added.Sublist (exporterVariables config service)) ∨
    (env.find? declares = none ∧
      ∃ added,
        configured = env ++ added ∧
        added.Sublist
          (exporterVariables config service ++
            [declaration merged.attributes])) := by
  intro merged configured
  cases found : env.find? declares with
  | none =>
      have undeclared : merged.existingIndex = none :=
        findIdx?_eq_none_of_find? found
      obtain ⟨added, whole, wanted⟩ :=
        exists_withAdditions_eq_append env
          (exporterVariables config service ++
            [declaration merged.attributes])
      refine Or.inr ⟨rfl, added, ?_, wanted⟩
      rw [← whole]
      simp only [configured, configuredVariables, undeclared, declaration]
  | some old =>
      obtain ⟨index, isIndex, isOld⟩ := exists_findIdx?_of_find? found
      have declared : merged.existingIndex = some index := isIndex
      obtain ⟨added, whole, wanted⟩ :=
        exists_withAdditions_eq_append
          (env.set index (declaration merged.attributes))
          (exporterVariables config service)
      refine
        Or.inl
          ⟨index, old, added, isIndex, isOld, List.find?_some found, ?_,
            wanted⟩
      rw [← whole]
      simp only [configured, configuredVariables, declared, declaration]

theorem mem_configuredVariables_of_exporter
    {merged : Attributes.Merged} {entry : EnvVar}
    (member : entry ∈ exporterVariables config service) :
    entry ∈ configuredVariables config service merged env := by
  unfold configuredVariables
  cases merged.existingIndex with
  | none =>
      exact mem_withAdditions (Or.inr (List.mem_append_left _ member))
  | some index =>
      exact mem_withAdditions (Or.inr member)

theorem declares_declaration (attributes : Attributes) :
    declares (declaration attributes) := by
  simp [declares, declaration, EnvVar.literal]

/-- Variables that declare no attributes stay where they are, and additions
come behind them. -/
theorem configuredVariables_places
    (config : InjectionConfig) (service : String) (attributes : Attributes)
    (env : List EnvVar) :
    let merged := attributes.mergedWith env
    ∃ kept added,
      configuredVariables config service merged env = kept ++ added ∧
      kept.length = env.length ∧
      (∀ (index : Nat) (entry : EnvVar), declares entry = false →
        (kept[index]? = some entry ↔ env[index]? = some entry)) ∧
      added.Sublist
        (exporterVariables config service ++
          [declaration merged.attributes]) := by
  intro merged
  rcases configuredVariables_cases config service attributes env with
    ⟨place, old, added, _, isOld, oldDeclares, whole, wanted⟩ |
      ⟨_, added, whole, wanted⟩
  · refine
      ⟨_, added, whole, List.length_set, fun index entry other => ?_,
        wanted.trans (List.sublist_append_left _ _)⟩
    by_cases here : place = index
    · subst here
      have newDeclares := declares_declaration merged.attributes
      rw [List.getElem?_set_self (List.getElem?_eq_some_iff.1 isOld).1, isOld]
      constructor
      · intro isEntry
        rw [Option.some.inj isEntry, other] at newDeclares
        cases newDeclares
      · intro isEntry
        rw [Option.some.inj isEntry, other] at oldDeclares
        cases oldDeclares
    · rw [List.getElem?_set_ne here]
  · exact ⟨env, added, whole, rfl, fun _ _ _ => Iff.rfl, wanted⟩

/-- A declaration without a source is rewritten by giving it another text. -/
theorem declaration_eq_of_declares
    {old : EnvVar} (isDeclaration : declares old)
    (unsourced : old.valueFrom = none) (attributes : Attributes) :
    declaration attributes = { old with value := some attributes.text } := by
  simp only [declares, decide_eq_true_eq] at isDeclaration
  simp only [declaration, EnvVar.literal, isDeclaration, unsourced]

theorem not_holdsJavaOptions_of_declares
    {entry : EnvVar} (isDeclaration : declares entry) :
    holdsJavaOptions entry = false := by
  simp only [declares, decide_eq_true_eq] at isDeclaration
  rw [holdsJavaOptions, isDeclaration]
  decide

/-- The exporter's configuration begins with a declaration of the merged
attributes. -/
theorem find?_declares_configuredVariables :
    (configuredVariables config service (attributes.mergedWith env) env).find?
        declares =
      some (declaration (attributes.mergedWith env).attributes) := by
  rcases configuredVariables_cases config service attributes env with
    ⟨index, old, added, isIndex, _, _, whole, _⟩ |
      ⟨undeclared, added, whole, wanted⟩
  · have isFirst :=
      find?_set_findIdx? isIndex
        (declares_declaration (attributes.mergedWith env).attributes)
    rw [whole, List.find?_append, isFirst]
    rfl
  · refine
      find?_eq_some_of_only ?_ (declares_declaration _)
        fun other member is => ?_
    · have isUndeclared := findIdx?_eq_none_of_find? undeclared
      unfold configuredVariables
      simp only [Attributes.mergedWith, isUndeclared]
      exact mem_withAdditions (Or.inr (by simp [declaration]))
    · rw [whole] at member
      rcases List.mem_append.1 member with before | isAdded
      · exact absurd is (List.find?_eq_none.1 undeclared other before)
      · rcases List.mem_append.1 (wanted.subset isAdded) with exported | same
        · rw [not_declares_of_mem_exporterVariables exported] at is
          cases is
        · exact List.mem_singleton.1 same

theorem not_holdsJavaOptions_of_mem_additions
    {entry : EnvVar} {attributes : Attributes}
    (member :
      entry ∈ exporterVariables config service ++ [declaration attributes]) :
    holdsJavaOptions entry = false := by
  rcases List.mem_append.1 member with exported | same
  · exact not_holdsJavaOptions_of_mem_exporterVariables exported
  · rw [List.mem_singleton.1 same]
    exact not_holdsJavaOptions_of_declares (declares_declaration attributes)

/-- Configuring the exporter does not touch the options for Java: the first
of them stays as it is and where it is. -/
theorem holdsJavaOptions_configuredVariables :
    let configured :=
      configuredVariables config service (attributes.mergedWith env) env
    configured.find? holdsJavaOptions = env.find? holdsJavaOptions ∧
      configured.findIdx? holdsJavaOptions =
        env.findIdx? holdsJavaOptions := by
  intro configured
  have noneHolds :
      ∀ {added : List EnvVar} {attributes : Attributes},
        added.Sublist
            (exporterVariables config service ++ [declaration attributes]) →
          added.find? holdsJavaOptions = none := by
    intro added attributes wanted
    refine List.find?_eq_none.2 fun entry member => ?_
    simp [not_holdsJavaOptions_of_mem_additions (wanted.subset member)]
  rcases configuredVariables_cases config service attributes env with
    ⟨index, old, added, _, isOld, oldDeclares, whole, wanted⟩ |
      ⟨_, added, whole, wanted⟩
  · let new := declaration (attributes.mergedWith env).attributes
    have others :=
      noneHolds (wanted.trans (List.sublist_append_left _ [new]))
    have oldOther := not_holdsJavaOptions_of_declares oldDeclares
    have newOther : holdsJavaOptions new = false :=
      not_holdsJavaOptions_of_declares (declares_declaration _)
    have isWhole : configured = env.set index new ++ added := whole
    rw [isWhole]
    constructor
    · rw [List.find?_append, find?_set_of_neg isOld oldOther newOther, others,
        Option.or_none]
    · rw [List.findIdx?_append, findIdx?_set_of_neg isOld oldOther newOther,
        findIdx?_eq_none_of_find? others, Option.map_none, Option.or_none]
  · have others := noneHolds wanted
    have isWhole : configured = env ++ added := whole
    rw [isWhole]
    constructor
    · rw [List.find?_append, others, Option.or_none]
    · rw [List.findIdx?_append, findIdx?_eq_none_of_find? others,
        Option.map_none, Option.or_none]

/-- No declaration has a source once the exporter is configured. -/
theorem hasSourcedAttributes_configuredVariables
    (plain : hasSourcedAttributes env = false) :
    hasSourcedAttributes
        (configuredVariables config service (attributes.mergedWith env) env) =
      false := by
  rw [hasSourcedAttributes_eq_false_iff] at plain ⊢
  intro entry member is
  have exporter :
      entry ∈ exporterVariables config service → entry.valueFrom = none := by
    intro exported
    rw [not_declares_of_mem_exporterVariables exported] at is
    cases is
  rcases configuredVariables_cases config service attributes env with
    ⟨index, old, added, _, _, _, whole, wanted⟩ | ⟨_, added, whole, wanted⟩
  · rw [whole] at member
    rcases List.mem_append.1 member with rewritten | isAdded
    · rcases List.mem_or_eq_of_mem_set rewritten with before | same
      · exact plain entry before is
      · rw [same]
        rfl
    · exact exporter (wanted.subset isAdded)
  · rw [whole] at member
    rcases List.mem_append.1 member with before | isAdded
    · exact plain entry before is
    · rcases List.mem_append.1 (wanted.subset isAdded) with exported | same
      · exact exporter exported
      · rw [List.mem_singleton.1 same]
        rfl

/-- Among the variables that declare no attributes, only the exporter's are
added. -/
theorem filter_configuredVariables
    {wanted : EnvVar → Bool}
    (notDeclared : ∀ entry, declares entry → wanted entry = false) :
    (configuredVariables config service (attributes.mergedWith env)
          env).filter wanted =
      withAdditions (env.filter wanted)
        ((exporterVariables config service).filter wanted) := by
  have notNew :=
    notDeclared _
      (declares_declaration (attributes.mergedWith env).attributes)
  unfold declaration at notNew
  unfold configuredVariables
  cases isPlace : (attributes.mergedWith env).existingIndex with
  | none =>
      dsimp only
      rw [filter_withAdditions, List.filter_append, List.filter_singleton,
        notNew, cond_false, List.append_nil]
  | some index =>
      obtain ⟨inRange, isDeclaration, _⟩ :=
        List.findIdx?_eq_some_iff_getElem.1 isPlace
      dsimp only
      rw [filter_withAdditions,
        filter_set_of_neg (List.getElem?_eq_getElem inRange)
          (notDeclared _ isDeclaration) notNew]

theorem filter_holdsJavaOptions_configuredVariables :
    (configuredVariables config service (attributes.mergedWith env)
          env).filter holdsJavaOptions =
      env.filter holdsJavaOptions := by
  have noSetting :
      (exporterVariables config service).filter holdsJavaOptions = [] := by
    rw [List.filter_eq_nil_iff]
    intro entry member
    simp [not_holdsJavaOptions_of_mem_exporterVariables member]
  rw [filter_configuredVariables fun _ => not_holdsJavaOptions_of_declares,
    noSetting]
  rfl

/-- Variables stay in their places when the exporter is configured. -/
theorem extends_configuredVariables
    (plain : hasSourcedAttributes env = false) :
    Extends EnvVar.Revalued (Readable EnvVar.ofJson EnvVar.toJson) env
      (configuredVariables config service (attributes.mergedWith env)
        env) := by
  rcases configuredVariables_cases config service attributes env with
    ⟨index, old, added, _, isOld, oldDeclares, whole, _⟩ |
      ⟨_, added, whole, _⟩
  · have oldPlain : old.valueFrom = none :=
      hasSourcedAttributes_eq_false_iff.1 plain old
        (List.mem_of_getElem? isOld) oldDeclares
    have revalued :
        old.Revalued
          (declaration (attributes.mergedWith env).attributes) :=
      Or.inr ⟨_, declaration_eq_of_declares oldDeclares oldPlain _⟩
    have rewritten :
        Extends EnvVar.Revalued (Readable EnvVar.ofJson EnvVar.toJson) env
          (env.set index
            (declaration (attributes.mergedWith env).attributes)) :=
      Extends.set EnvVar.Revalued.refl isOld revalued
    rw [whole]
    refine EnvVar.extends_trans rewritten ?_
    exact
      Extends.append EnvVar.Revalued.refl _ fun entry _ => entry.readable
  · rw [whole]
    exact
      Extends.append EnvVar.Revalued.refl env fun entry _ => entry.readable

/-! ## Options for Java -/

theorem contains_withAgentOption (options : String) :
    Text.contains Instrumentation.agentOption.toList
        (withAgentOption options).toList =
      true := by
  unfold withAgentOption
  by_cases present :
      Text.contains Instrumentation.agentOption.toList options.toList
  · rw [if_pos present]
    exact present
  · rw [if_neg present]
    by_cases empty : options = ""
    · rw [if_pos empty]
      exact Text.contains_append Instrumentation.agentOption.toList []
    · rw [if_neg empty, String.toList_append]
      exact
        Text.contains_append Instrumentation.agentOption.toList
          (options ++ " ").toList

theorem withAgentOption_of_contains
    {options : String}
    (present :
      Text.contains Instrumentation.agentOption.toList options.toList) :
    withAgentOption options = options := by
  rw [withAgentOption, if_pos present]

theorem findIdx?_javaOptions (env : List EnvVar) :
    (env.findIdx? fun entry => entry.name = Env.javaOptions) =
      env.findIdx? holdsJavaOptions := rfl

theorem javaVariables?_eq_none_iff :
    javaVariables? env = none ↔
      ∃ entry,
        env.find? holdsJavaOptions = some entry ∧ entry.valueFrom.isSome := by
  unfold javaVariables?
  rw [findIdx?_javaOptions]
  cases found : env.find? holdsJavaOptions with
  | none =>
      simp [findIdx?_eq_none_of_find? found]
  | some entry =>
      obtain ⟨index, isIndex, isEntry⟩ := exists_findIdx?_of_find? found
      simp only [isIndex, isEntry]
      by_cases sourced : entry.valueFrom.isSome <;> simp [sourced]

theorem javaVariables?_eq_none_iff_sourced :
    javaVariables? env = none ↔
      ∃ entry,
        env.find? (fun entry => entry.name = Env.javaOptions) =
            some entry ∧
          entry.valueFrom ≠ none := by
  simp only [← Option.isSome_iff_ne_none]
  exact javaVariables?_eq_none_iff

/-- The option goes into the first variable for Java options, or into a new
one. -/
theorem javaVariables?_cases
    {result : List EnvVar} (reached : javaVariables? env = some result) :
    (env.find? holdsJavaOptions = none ∧
      result =
        env ++
          [EnvVar.literal Env.javaOptions Instrumentation.agentOption]) ∨
    ∃ index entry,
      env.findIdx? holdsJavaOptions = some index ∧
      env[index]? = some entry ∧
      holdsJavaOptions entry ∧
      entry.valueFrom = none ∧
      result =
        env.set index
          { entry with
            value := some (withAgentOption (entry.value.getD "")) } := by
  unfold javaVariables? at reached
  rw [findIdx?_javaOptions] at reached
  cases found : env.find? holdsJavaOptions with
  | none =>
      simp only [findIdx?_eq_none_of_find? found] at reached
      exact Or.inl ⟨rfl, (Option.some.inj reached).symm⟩
  | some entry =>
      obtain ⟨index, isIndex, isEntry⟩ := exists_findIdx?_of_find? found
      simp only [isIndex, isEntry] at reached
      by_cases sourced : entry.valueFrom.isSome
      · simp [sourced] at reached
      · simp only [sourced] at reached
        refine
          Or.inr
            ⟨index, entry, isIndex, isEntry, List.find?_some found, ?_,
              (Option.some.inj reached).symm⟩
        simpa using sourced

/-- What stands around the first variable for Java options stays. -/
theorem javaVariables?_places
    {result : List EnvVar} (reached : javaVariables? env = some result) :
    ((∀ entry ∈ env, holdsJavaOptions entry = false) ∧
      result =
        env ++
          [EnvVar.literal Env.javaOptions Instrumentation.agentOption]) ∨
    ∃ front entry back,
      env = front ++ entry :: back ∧
      (∀ other ∈ front, holdsJavaOptions other = false) ∧
      holdsJavaOptions entry ∧
      entry.valueFrom = none ∧
      result =
        front ++
          { entry with
            value := some (withAgentOption (entry.value.getD "")) } ::
            back := by
  rcases javaVariables?_cases reached with
    ⟨absent, isResult⟩ |
      ⟨index, entry, isIndex, isEntry, holds, unsourced, isResult⟩
  · refine Or.inl ⟨?_, isResult⟩
    simpa [List.find?_eq_none] using absent
  · obtain ⟨front, back, whole, others, rewritten⟩ :=
      exists_append_of_findIdx? isIndex isEntry
    refine Or.inr ⟨front, entry, back, whole, others, holds, unsourced, ?_⟩
    rw [isResult, rewritten]

theorem javaVariables?_of_absent
    (absent : ∀ entry ∈ env, holdsJavaOptions entry = false) :
    javaVariables? env =
      some
        (env ++
          [EnvVar.literal Env.javaOptions Instrumentation.agentOption]) := by
  have nowhere : env.findIdx? holdsJavaOptions = none :=
    List.findIdx?_eq_none_iff.2 absent
  unfold javaVariables?
  rw [findIdx?_javaOptions, nowhere]

theorem javaVariables?_append_cons
    {front back : List EnvVar} {entry : EnvVar}
    (others : ∀ other ∈ front, holdsJavaOptions other = false)
    (holds : holdsJavaOptions entry) (unsourced : entry.valueFrom = none) :
    javaVariables? (front ++ entry :: back) =
      some
        (front ++
          { entry with
            value := some (withAgentOption (entry.value.getD "")) } ::
            back) := by
  have place :
      (front ++ entry :: back).findIdx? holdsJavaOptions =
        some front.length := by
    rw [List.findIdx?_append, List.findIdx?_eq_none_iff.2 others,
      List.findIdx?_cons, if_pos holds]
    simp
  unfold javaVariables?
  rw [findIdx?_javaOptions, place]
  simp [unsourced]

theorem not_declares_of_holdsJavaOptions
    {entry : EnvVar} (holds : holdsJavaOptions entry) :
    declares entry = false := by
  simp only [holdsJavaOptions, decide_eq_true_eq] at holds
  rw [declares, holds]
  decide

theorem extends_javaVariables
    {result : List EnvVar} (reached : javaVariables? env = some result) :
    Extends EnvVar.Revalued (Readable EnvVar.ofJson EnvVar.toJson) env
      result := by
  rcases javaVariables?_cases reached with
    ⟨_, rfl⟩ | ⟨index, entry, _, isEntry, _, _, rfl⟩
  · exact
      Extends.append EnvVar.Revalued.refl env fun entry _ => entry.readable
  · exact Extends.set EnvVar.Revalued.refl isEntry (Or.inr ⟨_, rfl⟩)

/-- The options for Java have no part in the declaration of attributes. -/
theorem find?_declares_javaVariables
    {result : List EnvVar} (reached : javaVariables? env = some result) :
    result.find? declares = env.find? declares := by
  rcases javaVariables?_cases reached with
    ⟨_, rfl⟩ | ⟨index, entry, _, isEntry, holds, _, rfl⟩
  · have other :
        declares
            (EnvVar.literal Env.javaOptions Instrumentation.agentOption) =
          false := by
      decide
    simp [List.find?_append, other]
  · exact
      find?_set_of_neg isEntry (not_declares_of_holdsJavaOptions holds)
        (not_declares_of_holdsJavaOptions holds)

theorem filter_javaVariables
    {wanted : EnvVar → Bool}
    (other : ∀ entry, holdsJavaOptions entry → wanted entry = false)
    {result : List EnvVar} (reached : javaVariables? env = some result) :
    result.filter wanted = env.filter wanted := by
  rcases javaVariables?_cases reached with
    ⟨_, rfl⟩ | ⟨index, entry, _, isEntry, holds, _, rfl⟩
  · rw [List.filter_append, List.filter_singleton, other _ (by decide)]
    exact List.append_nil _
  · exact filter_set_of_neg isEntry (other _ holds) (other _ holds)

theorem mem_javaVariables
    {result : List EnvVar} (reached : javaVariables? env = some result)
    {entry : EnvVar} (member : entry ∈ env)
    (other : holdsJavaOptions entry = false) :
    entry ∈ result := by
  rcases javaVariables?_cases reached with
    ⟨_, rfl⟩ | ⟨index, old, _, isOld, holds, _, rfl⟩
  · exact List.mem_append_left _ member
  · obtain ⟨place, isEntry⟩ := List.mem_iff_getElem?.1 member
    have elsewhere : index ≠ place := by
      intro same
      rw [same, isEntry] at isOld
      rw [Option.some.inj isOld, holds] at other
      cases other
    refine List.mem_iff_getElem?.2 ⟨place, ?_⟩
    rw [List.getElem?_set_ne elsewhere]
    exact isEntry

theorem hasSourcedAttributes_javaVariables
    {result : List EnvVar} (reached : javaVariables? env = some result)
    (plain : hasSourcedAttributes env = false) :
    hasSourcedAttributes result = false := by
  rw [hasSourcedAttributes_eq_false_iff] at plain ⊢
  intro entry member isDeclaration
  rcases javaVariables?_cases reached with
    ⟨_, rfl⟩ | ⟨index, old, _, isOld, holds, unsourced, rfl⟩
  · rcases List.mem_append.1 member with before | isNew
    · exact plain entry before isDeclaration
    · rw [List.mem_singleton.1 isNew]
      rfl
  · rcases List.mem_or_eq_of_mem_set member with before | same
    · exact plain entry before isDeclaration
    · rw [same]
      exact unsourced

theorem withAgentOption_withAgentOption (options : String) :
    withAgentOption (withAgentOption options) = withAgentOption options :=
  withAgentOption_of_contains (contains_withAgentOption options)

/-- The agent's option is found again, so that nothing is appended to it. -/
theorem javaVariables?_javaVariables
    {result : List EnvVar} (reached : javaVariables? env = some result) :
    javaVariables? result = some result := by
  rcases javaVariables?_places reached with
    ⟨absent, rfl⟩ | ⟨front, entry, back, _, before, holds, unsourced, rfl⟩
  · have found :
        withAgentOption Instrumentation.agentOption =
          Instrumentation.agentOption :=
      withAgentOption_of_contains (Text.contains_append _ [])
    rw [javaVariables?_append_cons absent (by decide) rfl]
    simp only [EnvVar.literal, Option.getD_some, found]
  · let rewritten : EnvVar :=
      { entry with value := some (withAgentOption (entry.value.getD "")) }
    have holdsStill : holdsJavaOptions rewritten := holds
    rw [javaVariables?_append_cons before holdsStill unsourced]
    simp only [rewritten, Option.getD_some, withAgentOption_withAgentOption]

end PodTelemetry.Injection
